import Mathlib.Data.List.TakeWhile
import MeshSync.Bytes

/-! # Texts as bytes

    The bytes of a character say by the first of them how many there are, so
    they are read as that character whatever follows (`character_ofChar`), and
    the bytes of a text are read as that text (`lossyText_ofText`,
    `text?_ofText`). -/

namespace MeshSync.Bytes

/-! ## One character -/

theorem toNat_ofNat_of_lt {n : Nat} (h : n < 256) : (UInt8.ofNat n).toNat = n := by
  rw [UInt8.toNat_ofNat']
  omega

/-- Bytes that continue a character, by their bits. -/
def continuing (ks : List Nat) : Bytes := ks.map fun k => UInt8.ofNat (0x80 + k)

theorem isContinuation_of_mem {ks : List Nat} (h : ∀ k ∈ ks, k < 64) :
    ∀ b ∈ continuing ks, isContinuation b = true := by
  intro b hb
  obtain ⟨k, hk, rfl⟩ := List.mem_map.1 hb
  have hlt := h k hk
  have hbyte := toNat_ofNat_of_lt (show 0x80 + k < 256 by omega)
  rw [isContinuation, Bool.and_eq_true, decide_eq_true_eq, decide_eq_true_eq,
    UInt8.le_iff_toNat_le, UInt8.le_iff_toNat_le, hbyte]
  show 0x80 ≤ 0x80 + k ∧ 0x80 + k ≤ 0xBF
  omega

/-- The number that bits stand for. -/
theorem foldl_continuing {ks : List Nat} (h : ∀ k ∈ ks, k < 64) (start : Nat) :
    (continuing ks).foldl (fun n b => n * 64 + b.toNat % 64) start =
      ks.foldl (fun n k => n * 64 + k) start := by
  induction ks generalizing start with
  | nil => rfl
  | cons k ks ih =>
      have hlt := h k (by simp)
      have hbyte := toNat_ofNat_of_lt (show 0x80 + k < 256 by omega)
      show (continuing ks).foldl _ (start * 64 + (UInt8.ofNat (0x80 + k)).toNat % 64) = _
      rw [hbyte, ih fun d hd => h d (List.mem_cons_of_mem _ hd), List.foldl_cons,
        show (0x80 + k) % 64 = k by omega]

/-- Reading a character of several bytes, the second of which may follow the
    first. -/
theorem character_of_lead {b low high : UInt8} {bits : Nat} (k : Nat) (ks : List Nat)
    (hlead : lead? b = some (ks.length + 1, low, high, bits)) (hlow : low.toNat ≤ 0x80 + k)
    (hhigh : 0x80 + k ≤ high.toNat) (h : ∀ d ∈ k :: ks, d < 64) (rest : Bytes) :
    character b (continuing (k :: ks) ++ rest) =
      (some (Char.ofNat ((k :: ks).foldl (fun n d => n * 64 + d) bits)), ks.length + 1) := by
  have hks : ∀ d ∈ ks, d < 64 := fun d hd => h d (List.mem_cons_of_mem _ hd)
  have hlt := h k (by simp)
  have hbyte := toNat_ofNat_of_lt (show 0x80 + k < 256 by omega)
  have hlength : (continuing ks).length = ks.length := List.length_map _
  have htaken : ((continuing ks ++ rest).take ks.length).takeWhile isContinuation =
      continuing ks := by
    rw [← hlength, List.take_left]
    exact List.takeWhile_eq_self_iff.2 (isContinuation_of_mem hks)
  have hsecond : (low ≤ UInt8.ofNat (0x80 + k) && UInt8.ofNat (0x80 + k) ≤ high) = true := by
    rw [Bool.and_eq_true, decide_eq_true_eq, decide_eq_true_eq, UInt8.le_iff_toNat_le,
      UInt8.le_iff_toNat_le, hbyte]
    exact ⟨hlow, hhigh⟩
  have hbytes : continuing (k :: ks) ++ rest = UInt8.ofNat (0x80 + k) :: (continuing ks ++ rest) :=
    rfl
  rw [character, hlead, hbytes]
  dsimp only
  rw [if_pos hsecond, htaken, if_pos hlength, hlength]
  exact congrArg (fun n => (some (Char.ofNat n), _)) (foldl_continuing h bits)

/-! What the first byte of a character says, by the bits in it. -/

theorem lead?_two : ∀ k < 30,
    lead? (UInt8.ofNat (0xC2 + k)) = some (1, 0x80, 0xBF, 2 + k) := by
  decide

theorem lead?_three : ∀ k < 16, lead? (UInt8.ofNat (0xE0 + k)) =
    some (2, if k = 0 then 0xA0 else 0x80, if k = 13 then 0x9F else 0xBF, k) := by
  decide

theorem lead?_four : ∀ k < 5, lead? (UInt8.ofNat (0xF0 + k)) =
    some (3, if k = 0 then 0x90 else 0x80, if k = 4 then 0x8F else 0xBF, k) := by
  decide

/-- **A character is read from its bytes**, whatever follows them. -/
theorem character_ofChar (c : Char) : ∃ b more, ofChar c = b :: more ∧
    ∀ rest, character b (more ++ rest) = (some c, more.length) := by
  have hvalid : c.toNat < 0xD800 ∨ (0xDFFF < c.toNat ∧ c.toNat < 0x110000) := c.valid
  have hchar : Char.ofNat c.toNat = c := Char.ofNat_toNat c
  unfold ofChar
  dsimp only
  generalize c.toNat = n at hvalid hchar
  -- by the number of bytes: the bits of all of them put together are the number
  split
  · next h =>
      refine ⟨_, _, rfl, ?_⟩
      intro rest
      rw [character, lead?, toNat_ofNat_of_lt (by omega), if_pos h]
      show (some (Char.ofNat n), 0) = (some c, 0)
      rw [hchar]
  split
  · next h =>
      refine ⟨_, _, rfl, ?_⟩
      intro rest
      have hlead := lead?_two (n / 64 - 2) (by omega)
      rw [show 0xC2 + (n / 64 - 2) = 0xC0 + n / 64 by omega,
        show 2 + (n / 64 - 2) = n / 64 by omega] at hlead
      have hvalue : n / 64 * 64 + n % 64 = n := by omega
      refine (character_of_lead (n % 64) [] hlead ?_ ?_ (by simp; omega) rest).trans ?_
      · exact Nat.le_add_right _ _
      · show 0x80 + n % 64 ≤ 0xBF
        omega
      · show (some (Char.ofNat (n / 64 * 64 + n % 64)), 1) = (some c, 1)
        rw [hvalue, hchar]
  split
  · next h =>
      refine ⟨_, _, rfl, ?_⟩
      intro rest
      have hlead := lead?_three (n / 4096) (by omega)
      have hvalue : (n / 4096 * 64 + n / 64 % 64) * 64 + n % 64 = n := by omega
      refine (character_of_lead (n / 64 % 64) [n % 64] hlead ?_ ?_
        (by simp; omega) rest).trans ?_
      · split
        · show 0xA0 ≤ 0x80 + n / 64 % 64
          omega
        · exact Nat.le_add_right _ _
      · split
        · show 0x80 + n / 64 % 64 ≤ 0x9F
          omega
        · show 0x80 + n / 64 % 64 ≤ 0xBF
          omega
      · show (some (Char.ofNat ((n / 4096 * 64 + n / 64 % 64) * 64 + n % 64)), 2) = (some c, 2)
        rw [hvalue, hchar]
  · refine ⟨_, _, rfl, ?_⟩
    intro rest
    have hlead := lead?_four (n / 262144) (by omega)
    have hvalue : ((n / 262144 * 64 + n / 4096 % 64) * 64 + n / 64 % 64) * 64 + n % 64 = n := by
      omega
    refine (character_of_lead (n / 4096 % 64) [n / 64 % 64, n % 64] hlead ?_ ?_
      (by simp; omega) rest).trans ?_
    · split
      · show 0x90 ≤ 0x80 + n / 4096 % 64
        omega
      · exact Nat.le_add_right _ _
    · split
      · show 0x80 + n / 4096 % 64 ≤ 0x8F
        omega
      · show 0x80 + n / 4096 % 64 ≤ 0xBF
        omega
    · show (some (Char.ofNat (((n / 262144 * 64 + n / 4096 % 64) * 64 + n / 64 % 64) * 64 +
        n % 64)), 3) = (some c, 3)
      rw [hvalue, hchar]

/-- A character outside ASCII begins with a byte outside ASCII. -/
theorem head_ofChar {c : Char} (h : 0x80 ≤ c.toNat) :
    ∃ b more, ofChar c = b :: more ∧ 0x80 ≤ b.toNat := by
  have hvalid : c.toNat < 0xD800 ∨ (0xDFFF < c.toNat ∧ c.toNat < 0x110000) := c.valid
  unfold ofChar
  dsimp only
  generalize c.toNat = n at h hvalid
  rw [if_neg (Nat.not_lt.2 h)]
  split
  · exact ⟨_, _, rfl, by rw [toNat_ofNat_of_lt (by omega)]; omega⟩
  split
  · exact ⟨_, _, rfl, by rw [toNat_ofNat_of_lt (by omega)]; omega⟩
  · exact ⟨_, _, rfl, by rw [toNat_ofNat_of_lt (by omega)]; omega⟩

/-! ## Texts -/

/-- ASCII characters are one byte each. -/
theorem ofChars_ascii {cs : List Char} (h : ∀ c ∈ cs, c.toNat < 0x80) :
    ofChars cs = cs.map fun c => UInt8.ofNat c.toNat := by
  induction cs with
  | nil => rfl
  | cons c cs ih =>
      have hc : ofChar c = [UInt8.ofNat c.toNat] := by rw [ofChar, if_pos (h c (by simp))]
      show ofChar c ++ ofChars cs = _
      rw [hc, ih fun d hd => h d (List.mem_cons_of_mem _ hd)]
      rfl

theorem charsAfter_append (front rest : Bytes) :
    charsAfter front.length (front ++ rest) = charsAfter 0 rest := by
  induction front with
  | nil => rfl
  | cons b front ih => exact ih

/-- The bytes of characters are read as these. -/
theorem charsAfter_ofChars (cs : List Char) : charsAfter 0 (ofChars cs) = cs.map some := by
  induction cs with
  | nil => rfl
  | cons c cs ih =>
      obtain ⟨b, more, hbytes, hread⟩ := character_ofChar c
      show charsAfter 0 (ofChar c ++ ofChars cs) = some c :: cs.map some
      rw [hbytes, List.cons_append, charsAfter, hread]
      dsimp only
      rw [charsAfter_append, ih]

/-- The bytes of characters hold nothing that is replaced. -/
theorem lossyChars_ofChars (cs : List Char) : lossyChars (ofChars cs) = cs := by
  rw [lossyChars, charsAfter_ofChars, List.map_map]
  exact List.map_id cs

theorem length_charsAfter (skip : Nat) (bs : Bytes) : (charsAfter skip bs).length ≤ bs.length := by
  induction bs generalizing skip with
  | nil => cases skip <;> exact Nat.le_refl _
  | cons b rest ih =>
      cases skip with
      | zero => exact Nat.succ_le_succ (ih _)
      | succ skip => exact Nat.le_succ_of_le (ih skip)

/-- Every character takes at least a byte. -/
theorem length_lossyChars (bs : Bytes) : (lossyChars bs).length ≤ bs.length := by
  rw [lossyChars, List.length_map]
  exact length_charsAfter 0 bs

/-- **The bytes of a text are read as that text.** -/
theorem lossyText_ofText (s : String) : lossyText (ofText s) = s := by
  rw [lossyText, ofText, lossyChars_ofChars, String.ofList_toList]

/-- The bytes of a text are the UTF-8 form of that text. -/
theorem text?_ofText (s : String) : text? (ofText s) = some s := by
  have hchars (cs : List Char) : (cs.map some).mapM id = some cs := by
    induction cs with
    | nil => rfl
    | cons c cs ih => rw [List.map_cons, List.mapM_cons, ih]; rfl
  rw [text?, chars?, ofText, charsAfter_ofChars, hchars, Option.map_some, String.ofList_toList]

theorem toNat_char_of_lt {n : Nat} (h : n < 0x80) : (Char.ofNat n).toNat = n := by
  have hvalid : n.isValidChar := .inl (Nat.lt_trans h (by decide))
  rw [Char.ofNat, dif_pos hvalid]
  rfl

/-- ASCII bytes are the bytes of a text. -/
theorem exists_ofText {bs : Bytes} (h : ∀ b ∈ bs, b.toNat < 0x80) : ∃ s, bs = ofText s := by
  have hchar (b : UInt8) (hb : b ∈ bs) : (Char.ofNat b.toNat).toNat = b.toNat :=
    toNat_char_of_lt (h b hb)
  refine ⟨String.ofList (bs.map fun b => Char.ofNat b.toNat), ?_⟩
  rw [ofText, String.toList_ofList, ofChars_ascii, List.map_map]
  · refine (List.map_id bs).symm.trans (List.map_congr_left fun b hb => ?_)
    show b = UInt8.ofNat (Char.ofNat b.toNat).toNat
    rw [hchar b hb, UInt8.ofNat_toNat]
  · intro c hc
    obtain ⟨b, hb, rfl⟩ := List.mem_map.1 hc
    rw [hchar b hb]
    exact h b hb

end MeshSync.Bytes
