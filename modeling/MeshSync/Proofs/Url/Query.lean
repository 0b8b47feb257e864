import MeshSync.Proofs.Bytes
import MeshSync.Proofs.Url.Unreserved

/-! # Queries that are read as they are written

    A `Literal` text stands in a query as it is: no character of it is encoded
    or ends it, and decoding leaves it alone.  A query that was put together
    from pairs with unreserved names and literal values falls into the same
    pairs when it is read (`pairs_plainQuery`). -/

namespace MeshSync

namespace Url

/-- **Decoding shortens what it changes.** -/
theorem length_decode (bs : Bytes) :
    (decode bs).length ≤ bs.length ∧ (bs.length ≤ (decode bs).length → decode bs = bs) := by
  induction bs using decode.induct with
  | case1 a b rest x y hx hy ih =>
      rw [decode, hx, hy]
      dsimp only [List.length_cons]
      omega
  | case2 a b rest hnot ih =>
      have hdecode : decode (37 :: a :: b :: rest) = 37 :: decode (a :: b :: rest) := by
        rw [decode]
        cases hx : hexWeight? a with
        | none => rfl
        | some x =>
            cases hy : hexWeight? b with
            | none => rfl
            | some y => exact (hnot x y hx hy).elim
      rw [hdecode, List.length_cons, List.length_cons]
      exact ⟨Nat.succ_le_succ ih.1, fun h => congrArg (37 :: ·) (ih.2 (Nat.le_of_succ_le_succ h))⟩
  | case3 b rest hnot ih =>
      rw [decode]
      · rw [List.length_cons, List.length_cons]
        exact ⟨Nat.succ_le_succ ih.1, fun h => congrArg (b :: ·) (ih.2 (Nat.le_of_succ_le_succ h))⟩
      · exact hnot
  | case4 => exact ⟨Nat.le_refl _, fun _ => by rw [decode]⟩

/-- Bytes without a percent sign stand for themselves. -/
theorem decode_eq_self {bs : Bytes} (h : ∀ b ∈ bs, b ≠ 37) : decode bs = bs := by
  induction bs with
  | nil => rw [decode]
  | cons b bs ih =>
      have hb : b ≠ 37 := h b (by simp)
      rw [decode, ih fun d hd => h d (List.mem_cons_of_mem _ hd)]
      rintro a c rest rfl
      exact absurd rfl hb

/-- What stands in front of an encoded byte does not count for it. -/
theorem decode_append {front : Bytes} (h : ∀ b ∈ front, b ≠ 37) (bs : Bytes) :
    decode (front ++ bs) = front ++ decode bs := by
  induction front with
  | nil => rfl
  | cons b front ih =>
      have hb : b ≠ 37 := h b (by simp)
      rw [List.cons_append, decode, ih fun d hd => h d (List.mem_cons_of_mem _ hd)]
      · rfl
      · rintro a c rest rfl
        exact absurd rfl hb

namespace Form

/-- A text that stands in a query's value as it is. -/
structure Literal (s : String) : Prop where
  kept : ∀ c ∈ s.toList, isQueryChar c = true
  whole : ∀ c ∈ s.toList, c ≠ '&'
  decoded : decode s.toList = s

/-- Different ASCII characters are different bytes. -/
theorem ofNat_ne {c d : Char} (hc : c.toNat < 0x80) (hd : d.toNat < 0x80) (hne : c ≠ d) :
    UInt8.ofNat c.toNat ≠ UInt8.ofNat d.toNat := by
  intro heq
  have heq := congrArg UInt8.toNat heq
  rw [UInt8.toNat_ofNat', UInt8.toNat_ofNat'] at heq
  exact hne (Char.toNat_inj.1 (by omega))

theorem ofChars_ne {cs : List Char} {d : Char} (hd : d.toNat < 0x80)
    (h : ∀ c ∈ cs, c.toNat < 0x80 ∧ c ≠ d) : ∀ b ∈ Bytes.ofChars cs, b ≠ UInt8.ofNat d.toNat := by
  intro b hb
  rw [Bytes.ofChars_ascii fun c hc => (h c hc).1] at hb
  obtain ⟨c, hc, rfl⟩ := List.mem_map.1 hb
  exact ofNat_ne (h c hc).1 hd (h c hc).2

/-- Without plus signs and encoded bytes, a text is read as it is. -/
theorem decode_eq_self {cs : List Char} (hlow : ∀ c ∈ cs, c.toNat < 0x80)
    (hplus : ∀ c ∈ cs, c ≠ '+') (hencoded : Url.decode (Bytes.ofChars cs) = Bytes.ofChars cs) :
    decode cs = String.ofList cs := by
  have hmap : (Bytes.ofChars cs).map (fun b => if b = 43 then 32 else b) = Bytes.ofChars cs := by
    refine (List.map_congr_left fun b hb => ?_).trans (List.map_id _)
    exact if_neg (ofChars_ne (d := '+') (by decide) (fun c hc => ⟨hlow c hc, hplus c hc⟩) b hb)
  rw [decode, hmap, hencoded, Bytes.lossyText, Bytes.lossyChars_ofChars]

/-- What a text of ASCII characters decodes to is not longer. -/
theorem length_decode_le {cs : List Char} (h : ∀ c ∈ cs, c.toNat < 0x80) :
    (decode cs).toList.length ≤ cs.length := by
  rw [decode, Bytes.lossyText, String.toList_ofList]
  refine Nat.le_trans (Bytes.length_lossyChars _) (Nat.le_trans (length_decode _).1 ?_)
  refine Nat.le_of_eq ?_
  rw [List.length_map, Bytes.ofChars_ascii h, List.length_map]

/-- What a character stands for before it is decoded: a plus sign for a
    blank. -/
def blank (c : Char) : Char := if c = '+' then ' ' else c

theorem blank_ascii {c : Char} (h : c.toNat < 0x80) : (blank c).toNat < 0x80 := by
  rw [blank]
  split
  · decide
  · exact h

theorem ofChars_blank {cs : List Char} (hlow : ∀ c ∈ cs, c.toNat < 0x80) :
    (Bytes.ofChars cs).map (fun b => if b = 43 then 32 else b) = Bytes.ofChars (cs.map blank) := by
  have hblank : ∀ c ∈ cs.map blank, c.toNat < 0x80 := by
    intro c hc
    obtain ⟨d, hd, rfl⟩ := List.mem_map.1 hc
    exact blank_ascii (hlow d hd)
  rw [Bytes.ofChars_ascii hlow, Bytes.ofChars_ascii hblank, List.map_map, List.map_map]
  refine List.map_congr_left fun c hc => ?_
  show (if UInt8.ofNat c.toNat = 43 then 32 else UInt8.ofNat c.toNat) = UInt8.ofNat (blank c).toNat
  rw [blank]
  by_cases hplus : c = '+'
  · rw [if_pos hplus, hplus]
    rfl
  · have hne : UInt8.ofNat c.toNat ≠ 43 := ofNat_ne (d := '+') (hlow c hc) (by decide) hplus
    rw [if_neg hplus, if_neg hne]

/-- A text that decodes to itself has no plus sign and no encoded byte in it. -/
theorem literal_of_decode {cs : List Char} (hlow : ∀ c ∈ cs, c.toNat < 0x80)
    (h : decode cs = String.ofList cs) :
    (∀ c ∈ cs, c ≠ '+') ∧ Url.decode (Bytes.ofChars cs) = Bytes.ofChars cs := by
  have hblank : ∀ c ∈ cs.map blank, c.toNat < 0x80 := by
    intro c hc
    obtain ⟨d, hd, rfl⟩ := List.mem_map.1 hc
    exact blank_ascii (hlow d hd)
  rw [decode, ofChars_blank hlow, Bytes.lossyText] at h
  have h := String.ofList_injective h
  -- the text would come out shorter if a byte had been decoded
  have hwhole : Url.decode (Bytes.ofChars (cs.map blank)) = Bytes.ofChars (cs.map blank) := by
    refine (length_decode _).2 (Nat.le_trans (Nat.le_of_eq ?_) (Bytes.length_lossyChars _))
    rw [h, Bytes.ofChars_ascii hblank, List.length_map, List.length_map]
  rw [hwhole, Bytes.lossyChars_ofChars] at h
  have hplus : ∀ c ∈ cs, c ≠ '+' := by
    rintro c hc rfl
    have hsame : blank '+' = id '+' := List.map_inj_left.1 (h.trans (List.map_id cs).symm) '+' hc
    exact absurd hsame (by decide)
  rw [h] at hwhole
  exact ⟨hplus, hwhole⟩

/-- Unreserved texts are literal. -/
theorem Literal.of_unreserved {s : String} (h : Unreserved s) : Literal s := by
  have hkept : ∀ c ∈ s.toList, isQueryChar c = true := fun c hc =>
    isPathChar.query (isUnreserved.path (h c hc))
  have hlow : ∀ c ∈ s.toList, c.toNat < 0x80 := fun c hc => (isQueryChar_iff.1 (hkept c hc)).1
  have hpercent : ∀ b ∈ Bytes.ofChars s.toList, b ≠ 37 := ofChars_ne (d := '%') (by decide)
    fun c hc => ⟨hlow c hc, ne_of_class (h c hc) (by decide)⟩
  refine ⟨hkept, fun c hc => ne_of_class (h c hc) (by decide), ?_⟩
  rw [decode_eq_self hlow (fun c hc => ne_of_class (h c hc) (by decide))
    (Url.decode_eq_self hpercent), String.ofList_toList]

/-- A pair as it stands in a query. -/
def plainPair (name value : String) : List Char := name.toList ++ '=' :: value.toList

/-- How a plain pair reads. -/
theorem cut_plainPair {name value : String} (hn : Unreserved name) :
    Text.cut (· = '=') (plainPair name value) = (name.toList, some value.toList) :=
  Text.cut_append (fun c hc => decide_eq_false (ne_of_class (hn c hc) (by decide)))
    (decide_eq_true rfl)

theorem plainPair_ne_amp {name value : String} (hn : Unreserved name) (hv : Literal value) :
    ∀ c ∈ plainPair name value, decide (c = '&') = false := by
  intro c hc
  refine decide_eq_false ?_
  rcases List.mem_append.1 hc with hc | hc
  · exact ne_of_class (hn c hc) (by decide)
  · rcases List.mem_cons.1 hc with rfl | hc
    · decide
    · exact hv.whole c hc

theorem plainPair_isQueryChar {name value : String} (hn : Unreserved name)
    (hv : Literal value) : ∀ c ∈ plainPair name value, isQueryChar c = true := by
  intro c hc
  rcases List.mem_append.1 hc with hc | hc
  · exact (Literal.of_unreserved hn).kept c hc
  · rcases List.mem_cons.1 hc with rfl | hc
    · decide
    · exact hv.kept c hc

/-- Plain pairs joined by ampersands. -/
def plainQuery : List (String × String) → List Char
  | [] => []
  | [(name, value)] => plainPair name value
  | (name, value) :: rest => plainPair name value ++ '&' :: plainQuery rest

/-- A list of pairs of unreserved names and literal values. -/
def PlainPairs (pairs : List (String × String)) : Prop :=
  ∀ p ∈ pairs, Unreserved p.1 ∧ Literal p.2

/-- **Plain pairs survive the query.** -/
theorem pairs_plainQuery {ps : List (String × String)} (h : PlainPairs ps) :
    pairs (plainQuery ps) = ps := by
  induction ps with
  | nil => rfl
  | cons p rest ih =>
      obtain ⟨name, value⟩ := p
      obtain ⟨hn, hv⟩ := h (name, value) (by simp)
      have hamp := plainPair_ne_amp hn hv
      have hne : plainPair name value ≠ [] := by simp [plainPair]
      have hread : (decode name.toList, decode value.toList) = (name, value) := by
        rw [(Literal.of_unreserved hn).decoded, hv.decoded]
      cases rest with
      | nil =>
          rw [plainQuery, pairs, Text.splitChars_of_forall_not hamp,
            List.filter_cons_of_pos (by simp [hne]), List.map_cons, cut_plainPair hn]
          exact congrArg (· :: []) hread
      | cons q rest =>
          rw [plainQuery, pairs, Text.splitChars_append hamp (decide_eq_true rfl),
            List.filter_cons_of_pos (by simp [hne]), List.map_cons, cut_plainPair hn]
          · show (decode name.toList, decode value.toList) :: pairs (plainQuery (q :: rest)) = _
            rw [hread, ih fun r hr => h r (List.mem_cons_of_mem _ hr)]
          · simp

/-- What is read of a query that begins with a pair: the value up to its first
    ampersand, and whatever the rest of the value is taken for. -/
theorem pairs_plainPair {name value : String} {first rest : List Char} {parts : List (List Char)}
    (hn : Unreserved name) (hvalue : Text.splitChars (· = '&') value.toList = first :: parts) :
    pairs (plainPair name value ++ '&' :: rest) =
      (name, decode first) :: ((parts.filter (!·.isEmpty)).map (fun part =>
        (decode (Text.cut (· = '=') part).1, decode ((Text.cut (· = '=') part).2.getD []))) ++
        pairs rest) := by
  have hfront : ∀ c ∈ name.toList ++ ['='], decide (c = '&') = false := by
    intro c hc
    rcases List.mem_append.1 hc with hc | hc
    · exact decide_eq_false (ne_of_class (hn c hc) (by decide))
    · rw [List.mem_singleton.1 hc]
      decide
  have hpair : plainPair name value = (name.toList ++ ['=']) ++ value.toList := by simp [plainPair]
  have hcut : Text.cut (· = '=') ((name.toList ++ ['=']) ++ first) = (name.toList, some first) := by
    have : Text.cut (· = '=') (plainPair name (String.ofList first)) =
        (name.toList, some (String.ofList first).toList) := cut_plainPair hn
    rw [plainPair, String.toList_ofList] at this
    simpa using this
  rw [pairs, Text.splitChars_separator (by decide), hpair, Text.splitChars_prefix hfront hvalue,
    List.cons_append, List.filter_cons_of_pos (by simp), List.map_cons, hcut,
    List.filter_append, List.map_append]
  dsimp only [Option.getD_some]
  rw [(Literal.of_unreserved hn).decoded]
  rfl

/-- A query that begins with a pair gives its name some value. -/
theorem exists_mem_pairs (value : String) (rest : List Char) {name : String}
    (hn : Unreserved name) :
    ∃ value', (name, value') ∈ pairs (plainPair name value ++ '&' :: rest) := by
  obtain ⟨first, parts, hvalue⟩ :=
    List.exists_cons_of_ne_nil (Text.splitChars_ne_nil (· = '&') value.toList)
  rw [pairs_plainPair hn hvalue]
  exact ⟨_, List.mem_cons_self⟩

/-- **A value that a query gives back was not cut and not decoded.** -/
theorem whole_of_mem_pairs {name value : String} {ps : List (String × String)}
    (hn : Unreserved name) (hlow : ∀ c ∈ value.toList, c.toNat < 0x80) (hps : PlainPairs ps)
    (hother : ∀ p ∈ ps, p.1 ≠ name)
    (h : (name, value) ∈ pairs (plainPair name value ++ '&' :: plainQuery ps)) :
    (∀ c ∈ value.toList, c ≠ '&') ∧ decode value.toList = value := by
  obtain ⟨first, parts, hvalue⟩ :=
    List.exists_cons_of_ne_nil (Text.splitChars_ne_nil (· = '&') value.toList)
  rw [pairs_plainPair hn hvalue] at h
  obtain ⟨hparts, hfirst⟩ := Text.length_parts hvalue
  have hascii : ∀ part ∈ first :: parts, ∀ c ∈ part, c.toNat < 0x80 := by
    intro part hpart c hc
    rw [← hvalue] at hpart
    exact hlow c (Text.mem_of_mem_splitChars hpart hc)
  rcases List.mem_cons.1 h with heq | h
  · have heq : value = decode first := congrArg Prod.snd heq
    have hle := length_decode_le (hascii first List.mem_cons_self)
    rw [← heq] at hle
    -- the first part is the whole value, or decoding would have lengthened it
    have hnil : parts = [] := by
      cases parts with
      | nil => rfl
      | cons part rest =>
          have hlt := hfirst (List.cons_ne_nil part rest)
          omega
    subst hnil
    have hwhole := Text.join_splitChars '&' value.toList
    rw [hvalue, List.flatMap_singleton] at hwhole
    have hfirst : first = value.toList := (List.cons.inj hwhole).2
    refine ⟨fun c hc => of_decide_eq_false (Text.forall_not_of_splitChars hvalue c hc), ?_⟩
    rw [← hfirst, ← heq]
  · rcases List.mem_append.1 h with h | h
    · obtain ⟨part, hpart, heq⟩ := List.mem_map.1 h
      have hpart := (List.mem_filter.1 hpart).1
      have heq : value = decode ((Text.cut (· = '=') part).2.getD []) := (congrArg Prod.snd heq).symm
      have hle : value.toList.length ≤ ((Text.cut (· = '=') part).2.getD []).length := by
        conv => lhs; rw [heq]
        exact length_decode_le fun c hc =>
          hascii part (List.mem_cons_of_mem _ hpart) c ((Text.cut_suffix _ part).mem hc)
      have hcut := (Text.cut_suffix (· = '=') part).length_le
      have hlt := hparts part hpart
      omega
    · rw [pairs_plainQuery hps] at h
      exact absurd rfl (hother _ h)

theorem plainQuery_isQueryChar {ps : List (String × String)} (h : PlainPairs ps) :
    ∀ c ∈ plainQuery ps, isQueryChar c = true := by
  induction ps with
  | nil => simp [plainQuery]
  | cons p rest ih =>
      obtain ⟨name, value⟩ := p
      obtain ⟨hn, hv⟩ := h (name, value) (by simp)
      have hpair := plainPair_isQueryChar hn hv
      cases rest with
      | nil => exact hpair
      | cons q rest =>
          intro c hc
          rw [plainQuery] at hc
          · rcases List.mem_append.1 hc with hc | hc
            · exact hpair c hc
            · rcases List.mem_cons.1 hc with rfl | hc
              · decide
              · exact ih (fun r hr => h r (List.mem_cons_of_mem _ hr)) c hc
          · simp

end Form

end Url

end MeshSync
