import MeshSync.Proofs.Url.Query

/-! # Pairs that a query carries

    Any names and values can be put behind a query.  Decoding undoes what
    encoding did to each byte (`decode_encodeByte`), so a text is read back
    whatever its characters are (`decode_encode`); and nothing that is encoded
    has an ampersand or an equals sign in it, so the pairs of a query are those
    that were put there, in order (`pairs_foldl_append`). -/

namespace MeshSync.Url.Form

/-! ## Bytes -/

/-- How a byte of a query is taken before it is decoded: a plus sign for a
    blank. -/
def blankByte (b : UInt8) : UInt8 := if b = 43 then 32 else b

/-- The byte of a hexadecimal digit is read as its weight, and it is no plus
    sign. -/
theorem hexWeight?_upperHex : ∀ k < 16, (upperHex k).toNat < 0x80 ∧
    hexWeight? (UInt8.ofNat (upperHex k).toNat) = some k ∧
      blankByte (UInt8.ofNat (upperHex k).toNat) = UInt8.ofNat (upperHex k).toNat := by
  decide

theorem isPlain_range {b : UInt8} (h : isPlain b = true) :
    b.toNat = 42 ∨ b.toNat = 45 ∨ b.toNat = 46 ∨ b.toNat = 95 ∨ (48 ≤ b.toNat ∧ b.toNat ≤ 57) ∨
      (65 ≤ b.toNat ∧ b.toNat ≤ 90) ∨ (97 ≤ b.toNat ∧ b.toNat ≤ 122) := by
  simp only [isPlain, Bool.or_eq_true, Bool.and_eq_true, decide_eq_true_eq] at h
  omega

/-- The character of a plain byte is that byte again. -/
theorem toNat_ofNat_of_isPlain {b : UInt8} (h : isPlain b = true) :
    (Char.ofNat b.toNat).toNat = b.toNat := by
  have hrange := isPlain_range h
  exact Bytes.toNat_char_of_lt (by omega)

/-- **A byte is read back**, whatever follows it. -/
theorem decode_encodeByte (b : UInt8) (rest : Bytes) :
    Url.decode ((Bytes.ofChars (encodeByte b)).map blankByte ++ rest) = b :: Url.decode rest := by
  rw [encodeByte]
  split
  · next hplain =>
      have hrange := isPlain_range hplain
      have hchar := toNat_ofNat_of_isPlain hplain
      have hself : blankByte b = b := by
        refine if_neg ?_
        rintro rfl
        exact absurd hplain (by decide)
      have hbytes : Bytes.ofChars [Char.ofNat b.toNat] = [b] := by
        rw [Bytes.ofChars_ascii (by simp [hchar]; omega), List.map_singleton, hchar]
        exact congrArg (fun b => [b]) (UInt8.ofNat_toNat)
      have hfront : ∀ c ∈ [b], c ≠ 37 := by
        intro c hc
        rw [List.mem_singleton.1 hc]
        rintro rfl
        exact absurd hplain (by decide)
      rw [hbytes, List.map_singleton, hself, decode_append hfront]
      rfl
  split
  · next hblank =>
      subst hblank
      have hfront : ∀ c ∈ ([32] : Bytes), c ≠ 37 := by
        intro c hc
        rw [List.mem_singleton.1 hc]
        decide
      exact decode_append hfront rest
  · -- an escape: the two digits are read back, and give the byte by its quotient and remainder
    obtain ⟨hlow, hweight, hself⟩ := hexWeight?_upperHex (b.toNat / 16) (by have := b.toNat_lt; omega)
    obtain ⟨hlow', hweight', hself'⟩ := hexWeight?_upperHex (b.toNat % 16) (by omega)
    have hascii : ∀ c ∈ Url.encodeByte b, c.toNat < 0x80 := by
      intro c hc
      simp only [Url.encodeByte, List.mem_cons, List.not_mem_nil, or_false] at hc
      rcases hc with rfl | rfl | rfl
      · decide
      · exact hlow
      · exact hlow'
    have hvalue : UInt8.ofNat (b.toNat / 16 * 16 + b.toNat % 16) = b := by
      rw [Nat.div_add_mod']
      exact UInt8.ofNat_toNat
    rw [Bytes.ofChars_ascii hascii]
    show Url.decode (37 :: blankByte _ :: blankByte _ :: rest) = _
    rw [hself, hself', Url.decode, hweight, hweight']
    exact congrArg (· :: Url.decode rest) hvalue

theorem decode_encodeBytes (bs : Bytes) :
    Url.decode ((Bytes.ofChars (bs.flatMap encodeByte)).map blankByte) = bs := by
  induction bs with
  | nil => rfl
  | cons b bs ih =>
      have happend : Bytes.ofChars ((b :: bs).flatMap encodeByte) =
          Bytes.ofChars (encodeByte b) ++ Bytes.ofChars (bs.flatMap encodeByte) := by
        rw [List.flatMap_cons]
        exact List.flatMap_append
      rw [happend, List.map_append, decode_encodeByte, ih]

/-! ## Texts -/

/-- **A text is read back**, whatever its characters are. -/
theorem decode_encode (s : String) : decode (encode s.toList) = s := by
  show Bytes.lossyText (Url.decode ((Bytes.ofChars (encode s.toList)).map blankByte)) = s
  rw [encode, decode_encodeBytes]
  exact Bytes.lossyText_ofText s

/-- What is encoded separates no pairs and no values. -/
theorem apart_of_mem_encode {cs : List Char} {c : Char} (h : c ∈ encode cs) :
    c ≠ '&' ∧ c ≠ '=' := by
  obtain ⟨b, -, hb⟩ := List.mem_flatMap.1 h
  rw [encodeByte] at hb
  split at hb
  · next hplain =>
      have hrange := isPlain_range hplain
      have hchar := toNat_ofNat_of_isPlain hplain
      rw [← List.mem_singleton.1 hb] at hchar
      constructor
      · rintro rfl
        have hand : '&'.toNat = 38 := rfl
        omega
      · rintro rfl
        have hequals : '='.toNat = 61 := rfl
        omega
  split at hb
  · rw [List.mem_singleton.1 hb]
    decide
  · have hhex : ∀ k < 16, upperHex k ≠ '&' ∧ upperHex k ≠ '=' := by decide
    simp only [Url.encodeByte, List.mem_cons, List.not_mem_nil, or_false] at hb
    rcases hb with rfl | rfl | rfl
    · decide
    · exact hhex _ (by have := b.toNat_lt; omega)
    · exact hhex _ (by omega)

/-! ## Pairs -/

theorem pair_ne_amp (name value : String) : ∀ c ∈ pair name value, decide (c = '&') = false := by
  intro c hc
  refine decide_eq_false ?_
  rcases List.mem_append.1 hc with hc | hc
  · exact (apart_of_mem_encode hc).1
  · rcases List.mem_cons.1 hc with rfl | hc
    · decide
    · exact (apart_of_mem_encode hc).1

/-- A pair is read as its name and its value. -/
theorem pairs_pair (name value : String) : pairs (pair name value) = [(name, value)] := by
  have hcut : Text.cut (· = '=') (pair name value) =
      (encode name.toList, some (encode value.toList)) :=
    Text.cut_append (fun c hc => decide_eq_false (apart_of_mem_encode hc).2) (decide_eq_true rfl)
  have hne : pair name value ≠ [] := by simp [pair]
  rw [pairs, Text.splitChars_of_forall_not (pair_ne_amp name value),
    List.filter_cons_of_pos (by simp [hne]), List.filter_nil, List.map_singleton, hcut]
  dsimp only [Option.getD_some]
  rw [decode_encode, decode_encode]

/-- A pair that is put behind a query comes after its pairs. -/
theorem pairs_append (query : List Char) (name value : String) :
    pairs (append query name value) = pairs query ++ [(name, value)] := by
  rw [append]
  split
  · next h =>
      rw [List.isEmpty_iff.1 h]
      exact pairs_pair name value
  · rw [← pairs_pair name value, pairs, Text.splitChars_separator (decide_eq_true rfl),
      List.filter_append, List.map_append]
    rfl

/-- **The pairs put behind a query** are read back, in order. -/
theorem pairs_foldl_append (query : List Char) (ps : List (String × String)) :
    pairs (ps.foldl (fun q (name, value) => append q name value) query) = pairs query ++ ps := by
  induction ps generalizing query with
  | nil => exact (List.append_nil _).symm
  | cons p ps ih =>
      obtain ⟨name, value⟩ := p
      rw [List.foldl_cons, ih]
      dsimp only
      rw [pairs_append, List.append_assoc]
      rfl

end MeshSync.Url.Form

namespace MeshSync.Url

/-- The pairs of a URL to which pairs were added. -/
theorem queryPairs_withPairs (u : Url) (ps : List (String × String)) :
    (u.withPairs ps).queryPairs = u.queryPairs ++ ps :=
  Form.pairs_foldl_append (u.query.getD []) ps

end MeshSync.Url
