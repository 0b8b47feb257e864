import MeshSync.Proofs.Url.Query

/-! # Names that requests spell in one way

    The same name may stand in a body, in a query and in a path.  A body says
    it as it is; `Verbatim` names are those that a query and a path say as they
    are too, behind a beginning that means nothing to a URL. -/

namespace MeshSync.Url

/-- Whether a name is read as it is written, in a path as in a query: its
    characters are kept by both, none of them ends a value or stands for a
    blank, no byte is encoded in it, and no segment behind a slash of its own is
    a dot segment. -/
structure Verbatim (s : String) : Prop where
  kept : ∀ c ∈ s.toList, isPathChar c = true ∧ c ≠ '&' ∧ c ≠ '+'
  unencoded : decode (Bytes.ofText s) = Bytes.ofText s
  still : ∀ part ∈ (Text.splitChars (· = '/') s.toList).tail, Path.isDot part = false

instance (s : String) : Decidable (Verbatim s) :=
  decidable_of_iff (s.toList.all (fun c => isPathChar c && c != '&' && c != '+') = true ∧
      decode (Bytes.ofText s) = Bytes.ofText s ∧
      (Text.splitChars (· = '/') s.toList).tail.all (fun part => !Path.isDot part) = true) <| by
    simp only [List.all_eq_true, Bool.and_eq_true, bne_iff_ne, Bool.not_eq_true', and_assoc]
    exact ⟨fun h => ⟨h.1, h.2.1, h.2.2⟩, fun h => ⟨h.kept, h.unencoded, h.still⟩⟩

/-- Unreserved names are read as they are written. -/
theorem Unreserved.verbatim {s : String} (h : Unreserved s) : Verbatim s := by
  have hlow : ∀ c ∈ s.toList, c.toNat < 0x80 := fun c hc =>
    (isPathChar_iff.1 (isUnreserved.path (h c hc))).1
  have hpercent : ∀ b ∈ Bytes.ofText s, b ≠ 37 := Form.ofChars_ne (d := '%') (by decide)
    fun c hc => ⟨hlow c hc, ne_of_class (h c hc) (by decide)⟩
  have hslash : ∀ c ∈ s.toList, decide (c = '/') = false := fun c hc =>
    decide_eq_false (ne_of_class (h c hc) (by decide))
  refine ⟨fun c hc => ⟨isUnreserved.path (h c hc), ne_of_class (h c hc) (by decide),
    ne_of_class (h c hc) (by decide)⟩, decode_eq_self hpercent, fun part hpart => ?_⟩
  rw [Text.splitChars_of_forall_not hslash] at hpart
  exact absurd hpart List.not_mem_nil

namespace Verbatim

variable {lead s : String}

/-- Behind a beginning that is no dot, the name stands in a path as it is. -/
theorem stretch_append (h : Verbatim s) (hlead : Unreserved lead) {c : Char}
    (hc : lead.toList.head? = some c) (hdot : c ≠ '.') (hpercent : c ≠ '%') :
    Stretch (lead ++ s).toList := by
  rw [String.toList_append]
  constructor
  · intro d hd
    rcases List.mem_append.1 hd with hd | hd
    · exact isUnreserved.path (hlead d hd)
    · exact (h.kept d hd).1
  · intro part hpart
    have hslash : ∀ d ∈ lead.toList, decide (d = '/') = false := fun d hd =>
      decide_eq_false (ne_of_class (hlead d hd) (by decide))
    obtain ⟨first, parts, hs⟩ :=
      List.exists_cons_of_ne_nil (Text.splitChars_ne_nil (· = '/') s.toList)
    rw [Text.splitChars_prefix hslash hs] at hpart
    rcases List.mem_cons.1 hpart with rfl | hpart
    · have hhead : (lead.toList ++ first).head? = some c := by rw [List.head?_append, hc]; rfl
      exact Path.isDot_of_head hhead hdot hpercent
    · refine h.still part ?_
      rw [hs]
      exact hpart

/-- Behind any beginning the name stands in a query as it is. -/
theorem literal_append (h : Verbatim s) (hlead : Unreserved lead) : Form.Literal (lead ++ s) := by
  have hfront := Form.Literal.of_unreserved hlead
  have hkept : ∀ c ∈ (lead ++ s).toList, isQueryChar c = true := by
    intro c hc
    rw [String.toList_append] at hc
    rcases List.mem_append.1 hc with hc | hc
    · exact hfront.kept c hc
    · exact isPathChar.query (h.kept c hc).1
  have hmarks : ∀ c ∈ (lead ++ s).toList, c ≠ '&' ∧ c ≠ '+' := by
    intro c hc
    rw [String.toList_append] at hc
    rcases List.mem_append.1 hc with hc | hc
    · exact ⟨hfront.whole c hc, ne_of_class (hlead c hc) (by decide)⟩
    · exact (h.kept c hc).2
  have hbytes : Bytes.ofChars (lead ++ s).toList = Bytes.ofText lead ++ Bytes.ofText s := by
    rw [String.toList_append]
    exact List.flatMap_append
  have hpercent : ∀ b ∈ Bytes.ofText lead, b ≠ 37 := Form.ofChars_ne (d := '%') (by decide)
    fun c hc => ⟨(isQueryChar_iff.1 (hfront.kept c hc)).1, ne_of_class (hlead c hc) (by decide)⟩
  refine ⟨hkept, fun c hc => (hmarks c hc).1, ?_⟩
  rw [Form.decode_eq_self (fun c hc => (isQueryChar_iff.1 (hkept c hc)).1)
    (fun c hc => (hmarks c hc).2), String.ofList_toList]
  rw [hbytes, decode_append hpercent, h.unencoded]

/-- A name that comes out of a query and out of a path behind some beginning as
    it went in is read as it is written. -/
theorem of_read (hlead : Unreserved lead) (hstretch : Stretch (lead ++ s).toList)
    (hwhole : ∀ c ∈ s.toList, c ≠ '&') (hdecode : Form.decode (lead ++ s).toList = lead ++ s) :
    Verbatim s := by
  have hmem : ∀ c ∈ s.toList, c ∈ (lead ++ s).toList := by
    intro c hc
    rw [String.toList_append]
    exact List.mem_append_right _ hc
  have hlow : ∀ c ∈ (lead ++ s).toList, c.toNat < 0x80 := fun c hc =>
    (isPathChar_iff.1 (hstretch.kept c hc)).1
  obtain ⟨hplus, hbytes⟩ := Form.literal_of_decode hlow (hdecode.trans String.ofList_toList.symm)
  have hpercent : ∀ b ∈ Bytes.ofText lead, b ≠ 37 := Form.ofChars_ne (d := '%') (by decide)
    fun c hc => ⟨(isPathChar_iff.1 (isUnreserved.path (hlead c hc))).1,
      ne_of_class (hlead c hc) (by decide)⟩
  have happend : Bytes.ofChars (lead ++ s).toList = Bytes.ofText lead ++ Bytes.ofText s := by
    rw [String.toList_append]
    exact List.flatMap_append
  rw [happend, decode_append hpercent] at hbytes
  refine ⟨fun c hc => ⟨hstretch.kept c (hmem c hc), hwhole c hc, hplus c (hmem c hc)⟩,
    List.append_cancel_left hbytes, fun part hpart => hstretch.still part ?_⟩
  have hslash : ∀ d ∈ lead.toList, decide (d = '/') = false := fun d hd =>
    decide_eq_false (ne_of_class (hlead d hd) (by decide))
  obtain ⟨first, parts, hs⟩ :=
    List.exists_cons_of_ne_nil (Text.splitChars_ne_nil (· = '/') s.toList)
  rw [hs] at hpart
  rw [String.toList_append, Text.splitChars_prefix hslash hs]
  exact List.mem_cons_of_mem _ hpart

end Verbatim

end MeshSync.Url
