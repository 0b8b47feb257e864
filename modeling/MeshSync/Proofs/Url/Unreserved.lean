import MeshSync.Proofs.Url.Reading

/-! # Unreserved texts in URLs

    Letters, digits and four marks mean nothing to a URL, so a name made of
    them stands in a path or a query as it is: no encode set and no separator
    picks an unreserved character, and a segment of them that is no dot segment
    is a stretch of a path (`PlainSegment.stretch`). -/

namespace MeshSync

namespace Url

/-- Whether a character stands for itself in every part of a URL. -/
def isUnreserved (c : Char) : Bool := c.isAlphanum || c = '-' || c = '.' || c = '_' || c = '~'

/-- A text of unreserved characters. -/
def Unreserved (s : String) : Prop := ∀ c ∈ s.toList, isUnreserved c = true

instance (s : String) : Decidable (Unreserved s) :=
  decidable_of_iff (s.toList.all isUnreserved = true) List.all_eq_true

theorem Unreserved.append {s t : String} (hs : Unreserved s) (ht : Unreserved t) :
    Unreserved (s ++ t) := by
  intro c hc
  rw [String.toList_append] at hc
  rcases List.mem_append.1 hc with h | h
  · exact hs c h
  · exact ht c h

theorem Unreserved.of_append_right {s t : String} (h : Unreserved (s ++ t)) : Unreserved t := by
  intro c hc
  refine h c ?_
  rw [String.toList_append]
  exact List.mem_append_right _ hc

/-- The code points of unreserved characters. -/
theorem isUnreserved_range {c : Char} (h : isUnreserved c = true) :
    c.toNat = 45 ∨ c.toNat = 46 ∨ c.toNat = 95 ∨ c.toNat = 126 ∨ (48 ≤ c.toNat ∧ c.toNat ≤ 57) ∨
      (65 ≤ c.toNat ∧ c.toNat ≤ 90) ∨ (97 ≤ c.toNat ∧ c.toNat ≤ 122) := by
  simp only [isUnreserved, Bool.or_eq_true, decide_eq_true_eq] at h
  rcases h with (((h | h) | h) | h) | h
  · have hclass : (c.isUpper || c.isLower || c.isDigit) = true := h
    rw [Bool.or_eq_true, Bool.or_eq_true, Char.isDigit_iff_toNat] at hclass
    rcases hclass with (hupper | hlower) | hdigit
    · have hrange : 65 ≤ c.toNat ∧ c.toNat ≤ 90 := of_decide_eq_true hupper
      omega
    · obtain ⟨hleft, hright⟩ := Bool.and_eq_true_iff.1 hlower
      have hrange : 97 ≤ c.toNat ∧ c.toNat ≤ 122 :=
        ⟨of_decide_eq_true hleft, of_decide_eq_true hright⟩
      omega
    · have hrange : 48 ≤ c.toNat ∧ c.toNat ≤ 57 := hdigit
      omega
  · exact .inl (by rw [h]; rfl)
  · exact .inr (.inl (by rw [h]; rfl))
  · exact .inr (.inr (.inl (by rw [h]; rfl)))
  · exact .inr (.inr (.inr (.inl (by rw [h]; rfl))))

/-- Paths keep unreserved characters. -/
theorem isUnreserved.path {c : Char} (h : isUnreserved c = true) : isPathChar c = true := by
  have hr := isUnreserved_range h
  refine isPathChar_iff.2 ⟨by omega, ?_⟩
  have h1 : c ≠ ' ' := ne_of_class h (by decide)
  have h2 : c ≠ '"' := ne_of_class h (by decide)
  have h3 : c ≠ '<' := ne_of_class h (by decide)
  have h4 : c ≠ '>' := ne_of_class h (by decide)
  have h5 : c ≠ '\x60' := ne_of_class h (by decide)
  have h6 : c ≠ '#' := ne_of_class h (by decide)
  have h7 : c ≠ '?' := ne_of_class h (by decide)
  have h8 : c ≠ '{' := ne_of_class h (by decide)
  have h9 : c ≠ '}' := ne_of_class h (by decide)
  simp [EncodeSet.path, EncodeSet.fragment, EncodeSet.controls, h1, h2, h3, h4, h5, h6, h7, h8, h9]
  omega

/-- A segment of a path that stands for itself. -/
structure PlainSegment (cs : List Char) : Prop where
  unreserved : ∀ c ∈ cs, isUnreserved c = true
  notHere : Path.isHere cs = false
  notAbove : Path.isAbove cs = false

instance (cs : List Char) : Decidable (PlainSegment cs) :=
  decidable_of_iff (cs.all isUnreserved = true ∧ Path.isHere cs = false ∧ Path.isAbove cs = false)
    ⟨fun h => ⟨List.all_eq_true.1 h.1, h.2.1, h.2.2⟩,
      fun h => ⟨List.all_eq_true.2 h.unreserved, h.notHere, h.notAbove⟩⟩

theorem PlainSegment.of_head {c : Char} {cs : List Char} (hc : cs.head? = some c) (hdot : c ≠ '.')
    (hpercent : c ≠ '%') (h : ∀ d ∈ cs, isUnreserved d = true) : PlainSegment cs := by
  obtain ⟨hhere, habove⟩ := Bool.or_eq_false_iff.1 (Path.isDot_of_head hc hdot hpercent)
  exact ⟨h, hhere, habove⟩

/-- A name of unreserved characters is a segment that stands for itself, unless
    it is one of the two dot segments. -/
theorem PlainSegment.of_unreserved {name : String} (h : Unreserved name) (hhere : name ≠ ".")
    (habove : name ≠ "..") : PlainSegment name.toList := by
  -- the other spellings of dot segments have a percent sign in them
  have hmarked : ∀ t ∈ ["%2e", "%2E", "%2e%2e", "%2e%2E", "%2E%2e", "%2E%2E", "%2e.", "%2E.",
      ".%2e", ".%2E"], ¬ Unreserved t := by decide
  refine ⟨h, ?_, ?_⟩
  · rw [Path.isHere, String.ofList_toList, List.contains_eq_mem, decide_eq_false_iff_not]
    intro hmem
    rcases List.mem_cons.1 hmem with heq | hmem
    · exact hhere heq
    · exact hmarked name (List.mem_append_left _ hmem) h
  · rw [Path.isAbove, String.ofList_toList, List.contains_eq_mem, decide_eq_false_iff_not]
    intro hmem
    rcases List.mem_cons.1 hmem with heq | hmem
    · exact habove heq
    · exact hmarked name (List.mem_append_right ["%2e", "%2E"] hmem) h

/-- A segment that stands for itself is a stretch of a path. -/
theorem PlainSegment.stretch {cs : List Char} (h : PlainSegment cs) : Stretch cs := by
  refine ⟨fun c hc => isUnreserved.path (h.unreserved c hc), fun s hs => ?_⟩
  have hslash : ∀ c ∈ cs, decide (c = '/') = false := fun c hc =>
    decide_eq_false (ne_of_class (h.unreserved c hc) (by decide))
  rw [Text.splitChars_of_forall_not hslash, List.mem_singleton] at hs
  rw [hs, Path.isDot, h.notHere, h.notAbove, Bool.or_false]

end Url

end MeshSync
