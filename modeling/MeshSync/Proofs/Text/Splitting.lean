import MeshSync.Text.Search

/-! # Taking texts apart

    What `cut`, `splitChars` and `after?` do to a text that was put together
    with the separator in question, and to one without it. -/

namespace MeshSync.Text

variable {p : Char → Bool} {a b : List Char} {c : Char}

theorem cut_append (ha : ∀ x ∈ a, p x = false) (hc : p c = true) :
    cut p (a ++ c :: b) = (a, some b) := by
  induction a with
  | nil => simp [cut, hc]
  | cons x xs ih =>
      have hx : p x = false := ha x (by simp)
      have hxs := ih fun y hy => ha y (List.mem_cons_of_mem _ hy)
      rw [List.cons_append, cut, if_neg (by simp [hx]), hxs]

theorem cut_of_forall_not (ha : ∀ x ∈ a, p x = false) : cut p a = (a, none) := by
  induction a with
  | nil => rfl
  | cons x xs ih =>
      have hx : p x = false := ha x (by simp)
      have hxs := ih fun y hy => ha y (List.mem_cons_of_mem _ hy)
      rw [cut, if_neg (by simp [hx]), hxs]

/-- Without the separator in front of it, a text is cut where it is cut alone. -/
theorem cut_prefix (ha : ∀ x ∈ a, p x = false) :
    cut p (a ++ b) = (a ++ (cut p b).1, (cut p b).2) := by
  induction a with
  | nil => rfl
  | cons x xs ih =>
      have hx : p x = false := ha x (by simp)
      have hxs := ih fun y hy => ha y (List.mem_cons_of_mem _ hy)
      rw [List.cons_append, cut, if_neg (by simp [hx]), hxs]
      rfl

/-- A text that was cut is what stands before and after the separator. -/
theorem eq_append_of_cut {cs : List Char} (h : cut p cs = (a, some b)) :
    ∃ c, p c = true ∧ cs = a ++ c :: b := by
  induction cs generalizing a with
  | nil => exact nomatch (Prod.mk.inj h).2
  | cons x xs ih =>
      rw [cut] at h
      split at h
      · rename_i hx
        obtain ⟨rfl, hb⟩ := Prod.mk.inj h
        rw [← Option.some.inj hb]
        exact ⟨x, hx, rfl⟩
      · obtain ⟨rfl, hb⟩ := Prod.mk.inj h
        obtain ⟨c, hc, hxs⟩ := ih (Prod.ext rfl hb)
        exact ⟨c, hc, congrArg (x :: ·) hxs⟩

/-- A text that is cut is cut there whatever follows it. -/
theorem cut_append_right {before behind : List Char} (h : cut p a = (before, some behind)) :
    cut p (a ++ b) = (before, some (behind ++ b)) := by
  induction a generalizing before with
  | nil => exact nomatch (Prod.mk.inj h).2
  | cons x xs ih =>
      rw [cut] at h
      rw [List.cons_append, cut]
      split at h
      · rename_i hx
        obtain ⟨rfl, hbehind⟩ := Prod.mk.inj h
        rw [if_pos hx, Option.some.inj hbehind]
      · rename_i hx
        obtain ⟨rfl, hbehind⟩ := Prod.mk.inj h
        rw [if_neg hx, ih (Prod.ext rfl hbehind)]

/-- A text that is not cut has no separator in it. -/
theorem forall_not_of_cut (h : (cut p a).2 = none) : ∀ x ∈ a, p x = false := by
  intro x hx
  refine Bool.eq_false_iff.2 fun hp => ?_
  obtain ⟨c, hc⟩ := List.find?_isSome.2 ⟨x, hx, hp⟩ |> Option.isSome_iff_exists.1
  obtain ⟨hpc, front, back, rfl, hfront⟩ := List.find?_eq_some_iff_append.1 hc
  rw [cut_append (fun y hy => by simpa using hfront y hy) hpc] at h
  exact nomatch h

/-- What stands after the separator is the end of the text. -/
theorem cut_suffix (p : Char → Bool) (cs : List Char) : (cut p cs).2.getD [] <:+ cs := by
  cases hb : (cut p cs).2 with
  | none => exact List.nil_suffix
  | some b =>
      obtain ⟨c, -, hcs⟩ := eq_append_of_cut (Prod.ext rfl hb : cut p cs = ((cut p cs).1, some b))
      exact ⟨(cut p cs).1 ++ [c], by rw [List.append_assoc]; exact hcs.symm⟩

theorem splitChars_ne_nil (p : Char → Bool) (cs : List Char) : splitChars p cs ≠ [] := by
  cases cs with
  | nil => simp [splitChars]
  | cons c cs =>
      rw [splitChars]
      split
      · simp
      · split <;> simp

theorem splitChars_append (ha : ∀ x ∈ a, p x = false) (hc : p c = true) :
    splitChars p (a ++ c :: b) = a :: splitChars p b := by
  induction a with
  | nil =>
      obtain ⟨part, parts, hb⟩ := List.exists_cons_of_ne_nil (splitChars_ne_nil p b)
      rw [List.nil_append, splitChars, hb]
      simp [hc]
  | cons x xs ih =>
      have hx : p x = false := ha x (by simp)
      rw [List.cons_append, splitChars, ih fun y hy => ha y (List.mem_cons_of_mem _ hy)]
      simp [hx]

/-- Without the separator in front of it, a text is split where it is split
    alone. -/
theorem splitChars_prefix {part : List Char} {parts : List (List Char)}
    (ha : ∀ x ∈ a, p x = false) (hb : splitChars p b = part :: parts) :
    splitChars p (a ++ b) = (a ++ part) :: parts := by
  induction a with
  | nil => exact hb
  | cons x xs ih =>
      have hx : p x = false := ha x (by simp)
      rw [List.cons_append, splitChars, ih fun y hy => ha y (List.mem_cons_of_mem _ hy)]
      simp [hx]

/-- A separator splits a text wherever it stands. -/
theorem splitChars_separator (hc : p c = true) :
    splitChars p (a ++ c :: b) = splitChars p a ++ splitChars p b := by
  induction a with
  | nil =>
      obtain ⟨part, parts, hb⟩ := List.exists_cons_of_ne_nil (splitChars_ne_nil p b)
      rw [List.nil_append, splitChars, hb]
      simp [hc, splitChars, hb]
  | cons x xs ih =>
      obtain ⟨part, parts, hxs⟩ := List.exists_cons_of_ne_nil (splitChars_ne_nil p xs)
      rw [List.cons_append, splitChars, splitChars, ih, hxs, List.cons_append]
      dsimp only
      split <;> rfl

/-- A text is split by what counts as a separator in it. -/
theorem splitChars_congr {q : Char → Bool} (h : ∀ c ∈ a, p c = q c) :
    splitChars p a = splitChars q a := by
  induction a with
  | nil => rfl
  | cons c cs ih =>
      have hc : p c = q c := h c (by simp)
      rw [splitChars, splitChars, hc, ih fun d hd => h d (List.mem_cons_of_mem _ hd)]

/-- Splitting adds no characters. -/
theorem mem_of_mem_splitChars {part : List Char} (hpart : part ∈ splitChars p a) (hc : c ∈ part) :
    c ∈ a := by
  induction a generalizing part with
  | nil =>
      rw [List.mem_singleton.1 hpart] at hc
      exact hc
  | cons x xs ih =>
      obtain ⟨first, parts, hxs⟩ := List.exists_cons_of_ne_nil (splitChars_ne_nil p xs)
      rw [hxs] at ih
      rw [splitChars, hxs] at hpart
      dsimp only at hpart
      split at hpart
      · rcases List.mem_cons.1 hpart with rfl | hpart
        · exact absurd hc List.not_mem_nil
        · exact List.mem_cons_of_mem _ (ih hpart hc)
      · rcases List.mem_cons.1 hpart with rfl | hpart
        · rcases List.mem_cons.1 hc with rfl | hc
          · exact List.mem_cons_self
          · exact List.mem_cons_of_mem _ (ih List.mem_cons_self hc)
        · exact List.mem_cons_of_mem _ (ih (List.mem_cons_of_mem _ hpart) hc)

/-- The parts of a text with the separator between them are the text. -/
theorem join_splitChars (c : Char) (cs : List Char) :
    (splitChars (· = c) cs).flatMap (c :: ·) = c :: cs := by
  induction cs with
  | nil => rfl
  | cons x xs ih =>
      obtain ⟨part, parts, hxs⟩ := List.exists_cons_of_ne_nil (splitChars_ne_nil (· = c) xs)
      rw [hxs, List.flatMap_cons, List.cons_append] at ih
      have ih := (List.cons.inj ih).2
      rw [splitChars, hxs]
      dsimp only
      split
      · next hx => simp [of_decide_eq_true hx, ih]
      · simp [ih]

theorem splitChars_of_forall_not (ha : ∀ x ∈ a, p x = false) : splitChars p a = [a] := by
  induction a with
  | nil => rfl
  | cons x xs ih =>
      have hx : p x = false := ha x (by simp)
      rw [splitChars, ih fun y hy => ha y (List.mem_cons_of_mem _ hy)]
      simp [hx]

/-- The parts of a text but the first are shorter than the text, and so is the
    first if there are others. -/
theorem length_parts {c : Char} {first : List Char} {parts : List (List Char)}
    (h : splitChars (· = c) a = first :: parts) :
    (∀ part ∈ parts, part.length < a.length) ∧ (parts ≠ [] → first.length < a.length) := by
  have hjoin := congrArg List.length (join_splitChars c a)
  rw [h, List.flatMap_cons, List.length_append, List.length_cons, List.length_cons] at hjoin
  constructor
  · intro part hpart
    obtain ⟨front, back, rfl⟩ := List.append_of_mem hpart
    rw [List.flatMap_append, List.flatMap_cons, List.length_append, List.length_append,
      List.length_cons] at hjoin
    omega
  · intro hne
    obtain ⟨part, rest, rfl⟩ := List.exists_cons_of_ne_nil hne
    rw [List.flatMap_cons, List.length_append, List.length_cons] at hjoin
    omega

/-- A text in one part has no separator in it. -/
theorem forall_not_of_splitChars {part : List Char} (h : splitChars p a = [part]) :
    ∀ x ∈ a, p x = false := by
  intro x hx
  refine Bool.eq_false_iff.2 fun hp => ?_
  obtain ⟨front, back, rfl⟩ := List.append_of_mem hx
  obtain ⟨f, fs, hfront⟩ := List.exists_cons_of_ne_nil (splitChars_ne_nil p front)
  obtain ⟨b, bs, hback⟩ := List.exists_cons_of_ne_nil (splitChars_ne_nil p back)
  rw [splitChars_separator hp, hfront, hback] at h
  have hlength := congrArg List.length h
  rw [List.length_append, List.length_cons, List.length_cons, List.length_singleton] at hlength
  omega

theorem after?_append (lead rest : String) : after? lead (lead ++ rest) = some rest := by
  rw [after?, String.toList_append, afterChars?_append]
  simp

theorem eq_append_of_after? {lead whole rest : String} (h : after? lead whole = some rest) :
    whole = lead ++ rest := by
  obtain ⟨cs, hcs, rfl⟩ := Option.map_eq_some_iff.1 h
  rw [← String.toList_inj, String.toList_append, String.toList_ofList]
  exact eq_append_of_afterChars? hcs

theorem after?_eq_some_iff {lead whole rest : String} :
    after? lead whole = some rest ↔ whole = lead ++ rest := by
  constructor
  · exact eq_append_of_after?
  · rintro rfl
    exact after?_append lead rest

end MeshSync.Text
