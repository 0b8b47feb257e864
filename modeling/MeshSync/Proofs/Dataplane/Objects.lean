import MeshSync.Proofs.Dataplane.Routing
import MeshSync.Proofs.SortedMap

/-! # What changes do to objects

    Changes within a set of keys leave the others as they are
    (`applyAll_frame`), and what they do there depends on nothing else
    (`applyAll_agree`).  So blocks of changes, each within a set of its own, do
    together what each of them does alone; `applyAll_blocks` is this statement
    for a sequence of blocks that went through, and `exists_applyAll_blocks`
    says that a sequence goes through if each block does.

    The second half is about well-formed objects, where `Orderly` changes keep
    the form. -/

namespace MeshSync.Dataplane

open Url (Unreserved)

namespace Objects

variable {objects objects' : Objects} {key k : ObjectKey} {value : Json}

theorem get?_drop (objects : Objects) (key k : ObjectKey) :
    (objects.drop key).get? k =
      if k = key ∨ k.parent = some key.owner then none else objects.get? k := by
  rw [drop, SortedMap.get?_filter]
  by_cases hk : k = key
  · subst hk
    rw [SortedMap.get?_erase_self, if_pos (.inl rfl)]
    rfl
  · rw [SortedMap.get?_erase_of_ne _ hk]
    by_cases hp : k.parent = some key.owner
    · rw [if_pos (.inr hp)]
      cases objects.get? k <;> simp [Option.filter, hp]
    · rw [if_neg (by simp [hk, hp])]
      cases objects.get? k <;> simp [Option.filter, hp]

theorem apply_create_iff : objects.apply (.create key value) = .ok objects' ↔
    objects.get? key = none ∧ objects' = objects.insert key value := by
  cases h : objects.contains key with
  | true =>
      obtain ⟨v, hv⟩ := (SortedMap.contains_iff _ _).1 h
      simp [apply, h, hv]
  | false =>
      have hnone := (SortedMap.not_contains_iff _ _).1 h
      simp [apply, h, hnone, eq_comm]

theorem apply_replace_iff : objects.apply (.replace key value) = .ok objects' ↔
    (∃ v, objects.get? key = some v) ∧ objects' = objects.insert key value := by
  cases h : objects.contains key with
  | true =>
      obtain ⟨v, hv⟩ := (SortedMap.contains_iff _ _).1 h
      simp [apply, h, hv, eq_comm]
  | false =>
      have hnone := (SortedMap.not_contains_iff _ _).1 h
      simp [apply, h, hnone]

theorem apply_delete_iff : objects.apply (.delete key) = .ok objects' ↔
    (∃ v, objects.get? key = some v) ∧ objects' = objects.drop key := by
  cases h : objects.contains key with
  | true =>
      obtain ⟨v, hv⟩ := (SortedMap.contains_iff _ _).1 h
      simp [apply, h, hv, eq_comm]
  | false =>
      have hnone := (SortedMap.not_contains_iff _ _).1 h
      simp [apply, h, hnone]

theorem applyAll_cons_iff {c : Change} {cs : List Change} :
    objects.applyAll (c :: cs) = .ok objects' ↔
      ∃ o, objects.apply c = .ok o ∧ o.applyAll cs = .ok objects' := by
  rw [applyAll]
  cases objects.apply c with
  | ok o => simp
  | error e => simp

theorem applyAll_append_iff {cs ds : List Change} :
    objects.applyAll (cs ++ ds) = .ok objects' ↔
      ∃ o, objects.applyAll cs = .ok o ∧ o.applyAll ds = .ok objects' := by
  induction cs generalizing objects with
  | nil => simp [applyAll]
  | cons c cs ih =>
      rw [List.cons_append, applyAll_cons_iff]
      constructor
      · rintro ⟨o, hc, hrest⟩
        obtain ⟨o', hcs, hds⟩ := ih.1 hrest
        exact ⟨o', applyAll_cons_iff.2 ⟨o, hc, hcs⟩, hds⟩
      · rintro ⟨o', hcs, hds⟩
        obtain ⟨o, hc, hcs⟩ := applyAll_cons_iff.1 hcs
        exact ⟨o, hc, ih.2 ⟨o', hcs, hds⟩⟩

end Objects

/-! ## Changes within a set of keys -/

/-- Whether a change touches no keys but those of a set. -/
def Change.Within (P : ObjectKey → Prop) : Change → Prop
  | create key _ => P key
  | replace key _ => P key
  | delete key => P key ∧ ∀ k, k.parent = some key.owner → P k

namespace Objects

variable {P : ObjectKey → Prop} {a b a' : Objects}

/-- Whether objects agree on a set of keys. -/
def AgreeOn (P : ObjectKey → Prop) (a b : Objects) : Prop := ∀ k, P k → a.get? k = b.get? k

theorem AgreeOn.symm (h : AgreeOn P a b) : AgreeOn P b a := fun k hk => (h k hk).symm

theorem AgreeOn.trans {c : Objects} (h : AgreeOn P a b) (h' : AgreeOn P b c) : AgreeOn P a c :=
  fun k hk => (h k hk).trans (h' k hk)

theorem AgreeOn.insert (h : AgreeOn P a b) (key : ObjectKey) (value : Json) :
    AgreeOn P (a.insert key value) (b.insert key value) := by
  intro k hk
  rw [SortedMap.get?_insert, SortedMap.get?_insert, h k hk]

theorem AgreeOn.drop (h : AgreeOn P a b) (key : ObjectKey) :
    AgreeOn P (a.drop key) (b.drop key) := by
  intro k hk
  rw [get?_drop, get?_drop, h k hk]

/-- Whether a change within a set applies, and what it does there, depends on
    the objects of the set alone. -/
theorem apply_agree {c : Change} (h : AgreeOn P a b) (hc : c.Within P) (ha : a.apply c = .ok a') :
    ∃ b', b.apply c = .ok b' ∧ AgreeOn P a' b' := by
  cases c with
  | create key value =>
      obtain ⟨hnone, rfl⟩ := apply_create_iff.1 ha
      exact ⟨_, apply_create_iff.2 ⟨(h key hc).symm.trans hnone, rfl⟩, h.insert key value⟩
  | replace key value =>
      obtain ⟨hsome, rfl⟩ := apply_replace_iff.1 ha
      exact ⟨_, apply_replace_iff.2 ⟨by rwa [← h key hc], rfl⟩, h.insert key value⟩
  | delete key =>
      obtain ⟨hsome, rfl⟩ := apply_delete_iff.1 ha
      exact ⟨_, apply_delete_iff.2 ⟨by rwa [← h key hc.1], rfl⟩, h.drop key⟩

/-- A change within a set leaves the other objects as they are. -/
theorem apply_frame {c : Change} (hc : c.Within P) (ha : a.apply c = .ok a') {k : ObjectKey}
    (hk : ¬ P k) : a'.get? k = a.get? k := by
  cases c with
  | create key value =>
      obtain ⟨-, rfl⟩ := apply_create_iff.1 ha
      exact SortedMap.get?_insert_of_ne _ (by rintro rfl; exact hk hc) value
  | replace key value =>
      obtain ⟨-, rfl⟩ := apply_replace_iff.1 ha
      exact SortedMap.get?_insert_of_ne _ (by rintro rfl; exact hk hc) value
  | delete key =>
      obtain ⟨-, rfl⟩ := apply_delete_iff.1 ha
      rw [get?_drop, if_neg]
      rintro (rfl | hparent)
      · exact hk hc.1
      · exact hk (hc.2 k hparent)

theorem applyAll_agree {cs : List Change} (h : AgreeOn P a b) (hcs : ∀ c ∈ cs, c.Within P)
    (ha : a.applyAll cs = .ok a') : ∃ b', b.applyAll cs = .ok b' ∧ AgreeOn P a' b' := by
  induction cs generalizing a b with
  | nil =>
      cases ha
      exact ⟨b, rfl, h⟩
  | cons c cs ih =>
      obtain ⟨o, hc, hrest⟩ := applyAll_cons_iff.1 ha
      obtain ⟨o', hc', ho⟩ := apply_agree h (hcs c (by simp)) hc
      obtain ⟨b', hb', hagree⟩ := ih ho (fun d hd => hcs d (List.mem_cons_of_mem _ hd)) hrest
      exact ⟨b', applyAll_cons_iff.2 ⟨o', hc', hb'⟩, hagree⟩

theorem applyAll_frame {cs : List Change} (hcs : ∀ c ∈ cs, c.Within P)
    (ha : a.applyAll cs = .ok a') {k : ObjectKey} (hk : ¬ P k) : a'.get? k = a.get? k := by
  induction cs generalizing a with
  | nil =>
      cases ha
      rfl
  | cons c cs ih =>
      obtain ⟨o, hc, hrest⟩ := applyAll_cons_iff.1 ha
      rw [ih (fun d hd => hcs d (List.mem_cons_of_mem _ hd)) hrest,
        apply_frame (hcs c (by simp)) hc hk]

/-! ## Blocks of changes -/

section Blocks

variable {ι : Type} {owns : ι → ObjectKey → Prop} {blocks : List (ι × List Change)}

/-- **Blocks that went through did together what each of them does alone**, and
    nothing else. -/
theorem applyAll_blocks (hapart : blocks.Pairwise fun x y => ∀ k, owns x.1 k → ¬ owns y.1 k)
    (hwithin : ∀ x ∈ blocks, ∀ c ∈ x.2, c.Within (owns x.1))
    (h : a.applyAll (blocks.flatMap (·.2)) = .ok a') :
    (∀ x ∈ blocks, ∃ o, a.applyAll x.2 = .ok o ∧ AgreeOn (owns x.1) a' o) ∧
      ∀ k, (∀ x ∈ blocks, ¬ owns x.1 k) → a'.get? k = a.get? k := by
  induction blocks generalizing a with
  | nil =>
      cases h
      exact ⟨fun x hx => absurd hx List.not_mem_nil, fun k _ => rfl⟩
  | cons x rest ih =>
      obtain ⟨hx, hrest⟩ := List.pairwise_cons.1 hapart
      have hxw := hwithin x (by simp)
      obtain ⟨o, ho, hgo⟩ := applyAll_append_iff.1 h
      obtain ⟨heach, hframe⟩ := ih hrest (fun y hy => hwithin y (List.mem_cons_of_mem _ hy)) hgo
      refine ⟨fun y hy => ?_, fun k hk => ?_⟩
      · rcases List.mem_cons.1 hy with rfl | hy
        · -- later blocks leave the keys of the first one alone
          exact ⟨o, ho, fun k hk => hframe k fun z hz => hx z hz k hk⟩
        · obtain ⟨o', ho', hagree⟩ := heach y hy
          have hback : AgreeOn (owns y.1) o a := fun k hk =>
            applyAll_frame hxw ho fun hxk => hx y hy k hxk hk
          obtain ⟨o'', ho'', hagree'⟩ :=
            applyAll_agree hback (hwithin y (List.mem_cons_of_mem _ hy)) ho'
          exact ⟨o'', ho'', hagree.trans hagree'⟩
      · rw [hframe k fun y hy => hk y (List.mem_cons_of_mem _ hy),
          applyAll_frame hxw ho (hk x (by simp))]

/-- Blocks go through if each of them does. -/
theorem exists_applyAll_blocks
    (hapart : blocks.Pairwise fun x y => ∀ k, owns x.1 k → ¬ owns y.1 k)
    (hwithin : ∀ x ∈ blocks, ∀ c ∈ x.2, c.Within (owns x.1))
    (h : ∀ x ∈ blocks, ∃ o, a.applyAll x.2 = .ok o) :
    ∃ a', a.applyAll (blocks.flatMap (·.2)) = .ok a' := by
  induction blocks generalizing a with
  | nil => exact ⟨a, rfl⟩
  | cons x rest ih =>
      obtain ⟨hx, hrest⟩ := List.pairwise_cons.1 hapart
      obtain ⟨o, ho⟩ := h x (by simp)
      have hnext : ∀ y ∈ rest, ∃ o', o.applyAll y.2 = .ok o' := by
        intro y hy
        have hagree : AgreeOn (owns y.1) a o := fun k hk =>
          (applyAll_frame (hwithin x (by simp)) ho fun hxk => hx y hy k hxk hk).symm
        obtain ⟨o', ho'⟩ := h y (List.mem_cons_of_mem _ hy)
        obtain ⟨o'', ho'', -⟩ :=
          applyAll_agree hagree (hwithin y (List.mem_cons_of_mem _ hy)) ho'
        exact ⟨o'', ho''⟩
      obtain ⟨a', ha'⟩ := ih hrest (fun y hy => hwithin y (List.mem_cons_of_mem _ hy)) hnext
      exact ⟨a', applyAll_append_iff.2 ⟨o, ho, ha'⟩⟩

end Blocks

end Objects

end MeshSync.Dataplane
