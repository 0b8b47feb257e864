import MeshSync.Proofs.Dataplane.Objects

/-! # Well-formed objects

    Frontends and backends belong to nothing, every other object belongs to a
    frontend or backend that is there, a body carries the name of its key, and
    names are unreserved.  `Orderly` changes keep this form: they create what
    an object belongs to before the object (`WellFormed.applyAll`). -/

namespace MeshSync.Dataplane

open Url (Unreserved)

/-- Whether a key is that of a frontend or backend. -/
def ObjectKey.IsRoot (k : ObjectKey) : Prop := k.kind = "frontends" ∨ k.kind = "backends"

theorem ObjectKey.isRoot_frontend (name : String) : (frontend name).IsRoot := .inl rfl

theorem ObjectKey.isRoot_backend (name : String) : (backend name).IsRoot := .inr rfl

/-- Whether an object can stand under a key. -/
structure ObjectKey.Names (k : ObjectKey) (value : Json) : Prop where
  unreserved : Unreserved k.name
  named : Command.objectName? value = some k.name
  rooted : k.IsRoot → k.parent = none

/-- Whether objects are well formed. -/
structure Objects.WellFormed (objects : Objects) : Prop where
  names : ∀ k v, objects.get? k = some v → k.Names v
  owned : ∀ k v, objects.get? k = some v → ¬ k.IsRoot →
    ∃ p w, p.IsRoot ∧ objects.get? p = some w ∧ k.parent = some p.owner

namespace Objects.WellFormed

variable {objects objects' : Objects} {key : ObjectKey} {value : Json}

theorem empty : WellFormed (∅ : Objects) := ⟨fun _ _ h => (nomatch h), fun _ _ h => (nomatch h)⟩

/-- Deleting a frontend or backend deletes all that belongs to it. -/
theorem drop (h : objects.WellFormed) : (objects.drop key).WellFormed := by
  have before : ∀ k v, (objects.drop key).get? k = some v →
      objects.get? k = some v ∧ k ≠ key ∧ k.parent ≠ some key.owner := by
    intro k v hk
    rw [get?_drop] at hk
    by_cases hgone : k = key ∨ k.parent = some key.owner
    · rw [if_pos hgone] at hk
      exact nomatch hk
    · rw [if_neg hgone] at hk
      exact ⟨hk, not_or.1 hgone⟩
  refine ⟨fun k v hk => h.names k v (before k v hk).1, fun k v hk hroot => ?_⟩
  obtain ⟨hk, -, hparent⟩ := before k v hk
  obtain ⟨p, w, hp, hpw, hkp⟩ := h.owned k v hk hroot
  refine ⟨p, w, hp, ?_, hkp⟩
  rw [get?_drop, if_neg, hpw]
  rintro (rfl | hpp)
  · exact hparent hkp
  · rw [(h.names p w hpw).rooted hp] at hpp
    exact nomatch hpp

/-- An object may be added if what it belongs to is there. -/
theorem insert (h : objects.WellFormed) (hnames : key.Names value)
    (howned : ¬ key.IsRoot → ∃ p w, p.IsRoot ∧ objects.get? p = some w ∧
      key.parent = some p.owner) :
    WellFormed (objects.insert key value) := by
  have still : ∀ p w, objects.get? p = some w →
      ∃ w', (objects.insert key value).get? p = some w' := by
    intro p w hp
    by_cases hpk : p = key
    · subst hpk
      exact ⟨value, SortedMap.get?_insert_self _ _ _⟩
    · exact ⟨w, (SortedMap.get?_insert_of_ne _ hpk _).trans hp⟩
  constructor
  · intro k v hk
    by_cases hkey : k = key
    · subst hkey
      rw [SortedMap.get?_insert_self] at hk
      rwa [← Option.some.inj hk]
    · rw [SortedMap.get?_insert_of_ne _ hkey] at hk
      exact h.names k v hk
  · intro k v hk hroot
    have hold : ∃ p w, p.IsRoot ∧ objects.get? p = some w ∧ k.parent = some p.owner := by
      by_cases hkey : k = key
      · subst hkey
        exact howned hroot
      · rw [SortedMap.get?_insert_of_ne _ hkey] at hk
        exact h.owned k v hk hroot
    obtain ⟨p, w, hp, hpw, hkp⟩ := hold
    obtain ⟨w', hw'⟩ := still p w hpw
    exact ⟨p, w', hp, hw', hkp⟩

end Objects.WellFormed

/-! ## Orderly changes -/

/-- Whether a change may be made where the frontends and backends `known` are
    there for certain. -/
def Change.Fits (known : List ObjectKey) : Change → Prop
  | create key value =>
    key.Names value ∧ (¬ key.IsRoot → ∃ p ∈ known, p.IsRoot ∧ key.parent = some p.owner)
  | replace _ _ => False
  | delete key => key.IsRoot

/-- The frontends and backends that are there for certain after a change. -/
def Change.known (known : List ObjectKey) : Change → List ObjectKey
  | create key _ => key :: known
  | replace _ _ => known
  | delete _ => []

/-- Whether changes may be made one after another. -/
def Orderly (known : List ObjectKey) : List Change → Prop
  | [] => True
  | c :: cs => c.Fits known ∧ Orderly (c.known known) cs

theorem Change.Fits.mono {known known' : List ObjectKey} {c : Change} (h : c.Fits known)
    (hsub : known ⊆ known') : c.Fits known' := by
  cases c with
  | create key value =>
      refine ⟨h.1, fun hroot => ?_⟩
      obtain ⟨p, hp, hrest⟩ := h.2 hroot
      exact ⟨p, hsub hp, hrest⟩
  | replace key value => exact h
  | delete key => exact h

theorem Change.known_mono {known known' : List ObjectKey} (hsub : known ⊆ known') (c : Change) :
    c.known known ⊆ c.known known' := by
  cases c with
  | create key value => exact List.cons_subset_cons key hsub
  | replace key value => exact hsub
  | delete key => exact List.Subset.refl []

theorem Orderly.mono {known known' : List ObjectKey} {cs : List Change} (h : Orderly known cs)
    (hsub : known ⊆ known') : Orderly known' cs := by
  induction cs generalizing known known' with
  | nil => trivial
  | cons c cs ih => exact ⟨h.1.mono hsub, ih h.2 (Change.known_mono hsub c)⟩

/-- Orderly changes that rely on nothing may follow any others. -/
theorem Orderly.append {known : List ObjectKey} {cs ds : List Change} (h : Orderly known cs)
    (h' : Orderly [] ds) : Orderly known (cs ++ ds) := by
  induction cs generalizing known with
  | nil => exact h'.mono (List.nil_subset known)
  | cons c cs ih => exact ⟨h.1, ih h.2⟩

theorem Orderly.flatMap {α : Type} {f : α → List Change} {as : List α}
    (h : ∀ a ∈ as, Orderly [] (f a)) : Orderly [] (as.flatMap f) := by
  induction as with
  | nil => trivial
  | cons a as ih => exact (h a (by simp)).append (ih fun b hb => h b (List.mem_cons_of_mem _ hb))

/-- **Orderly changes keep objects well formed.** -/
theorem Objects.WellFormed.applyAll {known : List ObjectKey} {cs : List Change}
    {objects objects' : Objects} (h : objects.WellFormed)
    (hknown : ∀ p ∈ known, ∃ w, objects.get? p = some w) (hcs : Orderly known cs)
    (ha : objects.applyAll cs = .ok objects') : objects'.WellFormed := by
  induction cs generalizing objects known with
  | nil =>
      cases ha
      exact h
  | cons c cs ih =>
      obtain ⟨o, hc, hrest⟩ := Objects.applyAll_cons_iff.1 ha
      obtain ⟨hfits, hcs⟩ := hcs
      cases c with
      | create key value =>
          obtain ⟨-, rfl⟩ := Objects.apply_create_iff.1 hc
          refine ih (h.insert hfits.1 fun hroot => ?_) (fun p hp => ?_) hcs hrest
          · obtain ⟨p, hp, hroot, hparent⟩ := hfits.2 hroot
            obtain ⟨w, hw⟩ := hknown p hp
            exact ⟨p, w, hroot, hw, hparent⟩
          · by_cases hpk : p = key
            · exact ⟨value, by rw [hpk, SortedMap.get?_insert_self]⟩
            · rw [SortedMap.get?_insert_of_ne _ hpk]
              exact hknown p ((List.mem_cons.1 hp).resolve_left hpk)
      | replace key value => exact hfits.elim
      | delete key =>
          obtain ⟨-, rfl⟩ := Objects.apply_delete_iff.1 hc
          exact ih h.drop (fun p hp => absurd hp List.not_mem_nil) hcs hrest

end MeshSync.Dataplane
