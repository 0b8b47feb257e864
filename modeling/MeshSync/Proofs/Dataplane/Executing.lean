import MeshSync.Proofs.Dataplane.WellFormed

/-! # Making changes one at a time

    A store looks at the changes of a transaction when that is committed, and
    never asks whether what an object belongs to is there.  A stricter one looks
    at each change as it is staged: it deletes or replaces what is there, and
    creates what is not, below an owner that is (`Change.Applicable`).  Orderly
    changes that a commit would take are `Executable` there too, and so is every
    beginning of them. -/

namespace MeshSync.Dataplane

/-- A frontend or backend that belongs to nothing is an owner. -/
theorem ObjectKey.IsRoot.exists_owner {k : ObjectKey} (h : k.IsRoot) (hparent : k.parent = none) :
    ∃ o : Owner, o.key = k := by
  obtain ⟨kind, parent, name⟩ := k
  obtain rfl : parent = none := hparent
  rcases h with hkind | hkind
  · obtain rfl : kind = "frontends" := hkind
    exact ⟨.frontend name, rfl⟩
  · obtain rfl : kind = "backends" := hkind
    exact ⟨.backend name, rfl⟩

/-- Whether a change can be made to objects as they are: it deletes or replaces
    something that is there, or creates something that is not, and which belongs
    to a frontend or backend that is there, unless it is one itself. -/
def Change.Applicable (objects : Objects) : Change → Prop
  | create key _ => objects.get? key = none ∧
      (¬ key.IsRoot →
        ∃ (o : Owner) (v : Json), objects.get? o.key = some v ∧ key.parent = some o.key.owner)
  | replace key _ => ∃ v, objects.get? key = some v
  | delete key => ∃ v, objects.get? key = some v

/-- Whether changes can be made one at a time, each to what those before it have
    left. -/
def Executable (objects : Objects) : List Change → Prop
  | [] => True
  | c :: cs => c.Applicable objects ∧ ∃ o, objects.apply c = .ok o ∧ Executable o cs

variable {objects objects' : Objects} {cs ds : List Change}

/-- What can be made one at a time can be broken off anywhere. -/
theorem Executable.front (h : Executable objects (cs ++ ds)) : Executable objects cs := by
  induction cs generalizing objects with
  | nil => trivial
  | cons c cs ih =>
      obtain ⟨happlicable, o, hc, hrest⟩ := h
      exact ⟨happlicable, o, hc, ih hrest⟩

/-- The owners that are there for certain after an object was created. -/
theorem present_insert {known : List ObjectKey} {key : ObjectKey} {value : Json}
    (hknown : ∀ p ∈ known, p.IsRoot → p.parent = none ∧ ∃ w, objects.get? p = some w)
    (hnames : key.Names value) :
    ∀ p ∈ key :: known, p.IsRoot →
      p.parent = none ∧ ∃ w, (objects.insert key value).get? p = some w := by
  intro p hp hroot
  by_cases hpk : p = key
  · subst hpk
    exact ⟨hnames.rooted hroot, value, SortedMap.get?_insert_self _ _ _⟩
  · rw [SortedMap.get?_insert_of_ne _ hpk]
    exact hknown p ((List.mem_cons.1 hp).resolve_left hpk) hroot

/-- **Orderly changes that go through can be made one at a time.** -/
theorem Orderly.executable {known : List ObjectKey} (h : Orderly known cs)
    (hknown : ∀ p ∈ known, p.IsRoot → p.parent = none ∧ ∃ w, objects.get? p = some w)
    (ha : objects.applyAll cs = .ok objects') : Executable objects cs := by
  induction cs generalizing objects known with
  | nil => trivial
  | cons c cs ih =>
      obtain ⟨hfits, hcs⟩ := h
      obtain ⟨o, hc, hrest⟩ := Objects.applyAll_cons_iff.1 ha
      cases c with
      | create key value =>
          obtain ⟨hnone, rfl⟩ := Objects.apply_create_iff.1 hc
          refine ⟨⟨hnone, fun hroot => ?_⟩, _, hc, ih hcs (present_insert hknown hfits.1) hrest⟩
          obtain ⟨p, hp, hproot, hparent⟩ := hfits.2 hroot
          obtain ⟨hpparent, w, hw⟩ := hknown p hp hproot
          obtain ⟨owner, rfl⟩ := hproot.exists_owner hpparent
          exact ⟨owner, w, hw, hparent⟩
      | replace key value => exact hfits.elim
      | delete key =>
          obtain ⟨hsome, -⟩ := Objects.apply_delete_iff.1 hc
          exact ⟨hsome, o, hc, ih hcs (fun p hp => absurd hp List.not_mem_nil) hrest⟩

end MeshSync.Dataplane
