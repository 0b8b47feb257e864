import MeshSync.Proofs.Reconcile.Building

/-! # Replacing a listener

    Deleting what is there of a listener and building it anew.  If this goes
    through, the listener `Stands` as if it had been built where nothing was
    (`replace_stands`), whatever was believed to be there; and it does go
    through if the belief was right (`exists_replace`).  For a listener that is
    only deleted, nothing is left if the belief was right
    (`remove_nothing`). -/

namespace MeshSync.Reconcile

open Dataplane
open Url (Unreserved)

variable {objects objects' : Objects}

/-! ## Creating objects -/

/-- Objects can be created where none of them is there. -/
theorem exists_applyAll_creates {cs : List Change} (hcreates : ∀ c ∈ cs, ∃ k v, c = .create k v)
    (hdistinct : (cs.map key).Nodup) (habsent : ∀ c ∈ cs, objects.get? (key c) = none) :
    ∃ o, objects.applyAll cs = .ok o := by
  induction cs generalizing objects with
  | nil => exact ⟨objects, rfl⟩
  | cons c cs ih =>
      obtain ⟨k, v, rfl⟩ := hcreates c (by simp)
      obtain ⟨hk, hdistinct⟩ := List.nodup_cons.1 hdistinct
      have hnone : objects.get? k = none := habsent (.create k v) (by simp)
      have hrest : ∀ d ∈ cs, (objects.insert k v).get? (key d) = none := by
        intro d hd
        have hne : key d ≠ k := fun heq => hk (List.mem_map.2 ⟨d, hd, heq⟩)
        rw [SortedMap.get?_insert_of_ne _ hne]
        exact habsent d (List.mem_cons_of_mem _ hd)
      obtain ⟨o, ho⟩ := ih (fun d hd => hcreates d (List.mem_cons_of_mem _ hd)) hdistinct hrest
      exact ⟨o, Objects.applyAll_cons_iff.2
        ⟨_, Objects.apply_create_iff.2 ⟨hnone, rfl⟩, ho⟩⟩

/-- Objects that were created were not there before. -/
theorem absent_of_applyAll_creates {cs : List Change}
    (hcreates : ∀ c ∈ cs, ∃ k v, c = .create k v) (h : objects.applyAll cs = .ok objects') :
    ∀ c ∈ cs, objects.get? (key c) = none := by
  induction cs generalizing objects with
  | nil => exact fun c hc => absurd hc List.not_mem_nil
  | cons c cs ih =>
      obtain ⟨k, v, rfl⟩ := hcreates c (by simp)
      obtain ⟨o, hc, hrest⟩ := Objects.applyAll_cons_iff.1 h
      obtain ⟨hnone, rfl⟩ := Objects.apply_create_iff.1 hc
      intro d hd
      rcases List.mem_cons.1 hd with rfl | hd
      · exact hnone
      · have hafter := ih (fun e he => hcreates e (List.mem_cons_of_mem _ he)) hrest d hd
        by_cases hk : key d = k
        · rw [hk]
          exact hnone
        · rwa [SortedMap.get?_insert_of_ne _ hk] at hafter

/-- Objects that were created are there. -/
theorem present_of_applyAll_creates {cs : List Change}
    (hcreates : ∀ c ∈ cs, ∃ k v, c = .create k v) (h : objects.applyAll cs = .ok objects')
    {k : ObjectKey} (hk : (∃ v, objects.get? k = some v) ∨ k ∈ cs.map key) :
    ∃ v, objects'.get? k = some v := by
  induction cs generalizing objects with
  | nil =>
      cases h
      exact hk.resolve_right List.not_mem_nil
  | cons c cs ih =>
      obtain ⟨j, v, rfl⟩ := hcreates c (by simp)
      obtain ⟨o, hc, hrest⟩ := Objects.applyAll_cons_iff.1 h
      obtain ⟨-, rfl⟩ := Objects.apply_create_iff.1 hc
      refine ih (fun d hd => hcreates d (List.mem_cons_of_mem _ hd)) hrest ?_
      by_cases hkj : k = j
      · exact .inl ⟨v, by rw [hkj, SortedMap.get?_insert_self]⟩
      · rw [SortedMap.get?_insert_of_ne _ hkj]
        rcases hk with hk | hk
        · exact .inl hk
        · exact .inr ((List.mem_cons.1 hk).resolve_left hkj)

namespace Creates

variable {l : Listener} {ops : List Operation}

/-- What creates a listener's objects only creates. -/
theorem creates_changes (h : Creates l ops) : ∀ c ∈ ops.map (·.change), ∃ k v, c = .create k v := by
  intro c hc
  obtain ⟨op, hop, rfl⟩ := List.mem_map.1 hc
  obtain ⟨k, v, hchange, -⟩ := h.creates op hop
  exact ⟨k, v, hchange⟩

/-- It creates nothing but what the listener owns. -/
theorem within (h : Creates l ops) : ∀ c ∈ ops.map (·.change), c.Within l.Owns := by
  intro c hc
  obtain ⟨op, hop, rfl⟩ := List.mem_map.1 hc
  obtain ⟨k, v, hchange, hk⟩ := h.creates op hop
  rw [hchange]
  exact hk

/-- Building goes through where nothing of the listener is there. -/
theorem exists_applyAll (h : Creates l ops) (hnothing : objects.AgreeOn l.Owns ∅) :
    ∃ o, objects.applyAll (ops.map (·.change)) = .ok o := by
  refine exists_applyAll_creates h.creates_changes ?_ fun c hc => ?_
  · rw [List.map_map]
    exact h.distinct
  · obtain ⟨op, hop, rfl⟩ := List.mem_map.1 hc
    obtain ⟨k, v, hchange, hk⟩ := h.creates op hop
    rw [hchange]
    exact hnothing k hk

/-- It creates the listener's frontend. -/
theorem mem_front (h : Creates l ops) : l.front ∈ (ops.map (·.change)).map key := by
  obtain ⟨op, hop, hk⟩ := h.front
  rw [List.map_map]
  exact List.mem_map.2 ⟨op, hop, hk⟩

/-- It creates the listener's backend. -/
theorem mem_back (h : Creates l ops) : l.back ∈ (ops.map (·.change)).map key := by
  obtain ⟨op, hop, hk⟩ := h.back
  rw [List.map_map]
  exact List.mem_map.2 ⟨op, hop, hk⟩

end Creates

/-! ## Standing listeners -/

/-- Whether what is there of a listener is what operations build where nothing
    was. -/
def Stands (l : Listener) (ops : List Operation) (objects : Objects) : Prop :=
  ∃ o, Objects.applyAll ∅ (ops.map (·.change)) = .ok o ∧ objects.AgreeOn l.Owns o

/-- Whether what is believed to be there of a listener is there. -/
structure Listener.Accurate (l : Listener) (e : Existing) (objects : Objects) : Prop where
  frontend : e.frontend = objects.contains l.front
  backend : e.backend = objects.contains l.back

variable {l : Listener} {ops : List Operation}

/-- What is believed of a listener depends on nothing but what it owns. -/
theorem Listener.Accurate.of_agree {e : Existing} (h : l.Accurate e objects)
    (hagree : objects.AgreeOn l.Owns objects') : l.Accurate e objects' := by
  have hcontains : ∀ k, l.Owns k → objects.contains k = objects'.contains k := by
    intro k hk
    rw [SortedMap.contains, SortedMap.contains, hagree k hk]
  exact ⟨h.frontend.trans (hcontains _ l.owns_front), h.backend.trans (hcontains _ l.owns_back)⟩

/-- Building where nothing is there of a listener lets it stand. -/
theorem stands_of_build (h : Builds l ops) (hnothing : objects.AgreeOn l.Owns ∅)
    (ha : objects.applyAll (ops.map (·.change)) = .ok objects') : Stands l ops objects' := by
  obtain ⟨o, ho, hagree⟩ := Objects.applyAll_agree hnothing h.within ha
  exact ⟨o, ho, hagree⟩

/-- So does whether it stands. -/
theorem Stands.congr (h : Stands l ops objects) (hagree : objects'.AgreeOn l.Owns objects) :
    Stands l ops objects' := by
  obtain ⟨o, ho, hs⟩ := h
  exact ⟨o, ho, hagree.trans hs⟩

/-- Of a listener that stands both objects are there. -/
theorem Stands.accurate (hb : Builds l ops) (h : Stands l ops objects) :
    l.Accurate .both objects := by
  obtain ⟨o, ho, hagree⟩ := h
  have hfront := present_of_applyAll_creates hb.creates_changes ho (.inr hb.mem_front)
  have hback := present_of_applyAll_creates hb.creates_changes ho (.inr hb.mem_back)
  rw [← hagree _ l.owns_front] at hfront
  rw [← hagree _ l.owns_back] at hback
  exact ⟨((SortedMap.contains_iff _ _).2 hfront).symm, ((SortedMap.contains_iff _ _).2 hback).symm⟩

/-- Of a listener of which there is nothing neither object is there. -/
theorem accurate_of_nothing (h : objects.AgreeOn l.Owns ∅) : l.Accurate .neither objects :=
  ⟨((SortedMap.not_contains_iff _ _).2 (h _ l.owns_front)).symm,
    ((SortedMap.not_contains_iff _ _).2 (h _ l.owns_back)).symm⟩

/-! ## Deleting -/

/-- The changes by which what is there of a listener is deleted. -/
def teardownChanges (l : Listener) (e : Existing) : List Change :=
  (if e.frontend then [.delete l.front] else []) ++ (if e.backend then [.delete l.back] else [])

/-- The operations that tear a listener down mean these changes. -/
theorem map_teardown (l : Listener) (e : Existing) :
    (l.teardown e).map (·.change) = teardownChanges l e := by
  obtain ⟨front, back⟩ := e
  cases front <;> cases back <;> rfl

/-- They name it by names that stand for themselves. -/
theorem plain_teardown (hl : l.Plain) (e : Existing) : ∀ op ∈ l.teardown e, op.Plain := by
  intro op hop
  rw [Listener.teardown] at hop
  rcases List.mem_append.1 hop with hop | hop
  · split at hop
    · rw [List.mem_singleton.1 hop]
      exact hl.frontend_segment
    · exact absurd hop List.not_mem_nil
  · split at hop
    · rw [List.mem_singleton.1 hop]
      exact hl.backend_segment
    · exact absurd hop List.not_mem_nil

/-- They concern nothing but what it owns. -/
theorem within_teardown (l : Listener) (e : Existing) :
    ∀ c ∈ teardownChanges l e, c.Within l.Owns := by
  intro c hc
  rcases List.mem_append.1 hc with hc | hc
  · split at hc
    · rw [List.mem_singleton.1 hc]
      exact ⟨l.owns_front, fun k hk => .inr (.inr (.inl hk))⟩
    · exact absurd hc List.not_mem_nil
  · split at hc
    · rw [List.mem_singleton.1 hc]
      exact ⟨l.owns_back, fun k hk => .inr (.inr (.inr hk))⟩
    · exact absurd hc List.not_mem_nil

/-- They need nothing that they have deleted. -/
theorem orderly_teardown (l : Listener) (e : Existing) : Orderly [] (teardownChanges l e) := by
  have hfront : l.front.IsRoot := ObjectKey.isRoot_frontend _
  have hback : l.back.IsRoot := ObjectKey.isRoot_backend _
  obtain ⟨front, back⟩ := e
  cases front with
  | false =>
      cases back with
      | false => trivial
      | true => exact ⟨hback, trivial⟩
  | true =>
      cases back with
      | false => exact ⟨hfront, trivial⟩
      | true => exact ⟨hfront, hback, trivial⟩

/-- A right belief about a listener can be carried out, and leaves nothing. -/
theorem exists_remove (h : objects.WellFormed) {e : Existing} (he : l.Accurate e objects) :
    ∃ o, objects.applyAll (teardownChanges l e) = .ok o ∧ o.AgreeOn l.Owns ∅ := by
  have hne : l.back ≠ l.front := fun heq =>
    absurd (congrArg ObjectKey.kind heq) (by decide : ¬ (("backends" : String) = "frontends"))
  obtain ⟨front, back⟩ := e
  obtain ⟨hfront, hback⟩ := he
  -- the frontend goes first, and takes nothing of the backend with it
  have first : ∃ o, objects.applyAll (if front then [.delete l.front] else []) = .ok o ∧
      o.WellFormed ∧ o.get? l.front = none ∧ o.get? l.back = objects.get? l.back := by
    cases front with
    | false =>
        exact ⟨objects, rfl, h, (SortedMap.not_contains_iff _ _).1 hfront.symm, rfl⟩
    | true =>
        have hsome := (SortedMap.contains_iff _ _).1 hfront.symm
        refine ⟨objects.drop l.front, Objects.applyAll_cons_iff.2
          ⟨_, Objects.apply_delete_iff.2 ⟨hsome, rfl⟩, rfl⟩, h.drop, ?_, ?_⟩
        · rw [Objects.get?_drop, if_pos (.inl rfl)]
        · rw [Objects.get?_drop, if_neg]
          rintro (heq | hparent)
          · exact hne heq
          · exact nomatch hparent
  obtain ⟨o, ho, hwf, hof, hob⟩ := first
  cases back with
  | false =>
      refine ⟨o, Objects.applyAll_append_iff.2 ⟨o, ho, rfl⟩, ?_⟩
      have hnone := (SortedMap.not_contains_iff _ _).1 hback.symm
      exact Listener.nothing_of_absent hwf hof (hob.trans hnone)
  | true =>
      have hsome := (SortedMap.contains_iff _ _).1 hback.symm
      rw [← hob] at hsome
      refine ⟨o.drop l.back, Objects.applyAll_append_iff.2 ⟨o, ho, Objects.applyAll_cons_iff.2
          ⟨_, Objects.apply_delete_iff.2 ⟨hsome, rfl⟩, rfl⟩⟩, ?_⟩
      refine Listener.nothing_of_absent hwf.drop ?_ ?_
      · rw [Objects.get?_drop, hof, ite_self]
      · rw [Objects.get?_drop, if_pos (.inl rfl)]

/-- After them nothing is left of the listener. -/
theorem remove_nothing (h : objects.WellFormed) {e : Existing} (he : l.Accurate e objects)
    (ha : objects.applyAll (teardownChanges l e) = .ok objects') : objects'.AgreeOn l.Owns ∅ := by
  obtain ⟨o, ho, hnothing⟩ := exists_remove h he
  rw [ha] at ho
  rwa [Except.ok.inj ho]

/-! ## Replacing -/

/-- The changes by which a listener is replaced. -/
def replaceChanges (l : Listener) (e : Existing) (ops : List Operation) : List Change :=
  teardownChanges l e ++ ops.map (·.change)

/-- Replacing a listener concerns nothing but what it owns. -/
theorem within_replace (hb : Builds l ops) (e : Existing) :
    ∀ c ∈ replaceChanges l e ops, c.Within l.Owns := by
  intro c hc
  rcases List.mem_append.1 hc with hc | hc
  · exact within_teardown l e c hc
  · exact hb.within c hc

/-- Its changes are in an order in which each finds its owner. -/
theorem orderly_replace (hb : Builds l ops) (e : Existing) :
    Orderly [] (replaceChanges l e ops) :=
  (orderly_teardown l e).append hb.orderly

/-- **A listener that was replaced stands**, whatever was believed to be there of
    it. -/
theorem replace_stands (h : objects.WellFormed) (hb : Builds l ops) {e : Existing}
    (ha : objects.applyAll (replaceChanges l e ops) = .ok objects') : Stands l ops objects' := by
  obtain ⟨o, ho, hbuild⟩ := Objects.applyAll_append_iff.1 ha
  have hwf : o.WellFormed :=
    h.applyAll (fun p hp => absurd hp List.not_mem_nil) (orderly_teardown l e) ho
  -- had something been left, the frontend or the backend could not be created
  have habsent := absent_of_applyAll_creates hb.creates_changes hbuild
  have absent : ∀ k, k ∈ (ops.map (·.change)).map key → o.get? k = none := by
    intro k hk
    obtain ⟨c, hc, rfl⟩ := List.mem_map.1 hk
    exact habsent c hc
  exact stands_of_build hb
    (Listener.nothing_of_absent hwf (absent _ hb.mem_front) (absent _ hb.mem_back)) hbuild

/-- A right belief about a listener lets it be replaced. -/
theorem exists_replace (h : objects.WellFormed) (hb : Builds l ops) {e : Existing}
    (he : l.Accurate e objects) : ∃ o, objects.applyAll (replaceChanges l e ops) = .ok o := by
  obtain ⟨o, ho, hnothing⟩ := exists_remove h he
  obtain ⟨o', ho'⟩ := hb.exists_applyAll hnothing
  exact ⟨o', Objects.applyAll_append_iff.2 ⟨o, ho, ho'⟩⟩

end MeshSync.Reconcile
