import MeshSync.Proofs.Dataplane.Executing
import MeshSync.Proofs.Reconcile.Replacing

/-! # Reworking listeners

    A rework deletes what is believed to be there of a listener, and may build
    it anew.  Reworks of different listeners do not come into each other's way:
    if every belief is right they can be made one change at a time
    (`Reworks.executable`), of every listener what is deleted is deleted before
    anything is created (`Reworks.tearsDownFirst`), and afterwards the listeners
    that were built are there, the others of them are not, and those that were
    not reworked are as they were (`Reworks.after`).  Nothing here depends on
    what else the objects say, so the certificate files that they name are free. -/

namespace MeshSync.Reconcile

open Dataplane

/-- What is done to a listener: what is believed to be there of it is deleted,
    and it is built by some operations, or by none. -/
structure Rework where
  listener : Listener
  believed : Existing
  build : List Operation

namespace Rework

/-- The operations, in order. -/
def operations (x : Rework) : List Operation := x.listener.teardown x.believed ++ x.build

/-- The changes that they mean. -/
def changes (x : Rework) : List Change := replaceChanges x.listener x.believed x.build

theorem map_operations (x : Rework) : x.operations.map (·.change) = x.changes := by
  rw [operations, List.map_append, map_teardown, changes, replaceChanges]

/-- Whether the listener is one with a plain name that is built as listeners are,
    if it is. -/
structure Sound (x : Rework) : Prop where
  plain : x.listener.Plain
  builds : x.build = [] ∨ Builds x.listener x.build

namespace Sound

variable {x : Rework} (h : x.Sound)

include h

theorem within : ∀ c ∈ x.changes, c.Within x.listener.Owns := by
  rcases h.builds with hnone | hbuilds
  · rw [changes, replaceChanges, hnone, List.map_nil, List.append_nil]
    exact within_teardown _ _
  · exact within_replace hbuilds _

theorem orderly : Orderly [] x.changes := by
  rcases h.builds with hnone | hbuilds
  · rw [changes, replaceChanges, hnone, List.map_nil, List.append_nil]
    exact orderly_teardown _ _
  · exact orderly_replace hbuilds _

theorem legible : ∀ op ∈ x.operations, op.Legible := by
  intro op hop
  rcases List.mem_append.1 hop with hop | hop
  · exact (plain_teardown h.plain _ op hop).legible
  · rcases h.builds with hnone | hbuilds
    · rw [hnone] at hop
      exact absurd hop List.not_mem_nil
    · exact (hbuilds.plain op hop).legible

theorem creates : ∀ c ∈ x.build.map (·.change), ∃ k v, c = .create k v := by
  rcases h.builds with hnone | hbuilds
  · rw [hnone]
    exact fun c hc => absurd hc List.not_mem_nil
  · exact hbuilds.creates_changes

variable {objects objects' : Objects}

/-- A rework whose belief is right goes through. -/
theorem exists_applyAll (hwf : objects.WellFormed)
    (hx : x.listener.Accurate x.believed objects) : ∃ o, objects.applyAll x.changes = .ok o := by
  rcases h.builds with hnone | hbuilds
  · obtain ⟨o, ho, -⟩ := exists_remove hwf hx
    rw [changes, replaceChanges, hnone, List.map_nil, List.append_nil]
    exact ⟨o, ho⟩
  · exact exists_replace hwf hbuilds hx

/-- Afterwards both objects of the listener are there, or neither is. -/
theorem after (hwf : objects.WellFormed) (hx : x.listener.Accurate x.believed objects)
    (ha : objects.applyAll x.changes = .ok objects') :
    (x.build ≠ [] → x.listener.Accurate .both objects') ∧
      (x.build = [] → x.listener.Accurate .neither objects') := by
  rcases h.builds with hnone | hbuilds
  · refine ⟨fun hne => absurd hnone hne, fun _ => ?_⟩
    rw [changes, replaceChanges, hnone, List.map_nil, List.append_nil] at ha
    exact accurate_of_nothing (remove_nothing hwf hx ha)
  · refine ⟨fun _ => (replace_stands hwf hbuilds ha).accurate hbuilds, fun hnone => ?_⟩
    obtain ⟨op, hop, -⟩ := hbuilds.front
    rw [hnone] at hop
    exact absurd hop List.not_mem_nil

end Sound

end Rework

/-! ## Teardown before rebuild -/

/-- Whether a change creates an object of a listener. -/
def Listener.Gains (l : Listener) : Change → Prop
  | .create key _ => l.Owns key
  | _ => False

/-- Whether a change deletes an object of a listener. -/
def Listener.Loses (l : Listener) : Change → Prop
  | .delete key => l.Owns key
  | _ => False

/-- Whether no listener loses anything after it has gained something. -/
def TearsDownFirst (cs : List Change) : Prop :=
  cs.Pairwise fun c d => ∀ l : Listener, l.Ours → l.Gains c → ¬ l.Loses d

theorem deletes_teardown (l : Listener) (e : Existing) :
    ∀ c ∈ teardownChanges l e, ∃ k, c = .delete k := by
  intro c hc
  rcases List.mem_append.1 hc with hc | hc
  · split at hc
    · exact ⟨_, List.mem_singleton.1 hc⟩
    · exact absurd hc List.not_mem_nil
  · split at hc
    · exact ⟨_, List.mem_singleton.1 hc⟩
    · exact absurd hc List.not_mem_nil

theorem Rework.Sound.tearsDownFirst {x : Rework} (h : x.Sound) : TearsDownFirst x.changes := by
  -- a change before the build deletes, and one of the build creates
  refine List.pairwise_append.2 ⟨?_, ?_, fun c hc d hd m _ hgains => ?_⟩
  · refine List.pairwise_of_forall_mem_list fun c hc d hd m _ hgains => ?_
    obtain ⟨k, rfl⟩ := deletes_teardown _ _ c hc
    exact hgains.elim
  · refine List.pairwise_of_forall_mem_list fun c hc d hd m _ _ => ?_
    obtain ⟨k, v, rfl⟩ := h.creates d hd
    exact id
  · obtain ⟨k, rfl⟩ := deletes_teardown _ _ c hc
    exact hgains.elim

/-- A listener gains nothing by changes within another one. -/
theorem eq_of_gains {l m : Listener} (hl : l.Ours) (hm : m.Ours) {c : Change}
    (hc : c.Within m.Owns) (h : l.Gains c) : m = l := by
  cases c with
  | create key value => exact Listener.owns_inj hm hl hc h
  | replace key value => exact h.elim
  | delete key => exact h.elim

/-- Nor does it lose anything by them. -/
theorem eq_of_loses {l m : Listener} (hl : l.Ours) (hm : m.Ours) {c : Change}
    (hc : c.Within m.Owns) (h : l.Loses c) : m = l := by
  cases c with
  | create key value => exact h.elim
  | replace key value => exact h.elim
  | delete key => exact Listener.owns_inj hm hl hc.1 h

/-! ## One rework after another -/

/-- Whether reworks are sound, and each of another listener. -/
structure Reworks (xs : List Rework) : Prop where
  sound : ∀ x ∈ xs, x.Sound
  distinct : (xs.map (·.listener)).Nodup

namespace Reworks

variable {xs : List Rework} {objects objects' : Objects} (h : Reworks xs)

include h

theorem distinct_pairwise : xs.Pairwise fun x y => x.listener ≠ y.listener :=
  List.pairwise_map.1 h.distinct

theorem legible : ∀ op ∈ xs.flatMap (·.operations), op.Legible := by
  intro op hop
  obtain ⟨x, hx, hop⟩ := List.mem_flatMap.1 hop
  exact (h.sound x hx).legible op hop

theorem orderly : Orderly [] (xs.flatMap (·.changes)) :=
  Orderly.flatMap fun x hx => (h.sound x hx).orderly

/-- **Every listener is torn down before it is built.** -/
theorem tearsDownFirst : TearsDownFirst (xs.flatMap (·.changes)) := by
  refine List.pairwise_flatMap.2 ⟨fun x hx => (h.sound x hx).tearsDownFirst,
    h.distinct_pairwise.imp_of_mem ?_⟩
  intro x y hx hy hne c hc d hd l hl hgains hloses
  have hx := h.sound x hx
  have hy := h.sound y hy
  exact hne ((eq_of_gains hl hx.plain.ours (hx.within c hc) hgains).trans
    (eq_of_loses hl hy.plain.ours (hy.within d hd) hloses).symm)

/-- Reworks as blocks of changes, each within its listener. -/
theorem apart : (xs.map fun x => (x.listener, x.changes)).Pairwise fun x y =>
    ∀ k, x.1.Owns k → ¬ y.1.Owns k := by
  refine List.pairwise_map.2 (h.distinct_pairwise.imp_of_mem ?_)
  intro x y hx hy hne k hk hk'
  exact hne (Listener.owns_inj (h.sound x hx).plain.ours (h.sound y hy).plain.ours hk hk')

theorem within : ∀ b ∈ xs.map fun x => (x.listener, x.changes), ∀ c ∈ b.2,
    c.Within b.1.Owns := by
  intro b hb
  obtain ⟨x, hx, rfl⟩ := List.mem_map.1 hb
  exact (h.sound x hx).within

omit h in
theorem map_operations : (xs.flatMap (·.operations)).map (·.change) = xs.flatMap (·.changes) := by
  rw [List.map_flatMap]
  exact congrArg (List.flatMap · xs) (funext Rework.map_operations)

omit h in
theorem flatMap_blocks : (xs.map fun x => (x.listener, x.changes)).flatMap (·.2) =
    xs.flatMap (·.changes) := List.flatMap_map ..

/-- **Reworks that believe what is so can be made one change at a time.** -/
theorem executable (hwf : objects.WellFormed)
    (hx : ∀ x ∈ xs, x.listener.Accurate x.believed objects) :
    Executable objects (xs.flatMap (·.changes)) := by
  obtain ⟨o, ho⟩ := Objects.exists_applyAll_blocks (a := objects) h.apart h.within fun b hb => by
    obtain ⟨x, hmem, rfl⟩ := List.mem_map.1 hb
    exact (h.sound x hmem).exists_applyAll hwf (hx x hmem)
  rw [flatMap_blocks] at ho
  exact h.orderly.executable (fun p hp => absurd hp List.not_mem_nil) ho

/-- **Listeners that are not reworked are as they were.** -/
theorem frame (ha : objects.applyAll (xs.flatMap (·.changes)) = .ok objects') {l : Listener}
    (hl : l.Ours) (hother : ∀ x ∈ xs, x.listener ≠ l) : objects'.AgreeOn l.Owns objects := by
  rw [← flatMap_blocks] at ha
  refine fun k hk => (Objects.applyAll_blocks h.apart h.within ha).2 k fun b hb hbk => ?_
  obtain ⟨x, hmem, rfl⟩ := List.mem_map.1 hb
  exact hother x hmem (Listener.owns_inj (h.sound x hmem).plain.ours hl hbk hk)

/-- **What reworks leave of the listeners.** -/
theorem after (hwf : objects.WellFormed)
    (hx : ∀ x ∈ xs, x.listener.Accurate x.believed objects)
    (ha : objects.applyAll (xs.flatMap (·.changes)) = .ok objects') :
    (∀ x ∈ xs, (x.build ≠ [] → x.listener.Accurate .both objects') ∧
      (x.build = [] → x.listener.Accurate .neither objects')) ∧
    ∀ l : Listener, l.Ours → (∀ x ∈ xs, x.listener ≠ l) → objects'.AgreeOn l.Owns objects := by
  refine ⟨fun x hmem => ?_, fun l hl hother => h.frame ha hl hother⟩
  rw [← flatMap_blocks] at ha
  obtain ⟨o, ho, hagree⟩ :=
    (Objects.applyAll_blocks h.apart h.within ha).1 _ (List.mem_map_of_mem hmem)
  obtain ⟨hbuilt, hgone⟩ := (h.sound x hmem).after hwf (hx x hmem) ho
  exact ⟨fun hne => (hbuilt hne).of_agree hagree.symm,
    fun hnone => (hgone hnone).of_agree hagree.symm⟩

end Reworks

end MeshSync.Reconcile
