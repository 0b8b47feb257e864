import MeshSync.Proofs.Reconcile.Replacing

/-! # Carrying out a plan

    A plan falls into blocks, one for each listener it touches.  Where every
    belief of the plan is right (`Plan.Accurate`), its changes go through
    (`exists_applyAll_plan`), and what is there afterwards is what serving the
    snapshot takes, with nothing left over and nothing else touched
    (`serves_of_plan`). -/

namespace MeshSync

/-- Whether the services of a snapshot have different names that stand for
    themselves in URLs. -/
structure Snapshot.Valid (s : Snapshot) : Prop where
  distinct : (s.upstreams.map (·.service)).Nodup
  unreserved : ∀ u ∈ s.upstreams, Url.Unreserved u.service

instance (s : Snapshot) : Decidable s.Valid :=
  decidable_of_iff
    ((s.upstreams.map (·.service)).Nodup ∧ ∀ u ∈ s.upstreams, Url.Unreserved u.service)
    ⟨fun h => ⟨h.1, h.2⟩, fun h => ⟨h.distinct, h.unreserved⟩⟩

namespace Snapshot

/-- In a valid snapshot an upstream is found by its name. -/
theorem upstream?_eq_some_iff {s : Snapshot} (h : s.Valid) {service : String} {u : Upstream} :
    s.upstream? service = some u ↔ u ∈ s.upstreams ∧ u.service = service := by
  constructor
  · intro hu
    have hservice := List.find?_some hu
    exact ⟨List.mem_of_find?_eq_some hu, of_decide_eq_true hservice⟩
  · rintro ⟨hu, rfl⟩
    obtain ⟨v, hv⟩ : ∃ v, s.upstream? u.service = some v := by
      refine Option.isSome_iff_exists.1 (List.find?_isSome.2 ⟨u, hu, ?_⟩)
      exact decide_eq_true rfl
    have hfound := List.find?_some hv
    have hservice : v.service = u.service := of_decide_eq_true hfound
    rw [hv, List.inj_on_of_nodup_map h.distinct (List.mem_of_find?_eq_some hv) hu hservice]

/-- None is found just where none has the name. -/
theorem upstream?_isNone_iff {s : Snapshot} {service : String} :
    (s.upstream? service).isNone = true ↔ ∀ u ∈ s.upstreams, u.service ≠ service := by
  rw [Option.isNone_iff_eq_none, upstream?, List.find?_eq_none]
  constructor
  · intro h u hu heq
    exact h u hu (decide_eq_true heq)
  · intro h u hu heq
    exact h u hu (of_decide_eq_true heq)

end Snapshot

namespace Reconcile

open Dataplane
open Url (Unreserved)

variable {paths : TlsMaterial → Certificates.Paths} {options : Options}

/-! ## What serving a snapshot takes -/

/-- The operations that build the downstream of a snapshot. -/
def downstreamOps (paths : TlsMaterial → Certificates.Paths) (options : Options) (s : Snapshot) :
    List Operation :=
  operations paths (Downstream.build s.downstream options)

/-- The operations that build an upstream. -/
def upstreamOps (paths : TlsMaterial → Certificates.Paths) (options : Options) (u : Upstream) :
    List Operation :=
  operations paths (Upstream.build u options)

/-- Whether every listener of a snapshot stands, and nothing is there of any
    other. -/
structure Serves (paths : TlsMaterial → Certificates.Paths) (options : Options) (s : Snapshot)
    (objects : Objects) : Prop where
  downstream : Stands .downstream (downstreamOps paths options s) objects
  upstreams : ∀ u ∈ s.upstreams, Stands (.upstream u.service) (upstreamOps paths options u) objects
  others : ∀ service, (∀ u ∈ s.upstreams, u.service ≠ service) →
    objects.AgreeOn (Listener.upstream service).Owns ∅

/-- Whether no listener has anything. -/
def Clear (objects : Objects) : Prop := objects.AgreeOn Owned ∅

/-- Where no listener has anything, none of ours has. -/
theorem Clear.nothing {objects : Objects} (h : Clear objects) {l : Listener} (hl : l.Ours) :
    objects.AgreeOn l.Owns ∅ := fun k hk => h k ⟨l, hl, hk⟩

/-! ## Blocks -/

/-- A listener and what is done to it. -/
abbrev Block := Listener × List Change

namespace Plan

/-- What is done to the downstream. -/
def downstreamBlock (paths : TlsMaterial → Certificates.Paths) (options : Options)
    (next : Snapshot) : Option Existing → List Block
  | none => []
  | some e => [(.downstream, replaceChanges .downstream e (downstreamOps paths options next))]

/-- How an upstream is deleted. -/
def removedBlock (x : String × Existing) : Block :=
  (.upstream x.1, teardownChanges (.upstream x.1) x.2)

/-- How an upstream is rebuilt. -/
def rebuiltBlock (paths : TlsMaterial → Certificates.Paths) (options : Options) (next : Snapshot)
    (x : String × Existing) : Block :=
  (.upstream x.1, replaceChanges (.upstream x.1) x.2
    (((next.upstream? x.1).map (upstreamOps paths options)).getD []))

/-- What a plan does to each listener. -/
def blocks (paths : TlsMaterial → Certificates.Paths) (options : Options) (next : Snapshot)
    (p : Plan) : List Block :=
  downstreamBlock paths options next p.downstream ++
    (p.removed.map removedBlock ++ p.rebuilt.map (rebuiltBlock paths options next))

/-- The changes that a plan stages. -/
def changes (paths : TlsMaterial → Certificates.Paths) (options : Options) (next : Snapshot)
    (p : Plan) : List Change :=
  (operations paths (p.parts next options)).map (·.change)

/-- Replacing a listener is tearing it down and then building it. -/
theorem operations_replaceParts (l : Listener) (e : Existing) (build : List Part) :
    operations paths (replaceParts l e build) = l.teardown e ++ operations paths build := by
  rw [replaceParts, operations_append, operations_plain]

/-- So it is in terms of changes. -/
theorem changes_replaceParts (l : Listener) (e : Existing) (build : List Part) :
    (operations paths (replaceParts l e build)).map (·.change) =
      replaceChanges l e (operations paths build) := by
  rw [operations_replaceParts, List.map_append, map_teardown, replaceChanges]

/-- The changes of parts in turn are those of each in turn. -/
theorem changes_flatMap {α : Type} (f : α → List Part) (as : List α) :
    (operations paths (as.flatMap f)).map (·.change) =
      as.flatMap fun a => (operations paths (f a)).map (·.change) := by
  induction as with
  | nil => rfl
  | cons a as ih =>
      rw [List.flatMap_cons, List.flatMap_cons, operations_append, List.map_append, ih]

/-- A plan stages its blocks one after another. -/
theorem changes_eq_blocks (p : Plan) (next : Snapshot) :
    p.changes paths options next = (p.blocks paths options next).flatMap (·.2) := by
  have hremoved : ∀ x : String × Existing,
      (operations paths (replaceParts (.upstream x.1) x.2 [])).map (·.change) =
        (removedBlock x).2 := by
    intro x
    rw [changes_replaceParts]
    exact List.append_nil _
  have hrebuilt : ∀ x : String × Existing,
      (operations paths (rebuildParts next options x.1 x.2)).map (·.change) =
        (rebuiltBlock paths options next x).2 := by
    intro x
    rw [rebuildParts, changes_replaceParts, rebuiltBlock]
    cases next.upstream? x.1 with
    | none => rfl
    | some u => rfl
  rw [changes, parts, operations_append, operations_append, List.map_append, List.map_append,
    changes_flatMap, changes_flatMap, blocks, List.flatMap_append, List.flatMap_append,
    List.flatMap_map, List.flatMap_map, List.append_assoc]
  refine congrArg₂ (· ++ ·) ?_ (congrArg₂ (· ++ ·) ?_ ?_)
  · cases p.downstream with
    | none => rfl
    | some e =>
        dsimp only
        rw [changes_replaceParts]
        exact (List.append_nil _).symm
  · exact congrArg (List.flatMap · p.removed) (funext hremoved)
  · exact congrArg (List.flatMap · p.rebuilt) (funext hrebuilt)

/-! ## Sound plans -/

/-- Whether a plan names every upstream once: those it rebuilds are those of the
    snapshot, and those it removes are not. -/
structure Sound (p : Plan) (next : Snapshot) : Prop where
  distinct : (p.removed.map (·.1) ++ p.rebuilt.map (·.1)).Nodup
  removed : ∀ x ∈ p.removed, Unreserved x.1 ∧ ∀ u ∈ next.upstreams, u.service ≠ x.1
  rebuilt : ∀ x ∈ p.rebuilt, ∃ u ∈ next.upstreams, u.service = x.1

variable {p : Plan} {next : Snapshot}

/-- What is done to the downstream is done where it is touched at all. -/
theorem mem_downstreamBlock {e : Option Existing} {x : Block}
    (h : x ∈ downstreamBlock paths options next e) : ∃ e', e = some e' ∧
      x = (.downstream, replaceChanges .downstream e' (downstreamOps paths options next)) := by
  cases e with
  | none => exact absurd h List.not_mem_nil
  | some e' => exact ⟨e', rfl, List.mem_singleton.1 h⟩

/-- Where the block of an upstream that is rebuilt comes from. -/
theorem Sound.rebuiltBlock_eq (h : p.Sound next) (hnext : next.Valid) {x : String × Existing}
    (hx : x ∈ p.rebuilt) : ∃ u ∈ next.upstreams, u.service = x.1 ∧
      Builds (.upstream x.1) (upstreamOps paths options u) ∧
      rebuiltBlock paths options next x =
        (.upstream x.1, replaceChanges (.upstream x.1) x.2 (upstreamOps paths options u)) := by
  obtain ⟨u, hu, hservice⟩ := h.rebuilt x hx
  refine ⟨u, hu, hservice, ?_, ?_⟩
  · rw [← hservice]
    exact builds_upstream (hnext.unreserved u hu) options
  · rw [rebuiltBlock, (Snapshot.upstream?_eq_some_iff hnext).2 ⟨hu, hservice⟩]
    rfl

/-- The blocks of a plan, one kind after another. -/
theorem mem_blocks {x : Block} (h : x ∈ p.blocks paths options next) :
    (∃ e, p.downstream = some e ∧
      x = (.downstream, replaceChanges .downstream e (downstreamOps paths options next))) ∨
    (∃ y ∈ p.removed, x = removedBlock y) ∨
    ∃ y ∈ p.rebuilt, x = rebuiltBlock paths options next y := by
  rcases List.mem_append.1 h with h | h
  · exact .inl (mem_downstreamBlock h)
  · rcases List.mem_append.1 h with h | h
    · obtain ⟨y, hy, rfl⟩ := List.mem_map.1 h
      exact .inr (.inl ⟨y, hy, rfl⟩)
    · obtain ⟨y, hy, rfl⟩ := List.mem_map.1 h
      exact .inr (.inr ⟨y, hy, rfl⟩)

/-- A plan touches none but our listeners. -/
theorem ours_of_mem_blocks {x : Block} (h : x ∈ p.blocks paths options next) : x.1.Ours := by
  rcases mem_blocks h with ⟨e, -, rfl⟩ | ⟨y, -, rfl⟩ | ⟨y, -, rfl⟩
  · exact Listener.ours_downstream
  · exact Listener.ours_upstream _
  · exact Listener.ours_upstream _

/-- No listener is touched by two blocks. -/
theorem Sound.apart (h : p.Sound next) :
    (p.blocks paths options next).Pairwise fun x y => ∀ k, x.1.Owns k → ¬ y.1.Owns k := by
  have hne : (p.blocks paths options next).Pairwise fun x y => x.1 ≠ y.1 := by
    have hupstreams : (p.removed.map removedBlock ++
        p.rebuilt.map (rebuiltBlock paths options next)).map (·.1) =
        (p.removed.map (·.1) ++ p.rebuilt.map (·.1)).map Listener.upstream := by
      simp only [List.map_append, List.map_map]
      rfl
    have hnodup : ((p.removed.map removedBlock ++
        p.rebuilt.map (rebuiltBlock paths options next)).map (·.1)).Nodup := by
      rw [hupstreams]
      exact h.distinct.map fun a b => Listener.upstream_inj
    refine List.pairwise_append.2 ⟨?_, List.pairwise_map.1 hnodup, fun x hx y hy => ?_⟩
    · rw [downstreamBlock.eq_def]
      split
      · exact .nil
      · exact List.pairwise_singleton _ _
    · obtain ⟨e, -, rfl⟩ := mem_downstreamBlock hx
      have hy := List.mem_map_of_mem hy (f := (·.1))
      rw [hupstreams] at hy
      obtain ⟨n, -, hn⟩ := List.mem_map.1 hy
      rw [← hn]
      exact Listener.downstream_ne_upstream n
  refine hne.imp_of_mem fun {x y} hx hy hxy k hk hk' => hxy ?_
  exact Listener.owns_inj (ours_of_mem_blocks hx) (ours_of_mem_blocks hy) hk hk'

/-- What a plan does to a listener concerns what it owns. -/
theorem Sound.within (h : p.Sound next) (hnext : next.Valid) :
    ∀ x ∈ p.blocks paths options next, ∀ c ∈ x.2, c.Within x.1.Owns := by
  intro x hx
  rcases mem_blocks hx with ⟨e, -, rfl⟩ | ⟨y, hy, rfl⟩ | ⟨y, hy, rfl⟩
  · exact within_replace (builds_downstream next.downstream options) e
  · exact within_teardown _ _
  · obtain ⟨u, -, -, hbuilds, hblock⟩ := h.rebuiltBlock_eq hnext hy
    rw [hblock]
    exact within_replace hbuilds _

/-- The changes of a plan keep objects well formed. -/
theorem Sound.orderly (h : p.Sound next) (hnext : next.Valid) :
    Orderly [] (p.changes paths options next) := by
  rw [changes_eq_blocks]
  refine Orderly.flatMap fun x hx => ?_
  rcases mem_blocks hx with ⟨e, -, rfl⟩ | ⟨y, hy, rfl⟩ | ⟨y, hy, rfl⟩
  · exact orderly_replace (builds_downstream next.downstream options) e
  · exact orderly_teardown _ _
  · obtain ⟨u, -, -, hbuilds, hblock⟩ := h.rebuiltBlock_eq hnext hy
    rw [hblock]
    exact orderly_replace hbuilds _

/-- The operations of a plan can be put into requests. -/
theorem Sound.plain (h : p.Sound next) (hnext : next.Valid) :
    ∀ op ∈ operations paths (p.parts next options), op.Plain := by
  have hreplace : ∀ (l : Listener) (e : Existing) (build : List Part), l.Plain →
      (∀ op ∈ operations paths build, op.Plain) →
      ∀ op ∈ operations paths (replaceParts l e build), op.Plain := by
    intro l e build hl hbuild op hop
    rw [operations_replaceParts] at hop
    rcases List.mem_append.1 hop with hop | hop
    · exact plain_teardown hl e op hop
    · exact hbuild op hop
  intro op hop
  obtain ⟨part, hpart, hop⟩ := List.mem_flatMap.1 hop
  have hmem : ∀ ps : List Part, part ∈ ps → op ∈ operations paths ps := fun ps hps =>
    List.mem_flatMap.2 ⟨part, hps, hop⟩
  rw [parts] at hpart
  rcases List.mem_append.1 hpart with hpart | hpart
  · rcases List.mem_append.1 hpart with hpart | hpart
    · split at hpart
      · exact absurd hpart List.not_mem_nil
      · exact hreplace _ _ _ Listener.plain_downstream
          (builds_downstream next.downstream options).plain op (hmem _ hpart)
    · obtain ⟨x, hx, hpart⟩ := List.mem_flatMap.1 hpart
      exact hreplace _ _ _ (Listener.plain_upstream (h.removed x hx).1)
        (fun op hop => absurd hop List.not_mem_nil) op (hmem _ hpart)
  · obtain ⟨x, hx, hpart⟩ := List.mem_flatMap.1 hpart
    obtain ⟨u, hu, hservice⟩ := h.rebuilt x hx
    have hunreserved : Unreserved x.1 := hservice ▸ hnext.unreserved u hu
    refine hreplace _ _ _ (Listener.plain_upstream hunreserved) ?_ op (hmem _ hpart)
    rw [(Snapshot.upstream?_eq_some_iff hnext).2 ⟨hu, hservice⟩]
    exact (builds_upstream (hnext.unreserved u hu) options).plain

/-- A plan's operations come through a URL as they are meant. -/
theorem Sound.legible (h : p.Sound next) (hnext : next.Valid) :
    ∀ op ∈ operations paths (p.parts next options), op.Legible := fun op hop =>
  (h.plain hnext op hop).legible

/-! ## Plans that are right about the store -/

/-- Whether everything that a plan takes for granted is so: what is believed to
    be there of the listeners it touches, that those it leaves alone stand, and
    that there is nothing it has forgotten. -/
structure Accurate (paths : TlsMaterial → Certificates.Paths) (options : Options) (p : Plan)
    (next : Snapshot) (objects : Objects) : Prop where
  downstream : ∀ e, p.downstream = some e → Listener.downstream.Accurate e objects
  keptDownstream : p.downstream = none →
    Stands .downstream (downstreamOps paths options next) objects
  removed : ∀ x ∈ p.removed, (Listener.upstream x.1).Accurate x.2 objects
  rebuilt : ∀ x ∈ p.rebuilt, (Listener.upstream x.1).Accurate x.2 objects
  kept : ∀ u ∈ next.upstreams, (∀ x ∈ p.rebuilt, x.1 ≠ u.service) →
    ∃ v, v.same u = true ∧ Stands (.upstream u.service) (upstreamOps paths options v) objects
  forgotten : ∀ service, (∀ u ∈ next.upstreams, u.service ≠ service) →
    (∀ x ∈ p.removed, x.1 ≠ service) → objects.AgreeOn (Listener.upstream service).Owns ∅

variable {objects objects' : Objects}

/-- **A plan that is right goes through.** -/
theorem exists_applyAll_plan (h : p.Sound next) (hnext : next.Valid) (hwf : objects.WellFormed)
    (ha : p.Accurate paths options next objects) :
    ∃ o, objects.applyAll (p.changes paths options next) = .ok o := by
  rw [changes_eq_blocks]
  refine Objects.exists_applyAll_blocks h.apart (h.within hnext) fun x hx => ?_
  rcases mem_blocks hx with ⟨e, he, rfl⟩ | ⟨y, hy, rfl⟩ | ⟨y, hy, rfl⟩
  · exact exists_replace hwf (builds_downstream next.downstream options) (ha.downstream e he)
  · obtain ⟨o, ho, -⟩ := exists_remove hwf (ha.removed y hy)
    exact ⟨o, ho⟩
  · obtain ⟨u, -, -, hbuilds, hblock⟩ := h.rebuiltBlock_eq hnext hy
    rw [hblock]
    exact exists_replace hwf hbuilds (ha.rebuilt y hy)

/-- A snapshot with some upstreams replaced by others that ask for the same. -/
theorem same_map {s : Snapshot} {f : Upstream → Upstream}
    (h : ∀ u ∈ s.upstreams, (f u).same u = true) :
    ({ s with upstreams := s.upstreams.map f } : Snapshot).same s = true := by
  have hupstreams : ∀ us : List Upstream, (∀ u ∈ us, (f u).same u = true) →
      Snapshot.sameUpstreams (us.map f) us = true := by
    intro us hus
    induction us with
    | nil => rfl
    | cons u us ih =>
        have hu := hus u (by simp)
        have ih := ih fun v hv => hus v (List.mem_cons_of_mem _ hv)
        rw [List.map_cons, Snapshot.sameUpstreams, hu, ih]
        rfl
  simp [Snapshot.same, hupstreams s.upstreams h]

/-- Upstreams that ask for the same have the same name. -/
theorem service_of_same {u v : Upstream} (h : v.same u = true) : v.service = u.service := by
  simp only [Upstream.same, Bool.and_eq_true, decide_eq_true_eq] at h
  exact h.1.1.1.1

section Carried

variable (h : p.Sound next) (hnext : next.Valid) (hwf : objects.WellFormed)
  (ha : p.Accurate paths options next objects)
  (hall : objects.applyAll (p.changes paths options next) = .ok objects')

include h hnext hall

/-- What a block did to its listener. -/
theorem done_to {x : Block} (hx : x ∈ p.blocks paths options next) :
    ∃ o, objects.applyAll x.2 = .ok o ∧ objects'.AgreeOn x.1.Owns o := by
  rw [changes_eq_blocks] at hall
  exact (Objects.applyAll_blocks h.apart (h.within hnext) hall).1 x hx

/-- Listeners of which no block speaks are as they were. -/
theorem still {l : Listener} (hl : l.Ours)
    (hother : ∀ x ∈ p.blocks paths options next, x.1 ≠ l) : objects'.AgreeOn l.Owns objects := by
  rw [changes_eq_blocks] at hall
  intro k hk
  refine (Objects.applyAll_blocks h.apart (h.within hnext) hall).2 k fun x hx hxk => ?_
  exact hother x hx (Listener.owns_inj (ours_of_mem_blocks hx) hl hxk hk)

/-- What a plan leaves alone that is nobody's listener. -/
theorem untouched {k : ObjectKey} (hk : ¬ Owned k) : objects'.get? k = objects.get? k := by
  rw [changes_eq_blocks] at hall
  refine (Objects.applyAll_blocks h.apart (h.within hnext) hall).2 k fun x hx hxk => ?_
  exact hk ⟨x.1, ours_of_mem_blocks hx, hxk⟩

include hwf ha

/-- After the changes of a plan the downstream stands. -/
theorem downstream_stands : Stands .downstream (downstreamOps paths options next) objects' := by
  cases hp : p.downstream with
  | none =>
      refine (ha.keptDownstream hp).congr (still h hnext hall Listener.ours_downstream ?_)
      intro x hx
      rcases mem_blocks hx with ⟨e, he, -⟩ | ⟨y, -, rfl⟩ | ⟨y, -, rfl⟩
      · rw [hp] at he
        exact nomatch he
      · exact (Listener.downstream_ne_upstream _).symm
      · exact (Listener.downstream_ne_upstream _).symm
  | some e =>
      have hmem : (Listener.downstream, replaceChanges .downstream e
          (downstreamOps paths options next)) ∈ p.blocks paths options next := by
        rw [blocks, hp]
        exact List.mem_cons_self
      obtain ⟨o, ho, hagree⟩ := done_to h hnext hall hmem
      exact (replace_stands hwf (builds_downstream next.downstream options) ho).congr hagree

/-- An upstream stands, perhaps as an earlier snapshot asked for it. -/
theorem upstream_stands {u : Upstream} (hu : u ∈ next.upstreams) :
    ∃ v, v.same u = true ∧ Stands (.upstream u.service) (upstreamOps paths options v) objects' := by
  by_cases hx : ∃ x ∈ p.rebuilt, x.1 = u.service
  · obtain ⟨x, hx, hxu⟩ := hx
    obtain ⟨v, hv, hservice, hbuilds, hblock⟩ := h.rebuiltBlock_eq hnext hx
    have hvu : v = u := List.inj_on_of_nodup_map hnext.distinct hv hu (hservice.trans hxu)
    obtain ⟨o, ho, hagree⟩ := done_to h hnext hall
      (List.mem_append_right _ (List.mem_append_right _ (List.mem_map_of_mem hx)))
    rw [hblock] at ho hagree
    refine ⟨v, ?_, ?_⟩
    · rw [hvu]
      simp [Upstream.same]
    · rw [← hxu]
      exact (replace_stands hwf hbuilds ho).congr hagree
  · -- no block speaks of it: what is removed the snapshot does not have
    have hother : ∀ x ∈ p.rebuilt, x.1 ≠ u.service := fun x hx' heq => hx ⟨x, hx', heq⟩
    obtain ⟨v, hv, hstands⟩ := ha.kept u hu hother
    refine ⟨v, hv, hstands.congr (still h hnext hall (Listener.ours_upstream _) fun x hx => ?_)⟩
    rcases mem_blocks hx with ⟨e, -, rfl⟩ | ⟨y, hy, rfl⟩ | ⟨y, hy, rfl⟩
    · exact Listener.downstream_ne_upstream _
    · exact fun heq => (h.removed y hy).2 u hu (Listener.upstream_inj heq).symm
    · exact fun heq => hother y hy (Listener.upstream_inj heq)

/-- Of a service that is not in the snapshot nothing is left. -/
theorem others_gone {service : String} (hservice : ∀ u ∈ next.upstreams, u.service ≠ service) :
    objects'.AgreeOn (Listener.upstream service).Owns ∅ := by
  by_cases hx : ∃ x ∈ p.removed, x.1 = service
  · obtain ⟨x, hx, rfl⟩ := hx
    obtain ⟨o, ho, hagree⟩ := done_to h hnext hall
      (List.mem_append_right _ (List.mem_append_left _ (List.mem_map_of_mem hx)))
    exact hagree.trans (remove_nothing hwf (ha.removed x hx) ho)
  · have hother : ∀ x ∈ p.removed, x.1 ≠ service := fun x hx' heq => hx ⟨x, hx', heq⟩
    refine (still h hnext hall (Listener.ours_upstream _) fun x hx => ?_).trans
      (ha.forgotten service hservice hother)
    rcases mem_blocks hx with ⟨e, -, rfl⟩ | ⟨y, hy, rfl⟩ | ⟨y, hy, rfl⟩
    · exact Listener.downstream_ne_upstream _
    · exact fun heq => hother y hy (Listener.upstream_inj heq)
    · obtain ⟨u, hu, hux⟩ := h.rebuilt y hy
      exact fun heq => hservice u hu (hux.trans (Listener.upstream_inj heq))

/-- **After a plan that was right, the snapshot is served.** An upstream that was
    left alone may stand as an earlier snapshot asked for it, in the same way up
    to the order and repetition of endpoints. -/
theorem serves_of_plan : ∃ s : Snapshot, s.same next = true ∧ Serves paths options s objects' := by
  have hchoice : ∀ u, ∃ v, u ∈ next.upstreams → v.same u = true ∧
      Stands (.upstream u.service) (upstreamOps paths options v) objects' := by
    intro u
    by_cases hu : u ∈ next.upstreams
    · obtain ⟨v, hv⟩ := upstream_stands h hnext hwf ha hall hu
      exact ⟨v, fun _ => hv⟩
    · exact ⟨u, fun hmem => absurd hmem hu⟩
  -- the snapshot that is served has these in place of the ones asked for
  choose f hf using hchoice
  have hdownstream := downstream_stands h hnext hwf ha hall
  refine ⟨{ next with upstreams := next.upstreams.map f }, same_map fun u hu => (hf u hu).1,
    hdownstream, fun v hv => ?_, fun service hservice => ?_⟩
  · obtain ⟨u, hu, rfl⟩ := List.mem_map.1 hv
    rw [service_of_same (hf u hu).1]
    exact (hf u hu).2
  · refine others_gone h hnext hwf ha hall fun u hu => ?_
    rw [← service_of_same (hf u hu).1]
    exact hservice (f u) (List.mem_map_of_mem hu)

end Carried

end Plan

end Reconcile

end MeshSync
