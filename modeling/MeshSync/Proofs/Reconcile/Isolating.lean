import MeshSync.Proofs.Reconcile.Recovery
import MeshSync.Proofs.Reconcile.Sequencing

/-! # What churn leaves alone

    A pass that is planned from the last committed snapshot leaves alone what
    both snapshots ask for (`Retained`), and counts the rest
    (`churn_is_isolated`).  The route:

    * a request names the object that it is about, what owns it, and the backend
      that its body sends traffic to (`Names`); all of them belong to the
      listener that the request is for, since a frontend is only ever built with
      the backend of its own listener (`fronts_of_rendered`);
    * the plan touches no listener that is retained (`Retained.other`), so no
      request of the pass names an object of one (`Transacted.spares`), and the
      commit, which deletes and creates within the listeners that are touched,
      leaves its objects as they were (`Reworks.frame`);
    * the lists of the plan are as long as those of the upstreams in question
      (`length_rebuilt_between`, `length_removed_between`). -/

namespace MeshSync.Reconcile

open Dataplane
open Dialogue (Runs Traced)

variable {options : Options} {previous next : Snapshot} {p : Plan} {ops : List Operation}
  {l m : Listener} {s s' : Store} {r r' : Reconciler} {rounds : List (Round Store)}

/-! ## What a request names -/

/-- The body that a change brings. -/
def body? : Change → Option Json
  | .create _ value => some value
  | .replace _ value => some value
  | .delete _ => none

/-- Whether a command names an object: it is about it, or about something that
    belongs to it, or it brings a body that sends traffic to it. -/
inductive Names : Command → ObjectKey → Prop
  | subject (id : String) (change : Change) : Names (.stage id change) (key change)
  | owner {id : String} {change : Change} {k : ObjectKey} (top : k.parent = none)
      (owned : (key change).parent = some k.owner) : Names (.stage id change) k
  | target {id : String} {change : Change} {body : Json} {name : String}
      (brings : body? change = some body)
      (sends : body.field? "default_backend" = some (.string name)) :
      Names (.stage id change) (.backend name)

/-- Whether a request, if a round is one, is understood and names no object of a
    listener. -/
def Spares (l : Listener) : Round Store → Prop
  | .sent r _ _ => ∃ c, Command.ofRequest r = .ok c ∧ ∀ k, l.Owns k → ¬ Names c k
  | .asked _ _ => True

/-- The backend that an operation has traffic sent to. -/
def target? : Operation → Option String
  | .createFrontend f => f.defaultBackend
  | _ => none

/-- It stands in the body of a frontend, and in no other body. -/
theorem field?_target {op : Operation} {body : Json} (h : body? op.change = some body) :
    body.field? "default_backend" = (target? op).map .string := by
  cases op with
  | deleteServer backend name => cases h
  | deleteFrontend name => cases h
  | deleteBackend name => cases h
  | _ =>
      obtain rfl := Option.some.inj h
      exact (field?_present _ (by simp)).trans rfl

/-- Whether an operation that has traffic sent to a backend creates the frontend
    of the listener that the backend belongs to. -/
def Fronts (op : Operation) : Prop :=
  ∀ name, target? op = some name → ∃ l : Listener, l.Ours ∧ op = l.createFrontend

/-- What is done to a listener names no object of another one. -/
theorem not_names (hl : l.Ours) (hm : m.Ours) (hne : m ≠ l) {op : Operation}
    (hop : op.change.Within m.Owns) (hfronts : Fronts op) (id : String) {k : ObjectKey}
    (hk : l.Owns k) : ¬ Names (.stage id op.change) k := by
  have hkey : m.Owns (key op.change) := key_of_within hop
  intro h
  cases h with
  | subject => exact hne (Listener.owns_inj hm hl hkey hk)
  | owner top owned =>
      -- what belongs to an object of a listener belongs to the listener
      have howns : l.Owns (key op.change) := by
        rcases hk with rfl | rfl | hparent | hparent
        · exact .inr (.inr (.inl owned))
        · exact .inr (.inr (.inr owned))
        · rw [top] at hparent
          cases hparent
        · rw [top] at hparent
          cases hparent
      exact hne (Listener.owns_inj hm hl hkey howns)
  | target brings sends =>
      rename_i body name
      rw [field?_target brings] at sends
      obtain ⟨backend, hbackend, hname⟩ := Option.map_eq_some_iff.1 sends
      obtain rfl := Json.string.inj hname
      obtain ⟨n, hn, rfl⟩ := hfronts _ hbackend
      obtain rfl := Option.some.inj hbackend
      have hnm : m = n := Listener.owns_inj hm hn hkey n.owns_front
      exact hne (hnm.trans (Listener.owns_inj hn hl n.owns_back hk))

/-! ## Frontends and their backends -/

/-- Whether the frontends that parts create are those of listeners. -/
def FrontParts (parts : List Part) : Prop :=
  ∀ part ∈ parts, ∀ files, ∀ op ∈ part.operations fun _ => files, Fronts op

theorem fronts_of_none {op : Operation} (h : target? op = none) : Fronts op := by
  intro name hname
  rw [h] at hname
  cases hname

theorem fronts_createFrontend (hl : l.Ours) : Fronts l.createFrontend := fun _ _ => ⟨l, hl, rfl⟩

theorem fronts_teardown (l : Listener) (e : Existing) : FrontParts ((l.teardown e).map .plain) := by
  intro part hpart files op hop
  obtain ⟨o, ho, rfl⟩ := List.mem_map.1 hpart
  rw [List.mem_singleton.1 hop]
  have hnone : ∀ op ∈ l.teardown e, target? op = none := by
    rw [Listener.teardown]
    split <;> split <;> simp [target?]
  exact fronts_of_none (hnone o ho)

theorem FrontParts.append {ps qs : List Part} (hp : FrontParts ps) (hq : FrontParts qs) :
    FrontParts (ps ++ qs) := List.forall_mem_append.2 ⟨hp, hq⟩

theorem FrontParts.flatMap {α : Type} {as : List α} {f : α → List Part}
    (h : ∀ a ∈ as, FrontParts (f a)) : FrontParts (as.flatMap f) := by
  intro part hpart
  obtain ⟨a, ha, hpart⟩ := List.mem_flatMap.1 hpart
  exact h a ha part hpart

theorem fronts_downstream (d : Downstream) (options : Options) :
    FrontParts (Downstream.build d options) := by
  intro part hpart files op hop
  rcases List.mem_cons.1 hpart with rfl | hpart
  · rw [List.mem_singleton.1 hop]
    exact fronts_createFrontend Listener.ours_downstream
  · obtain rfl := List.mem_singleton.1 hpart
    refine fronts_of_none ?_
    have hnone : ∀ op ∈ Downstream.rest d options files, target? op = none := by
      rw [Downstream.rest, Downstream.intentions]
      split <;> simp [target?, Listener.logFrontend, Listener.createBackend, Listener.logBackend]
    exact hnone op hop

theorem fronts_upstream (u : Upstream) (options : Options) :
    FrontParts (Upstream.build u options) := by
  refine FrontParts.append (fun part hpart files op hop => ?_) fun part hpart files op hop => ?_
  · obtain ⟨o, ho, rfl⟩ := List.mem_map.1 hpart
    rw [List.mem_singleton.1 hop]
    rcases List.mem_cons.1 ho with rfl | ho
    · exact fronts_createFrontend (Listener.ours_upstream u.service)
    · have hnone : ∀ op ∈ (Upstream.frame u options).tail, target? op = none := by
        simp [Upstream.frame, target?, Listener.logFrontend, Listener.createBackend,
          Listener.logBackend]
      exact fronts_of_none (hnone o ho)
  · split at hpart
    · exact absurd hpart List.not_mem_nil
    · obtain rfl := List.mem_singleton.1 hpart
      obtain ⟨i, hi, rfl⟩ := List.mem_mapIdx.1 hop
      exact fronts_of_none rfl

/-- **A plan builds frontends only with the backends of their listeners.** -/
theorem fronts_of_rendered (h : Rendered (p.parts next options) ops) : ∀ op ∈ ops, Fronts op := by
  refine h.forall_mem (FrontParts.append (FrontParts.append ?_ ?_) ?_)
  · split
    · exact fun part hpart => absurd hpart List.not_mem_nil
    · exact (fronts_teardown _ _).append (fronts_downstream _ _)
  · refine FrontParts.flatMap fun x _ => (fronts_teardown _ _).append ?_
    exact fun part hpart => absurd hpart List.not_mem_nil
  · refine FrontParts.flatMap fun x _ => (fronts_teardown _ _).append ?_
    split
    · exact fun part hpart => absurd hpart List.not_mem_nil
    · exact fronts_upstream _ _

/-! ## What a plan retains -/

/-- The listeners that two snapshots ask for in the same way: the downstream if
    it is the same, and the upstreams that have their like in the other one. -/
inductive Retained (previous next : Snapshot) : Listener → Prop
  | downstream (same : previous.downstream = next.downstream) : Retained previous next .downstream
  | upstream {u w : Upstream} (before : u ∈ previous.upstreams) (after : w ∈ next.upstreams)
      (same : u.same w = true) : Retained previous next (.upstream w.service)

/-- The upstreams of a snapshot that are new in it, or not what they were. -/
def reworked (previous next : Snapshot) : List Upstream :=
  next.upstreams.filter fun w => !previous.upstreams.any (·.same w)

/-- The upstreams that a snapshot has no more. -/
def dropped (previous next : Snapshot) : List Upstream :=
  previous.upstreams.filter fun u => !next.upstreams.any (·.service = u.service)

theorem Retained.ours (h : Retained previous next l) : l.Ours := by
  cases h with
  | downstream same => exact Listener.ours_downstream
  | upstream before after same => exact Listener.ours_upstream _

namespace Plan

/-- The upstreams that a plan rebuilds are as many as are new or not what they
    were. -/
theorem length_rebuilt_between (h : previous.Valid) :
    (between (some previous) next).rebuilt.length = (reworked previous next).length := by
  rw [between, List.length_filterMap_eq_countP, reworked, ← List.countP_eq_length_filter]
  refine List.countP_congr fun w _ => ?_
  rw [Option.isSome_iff_ne_none, ne_eq, rebuild?_eq_none_iff h, Bool.not_eq_true',
    ← Bool.not_eq_true, List.any_eq_true]

/-- Those that it removes are as many as the snapshot has no more. -/
theorem length_removed_between (h : previous.Valid) :
    (between (some previous) next).removed.length = (dropped previous next).length := by
  -- the names of the upstreams, each once, are the keys to find them by
  have hkeys : (byName (some previous)).keys.Perm (previous.upstreams.map (·.service)) := by
    refine (List.perm_ext_iff_of_nodup (SortedMap.nodup_keys _) h.distinct).2 fun name => ?_
    rw [SortedMap.mem_keys, List.mem_map]
    exact exists_congr fun u => byName_eq_some_iff h
  have hgone : ∀ name, (next.upstream? name).isNone = !next.upstreams.any (·.service = name) := by
    intro name
    rw [Bool.eq_iff_iff, Snapshot.upstream?_isNone_iff, Bool.not_eq_true', List.any_eq_false]
    exact forall₂_congr fun u _ => by rw [decide_eq_true_eq]
  rw [between, List.length_map, (hkeys.filter _).length_eq, List.filter_map, List.length_map,
    dropped]
  exact congrArg (fun p => (previous.upstreams.filter p).length) (funext fun u => hgone u.service)

/-- The downstream is rebuilt if it is not what it was. -/
theorem isSome_downstream_between (previous next : Snapshot) :
    (between (some previous) next).downstream.isSome =
      decide (previous.downstream ≠ next.downstream) := by
  rw [Bool.eq_iff_iff, Option.isSome_iff_ne_none, decide_eq_true_eq]
  exact not_congr downstream_between_iff

end Plan

/-- **A plan touches no listener that is retained.** -/
theorem Retained.other (hprevious : previous.Valid) (hnext : next.Valid)
    (h : Retained previous next l) : ∀ x ∈ (Plan.between (some previous) next).touched, x.1 ≠ l := by
  intro x hx
  rcases Plan.mem_touched hx with ⟨e, he, rfl⟩ | ⟨y, hy, rfl⟩
  · cases h with
    | downstream same =>
        rw [Plan.downstream_between_iff.2 same] at he
        cases he
    | upstream before after same => exact Listener.downstream_ne_upstream _
  · cases h with
    | downstream same => exact (Listener.downstream_ne_upstream _).symm
    | @upstream u w before after same =>
        intro heq
        have hname : y.1 = w.service := Listener.upstream_inj heq
        rcases hy with hy | hy
        · exact (Plan.mem_removed_between hprevious hy).2.1 w after hname.symm
        · obtain ⟨v, hv, hrebuilt⟩ := Plan.mem_rebuilt_between.1 hy
          have hservice : v.service = w.service :=
            (Plan.rebuild?_eq_some hrebuilt).1.symm.trans hname
          obtain rfl := List.inj_on_of_nodup_map hnext.distinct hv after hservice
          rw [(Plan.rebuild?_eq_none_iff hprevious v).2 ⟨u, before, same⟩] at hrebuilt
          cases hrebuilt

/-! ## What a plan leaves alone -/

section Rendered

variable (hsound : p.Sound next) (hnext : next.Valid) (hr : Rendered (p.parts next options) ops)
  (hl : l.Ours) (hother : ∀ x ∈ p.touched, x.1 ≠ l)

include hsound hnext hr hl hother

/-- Nothing that a plan stages names an object of a listener that it does not
    touch. -/
theorem unnamed_of_rendered : ∀ op ∈ ops, ∀ (id : String) (k : ObjectKey), l.Owns k →
    ¬ Names (.stage id op.change) k := by
  obtain ⟨ys, hops, hys, hsame, -⟩ := Plan.reworks_of_rendered hsound hnext hr
  intro op hop id k hk
  obtain ⟨y, hy, hopy⟩ := List.mem_flatMap.1 (hops ▸ hop)
  have hsoundy := hys.sound y hy
  have hne : y.listener ≠ l := hother (y.listener, y.believed) (hsame ▸ List.mem_map_of_mem hy)
  have hwithin : op.change.Within y.listener.Owns :=
    hsoundy.within _ (y.map_operations ▸ List.mem_map_of_mem hopy)
  exact not_names hl hsoundy.plain.ours hne hwithin (fronts_of_rendered hr op hop) id hk

/-- Nor does its commit change any. -/
theorem agreeOn_of_rendered {objects objects' : Objects}
    (ha : objects.applyAll (ops.map (·.change)) = .ok objects') :
    objects'.AgreeOn l.Owns objects := by
  obtain ⟨ys, rfl, hys, hsame, -⟩ := Plan.reworks_of_rendered hsound hnext hr
  rw [Reworks.map_operations] at ha
  refine hys.frame ha hl fun y hy => ?_
  exact hother (y.listener, y.believed) (hsame ▸ List.mem_map_of_mem hy)

end Rendered

/-- What is said in a transaction names what its operations name. -/
theorem Transacted.spares {v : UInt64} (h : Transacted v ops s rounds)
    (hlegible : ∀ op ∈ ops, op.Legible)
    (hunnamed : ∀ op ∈ ops, ∀ (id : String) (k : ObjectKey), l.Owns k →
      ¬ Names (.stage id op.change) k) : ∀ x ∈ rounds, Spares l x := by
  have hopening : ∀ a s', Spares l (.sent (opening v) a s') := fun a s' =>
    ⟨.begin v, ofRequest_begin v, fun k _ hk => nomatch hk⟩
  cases h with
  | unopened unread =>
      intro x hx
      rw [List.mem_singleton.1 hx]
      exact hopening _ _
  | @closed j a s₁ s' ticket all staged read drift current plain staging =>
      intro x hx
      rcases List.mem_cons.1 hx with rfl | hx
      · exact hopening _ _
      · rcases List.mem_append.1 hx with hx | hx
        · rcases staging.mem x hx with ⟨op, hop, a, s', rfl⟩ | ⟨m, a, rfl⟩
          · exact ⟨_, ofRequest_request plain.unreserved (hlegible op hop),
              hunnamed op hop _⟩
          · trivial
        · rw [List.mem_singleton.1 hx]
          cases all with
          | true => exact ⟨_, ofRequest_commit plain, fun k _ hk => nomatch hk⟩
          | false => exact ⟨_, ofRequest_abort plain, fun k _ hk => nomatch hk⟩

/-! ## Passes -/

/-- What a pass reports to have done: whether it built the downstream, how many
    upstreams it built, and how many it removed. -/
def Outcome.work : Outcome → Bool × Nat × Nat
  | .unchanged => (false, 0, 0)
  | .applied _ downstream rebuilt removed => (downstream, rebuilt, removed)

/-- **Carrying out a plan leaves alone what the plan does not touch**, and what
    is reported is what the plan says. -/
theorem Reconciler.carryOut_spares {o : Outcome} (hsound : p.Sound next) (hnext : next.Valid)
    (hbehind : r.tracked ≤ s.version)
    (h : Traced fickle (r.carryOut next p) s rounds s' (r', .ok o)) :
    (∀ l : Listener, l.Ours → (∀ x ∈ p.touched, x.1 ≠ l) →
      (∀ x ∈ rounds, Spares l x) ∧ s'.objects.AgreeOn l.Owns s.objects) ∧
    o.work = (p.downstream.isSome, p.rebuilt.length, p.removed.length) := by
  rw [carryOut] at h
  split at h
  · rename_i hempty
    obtain ⟨rfl, rfl, heq⟩ := Traced.done_iff.1 h
    obtain rfl := Except.ok.inj (Prod.mk.inj heq).2
    simp only [Plan.isEmpty, Bool.and_eq_true, Option.isNone_iff_eq_none,
      List.isEmpty_iff] at hempty
    obtain ⟨⟨hdownstream, hremoved⟩, hrebuilt⟩ := hempty
    refine ⟨fun l _ _ => ⟨fun x hx => absurd hx List.not_mem_nil, fun k _ => rfl⟩, ?_⟩
    rw [hdownstream, hremoved, hrebuilt]
    rfl
  · obtain ⟨s₁, res, first, last, rfl, htransact, hrest⟩ := Traced.bind_iff.1 h
    obtain ⟨ops, hops, hsaid, hmade⟩ := transact_traced
      (fun ops hops => Plan.legible_of_rendered hsound hnext hops) htransact
    rcases hmade with ⟨⟨e, rfl⟩, -⟩ | ⟨rfl, hmade⟩
    · cases (recover_leaves hrest.runs).1
    · obtain ⟨s₂, rfl, hdone⟩ := Traced.retain_iff.1 hrest
      obtain ⟨rfl, rfl, heq⟩ := Traced.done_iff.1 hdone
      obtain rfl := Except.ok.inj (Prod.mk.inj heq).2
      obtain ⟨⟨s₂, hdrift, hv, hall⟩, -⟩ := hmade
      -- nobody committed before the transaction was opened
      rw [(hdrift.still hbehind hv).2] at hall
      refine ⟨fun l hl hother => ⟨?_, agreeOn_of_rendered hsound hnext hops hl hother hall⟩, rfl⟩
      rw [List.append_nil]
      exact hsaid.spares (Plan.legible_of_rendered hsound hnext hops)
        (unnamed_of_rendered hsound hnext hops hl hother)

/-- **Churn is isolated.** A pass that succeeds after a commit, where the store
    has not fallen behind the version that is tracked, names no object of a
    listener that both snapshots ask for, and leaves all of them as they were,
    whatever the upstreams are called and whatever others do meanwhile; and it
    reports exactly whether the downstream changed, how many upstreams are new or
    changed, and how many are gone. -/
theorem churn_is_isolated {o : Outcome} (hprevious : previous.Valid) (hnext : next.Valid)
    (hforce : r.force = false) (happlied : r.applied = some previous)
    (hbehind : r.tracked ≤ s.version)
    (h : Traced fickle (r.apply next) s rounds s' (r', .ok o)) :
    (∀ l, Retained previous next l →
      (∀ x ∈ rounds, Spares l x) ∧ s'.objects.AgreeOn l.Owns s.objects) ∧
    o.work = (decide (previous.downstream ≠ next.downstream), (reworked previous next).length,
      (dropped previous next).length) := by
  rw [Reconciler.apply, hforce, if_neg Bool.noConfusion, happlied] at h
  have hsound : (Plan.between (some previous) next).Sound next :=
    Plan.between_sound (fun s hs => Option.some.inj hs ▸ hprevious) hnext
  obtain ⟨hspares, hwork⟩ := Reconciler.carryOut_spares hsound hnext hbehind h
  refine ⟨fun l hl => hspares l hl.ours (hl.other hprevious hnext), ?_⟩
  rw [hwork, Plan.isSome_downstream_between, Plan.length_rebuilt_between hprevious,
    Plan.length_removed_between hprevious]

/-- A node with another upstream, whose listener is named like the bind of the
    first one. -/
def withNeighbour : Snapshot :=
  { nodeOn 20000 with
    upstreams := (nodeOn 20000).upstreams ++
      [⟨"db_bind", "127.0.0.1", 5433, ⟨[], [], []⟩, [⟨"10.0.0.2", 5433, 1⟩]⟩] }

theorem valid_withNeighbour : withNeighbour.Valid := by
  refine ⟨(by decide : ["db", "db_bind"].Nodup), fun u hu => ?_⟩
  rcases List.mem_cons.1 hu with rfl | hu
  · exact (by decide : Url.Unreserved "db")
  · rw [List.mem_singleton.1 hu]
    exact (by decide : Url.Unreserved "db_bind")

/-- The neighbour is built beside the upstream that was there. -/
theorem neighbour_is_isolated : ∃ (s : Store) (r : Reconciler) (rounds : List (Round Store))
    (s' : Store) (r' : Reconciler) (o : Outcome),
    r.force = false ∧ r.applied = some (nodeOn 20000) ∧ r.tracked ≤ s.version ∧
      Converged oneFile .standard (nodeOn 20000) s.objects ∧
      Traced fickle (r.apply withNeighbour) s rounds s' (r', .ok o) ∧
      (∀ x ∈ rounds, Spares (.upstream "db") x) ∧
      s'.objects.AgreeOn (Listener.upstream "db").Owns s.objects ∧ o.work = (false, 1, 0) := by
  obtain ⟨s, r, first, hreached, hforce, happlied, htracked, -, hconverged⟩ := reached_committed
  obtain ⟨o, hout⟩ := ok_of_known hreached.sane valid_withNeighbour happlied htracked
  have hnext := runs_undisturbed oneFile s r withNeighbour
  generalize undisturbed oneFile s r withNeighbour = after at hout hnext
  obtain ⟨s', r', out⟩ := after
  obtain rfl : out = .ok o := hout
  obtain ⟨rounds, htraced⟩ := (fickle_of_troubled hnext).exists_traced
  have hbehind : r.tracked ≤ s.version := htracked ▸ UInt64.le_refl _
  obtain ⟨hretained, hwork⟩ := churn_is_isolated (valid_nodeOn 20000) valid_withNeighbour hforce
    happlied hbehind htraced
  have hdb : ∀ u ∈ (nodeOn 20000).upstreams,
      Retained (nodeOn 20000) withNeighbour (.upstream u.service) := fun u hu =>
    .upstream hu (List.mem_append_left _ hu) (by simp [Upstream.same])
  obtain ⟨hspares, hobjects⟩ := hretained _ (hdb _ List.mem_cons_self)
  refine ⟨s, r, rounds, s', r', o, hforce, happlied, hbehind, hconverged, htraced, hspares,
    hobjects, hwork.trans ?_⟩
  simp [reworked, dropped, withNeighbour, nodeOn, Upstream.same]

end MeshSync.Reconcile
