import MeshSync.Proofs.Node.Steps
import MeshSync.Proofs.Reconcile.Skipping
import MeshSync.Proofs.Watch.Coalescing

/-! # A node at rest

    Watcher and reconciler each lose nothing: what is sent last is the snapshot
    of the present state (`Watch.Watcher.coalescing_loses_nothing`), and after a
    pass that did not fail the store shows the last snapshot that was taken
    (`Settled.receive`).  `Sound` carries both through every step of a node,
    where a pass under way is known by what may still come of it.  Where nothing
    is in motion, the snapshot sent last is the one taken last
    (`store_mirrors_mesh_at_rest`). -/

namespace MeshSync

namespace Watch.Watcher

variable {w w' : Watcher} {e : Event}

/-- Whoever is not told to stop was not told before, and its output is as open
    as it was. -/
theorem Steps.going (h : Steps w e w') (he : e ≠ .closeOutput) (hs : w'.stopping = false) :
    w.stopping = false ∧ w'.output.isOpen = w.output.isOpen := by
  cases h with
  | quiet _ _ _ hm =>
      have hothers := hm.others
      rw [hothers] at hs ⊢
      exact ⟨hs, rfl⟩
  | notify t v hv =>
      have hothers := (onTrack_moved (R := Track.Moves) Track.Moves.refl
        (fun _ _ => Track.moves_of_notify) hv).others
      have hv : v.stopping = false := hs
      rw [hothers] at hv ⊢
      exact ⟨hv, rfl⟩
  | process t _ hp =>
      have hlooked := looked_of_process hp
      rw [hlooked.stopping] at hs
      exact ⟨hs, by rw [hlooked.output]⟩
  | fail => exact nomatch hs
  | quit => exact nomatch hs
  | shutdown => exact nomatch hs
  | closeOutput => exact absurd rfl he
  | pass => exact ⟨hs, rfl⟩
  | drain => exact ⟨hs, rfl⟩
  | build => exact ⟨hs, rfl⟩
  | hold => exact ⟨hs, rfl⟩
  | deliver => exact ⟨hs, rfl⟩
  | take => exact ⟨hs, rfl⟩

/-- Nothing is received but by taking it. -/
theorem received?_of_ne (he : e ≠ .take) : received? (w, e) = none := by
  cases e with
  | take => exact absurd rfl he
  | _ => rfl

end Watch.Watcher

namespace Node

open Certificates (Provider)
open Dialogue (Runs)
open Reconcile
open Watch (Watcher Event)
open Watch.Watcher (Steps steps_of_step moments received AtRest)

variable {κ : Type} {provider : Provider κ} {paths : TlsMaterial → Certificates.Paths}
  {options : Options} {first : Watcher} {n n' : Node κ}

/-! ## Between passes -/

/-- What a loop knows of its store between two passes: unless the last pass
    failed, what was committed agrees with the snapshot that was taken last. -/
structure Settled (paths : TlsMaterial → Certificates.Paths) (options : Options)
    (last : Option Snapshot) (l : Loop) (s : Dataplane.Store) : Prop where
  sure : Sure paths options s l.reconciler
  reported : l.status.lastError = none ↔ l.reconciler.force = false
  latest : ∀ x, last = some x → x.Valid ∧ (l.reconciler.force = false →
    ∃ p, l.reconciler.applied = some p ∧ Agrees p x)

theorem Settled.new {s : Dataplane.Store} (h : Free s.objects) (tracked : UInt64) :
    Settled paths options none (.new options tracked) s :=
  ⟨.new h options tracked, iff_of_true rfl rfl, nofun⟩

/-- **A pass leaves the loop settled** with the snapshot that it took. -/
theorem Settled.receive (hpaths : Fixed provider paths) {last : Option Snapshot} {l l' : Loop}
    {s s' : Site κ} {x : Snapshot} (h : Settled paths options last l s.store) (hx : x.Valid)
    (hrun : Runs (alone provider) (l.receive x) s s' l') :
    Settled paths options (some x) l' s'.store := by
  obtain ⟨s₁, ⟨r, out⟩, happly, hdone⟩ := Runs.bind_iff.1 hrun
  obtain ⟨rfl, rfl⟩ := Runs.done_iff.1 hdone
  obtain ⟨hsure, hended, -⟩ := h.sure.pass hpaths hx happly
  -- nothing to do says that the snapshot agrees with the one that was applied
  cases hended with
  | unchanged hempty hforce store hr =>
      refine ⟨hsure, ?_, fun y hy => ?_⟩
      · exact hr ▸ h.reported
      · obtain rfl := Option.some.inj hy
        refine ⟨hx, fun _ => ?_⟩
        show ∃ p, r.applied = some p ∧ Agrees p x
        rw [hr]
        cases hp : l.reconciler.applied with
        | none =>
            rw [hp] at hempty
            exact nomatch hempty
        | some p =>
            rw [hp] at hempty
            exact ⟨p, rfl, (Plan.isEmpty_between_iff (h.sure.valid p hp) hx).1 hempty⟩
  | applied hr hconverged =>
      refine ⟨hsure, iff_of_true rfl ?_, fun y hy => ?_⟩
      · show r.force = false
        rw [hr]
      · obtain rfl := Option.some.inj hy
        refine ⟨hx, fun _ => ⟨x, ?_, .refl x⟩⟩
        show r.applied = some x
        rw [hr]
  | failed hforce kept store =>
      have hfailed : r.force ≠ false := fun hf => nomatch hforce.symm.trans hf
      refine ⟨hsure, iff_of_false (Option.some_ne_none _) hfailed, fun y hy => ?_⟩
      obtain rfl := Option.some.inj hy
      exact ⟨hx, fun hf => absurd hf hfailed⟩

/-- After a pass that did not fail, the store shows the snapshot taken last. -/
theorem Settled.shows {l : Loop} {s : Dataplane.Store} {x : Snapshot}
    (h : Settled paths options (some x) l s) (hok : l.status.lastError = none) :
    x.Valid ∧ Shows paths options x s.objects := by
  have hforce := h.reported.1 hok
  obtain ⟨hx, hlatest⟩ := h.latest x rfl
  obtain ⟨p, hp, hagrees⟩ := hlatest hforce
  have hknows := h.sure.knows hforce
  rw [Known, hp] at hknows
  exact ⟨hx, hknows.2.shows.of_agrees hagrees (h.sure.valid p hp) hx⟩

/-! ## The invariant -/

/-- What the loop has come to with the snapshot that it took last.  A pass under
    way is known by what it began with and by what may still come of it. -/
def Underway (provider : Provider κ) (paths : TlsMaterial → Certificates.Paths)
    (options : Options) (last : Option Snapshot) (n : Node κ) : Prop :=
  match n.pass with
  | none => Settled paths options last n.loop n.site.store
  | some d => ∃ before l s x, last = some x ∧ x.Valid ∧ Settled paths options before l s.store ∧
      ∀ s' l', Runs (alone provider) d n.site s' l' → Runs (alone provider) (l.receive x) s s' l'

/-- What holds of a node at any time. -/
structure Sound (provider : Provider κ) (paths : TlsMaterial → Certificates.Paths)
    (options : Options) (first : Watcher) (n : Node κ) : Prop where
  named : n.watcher.Named
  isOpen : n.watcher.stopping = false → n.watcher.output.isOpen = true
  course : ∃ es, first.run es = some n.watcher ∧
    Underway provider paths options (received (first.moments es)).getLast? n

/-- **Every step keeps the invariant.** -/
theorem Sound.step (hpaths : Fixed provider paths) (h : Sound provider paths options first n)
    (hs : Step provider n n') : Sound provider paths options first n' := by
  obtain ⟨hnamed, hopen, es, hes, hunderway⟩ := h
  have hsnoc : ∀ {e w}, n.watcher.step e = some w → first.run (es ++ [e]) = some w := by
    intro e w he
    rw [Watcher.run_append, hes, Option.bind_some, Watcher.run, he]
    rfl
  cases hs with
  | watch took closed step names =>
      have hsteps := steps_of_step step
      refine ⟨hnamed.step hsteps names, fun hgoing => ?_, _, hsnoc step, ?_⟩
      · obtain ⟨hbefore, hkept⟩ := hsteps.going closed hgoing
        exact hkept.trans (hopen hbefore)
      · rw [Watcher.moments_snoc hes, Watcher.received_snoc, Watcher.received?_of_ne took,
          Option.toList_none, List.append_nil]
        exact hunderway
  | receive idle running held take =>
      have hsteps := steps_of_step take
      have hx := hnamed.held _ held
      refine ⟨hnamed.step hsteps (fun _ h => by cases h), fun hgoing => ?_, _, hsnoc take, ?_⟩
      · obtain ⟨hbefore, hkept⟩ := hsteps.going Event.noConfusion hgoing
        exact hkept.trans (hopen hbefore)
      · rw [Underway, idle] at hunderway
        rw [Watcher.moments_snoc hes, Watcher.received_snoc, Watcher.received?, held]
        exact ⟨_, n.loop, n.site, _, List.getLast?_concat, hx, hunderway, fun _ _ hruns => hruns⟩
  -- the rest of the pass runs to the same ends as before one of its exchanges
  | turn pass turn =>
      rw [Underway, pass] at hunderway
      obtain ⟨before, l, s, x, hlast, hx, hsettled, hruns⟩ := hunderway
      exact ⟨hnamed, hopen, es, hes, before, l, s, x, hlast, hx, hsettled,
        fun s' l' hrest => hruns s' l' (turn.runs hrest)⟩
  | finish pass =>
      rw [Underway, pass] at hunderway
      obtain ⟨before, l, s, x, hlast, hx, hsettled, hruns⟩ := hunderway
      refine ⟨hnamed, hopen, es, hes, ?_⟩
      rw [hlast]
      exact hsettled.receive hpaths hx (hruns _ _ (.done _ _))
  | leave idle told close =>
      have hsteps := steps_of_step close
      refine ⟨hnamed.step hsteps (fun _ h => by cases h), fun hgoing => ?_, _, hsnoc close, ?_⟩
      · cases hsteps with
        | closeOutput => cases told.symm.trans hgoing
        | quiet _ _ hquiet => cases hquiet
      · rw [Underway, idle] at hunderway
        rw [Watcher.moments_snoc hes, Watcher.received_snoc,
          Watcher.received?_of_ne Event.noConfusion, Option.toList_none, List.append_nil, Underway]
        dsimp only
        rw [idle]
        exact ⟨hunderway.sure, hunderway.reported, hunderway.latest⟩

/-! ## At rest -/

section

variable {serviceId : String} {wait : Nat} {proxy : Except Mesh.Error String}
  {service : Except Mesh.Error Mesh.Service} {tracked : UInt64} {site : Site κ}

theorem sound_start (hfree : Free site.store.objects) :
    Sound provider paths options (.start serviceId wait proxy service)
      (start serviceId wait proxy service options tracked site) := by
  refine ⟨Watcher.named_start _ _ _ _, fun hgoing => ?_, [], rfl, .new hfree tracked⟩
  cases proxy with
  | error e => exact nomatch hgoing
  | ok proxyId =>
      cases service with
      | error e => exact nomatch hgoing
      | ok s => rfl

theorem sound_of_reaches (hpaths : Fixed provider paths) (hfree : Free site.store.objects)
    (h : Reaches provider (start serviceId wait proxy service options tracked site) n) :
    Sound provider paths options (.start serviceId wait proxy service) n := by
  induction h with
  | refl => exact sound_start hfree
  | tail _ step ih => exact ih.step hpaths step

/-- **At rest the store mirrors the mesh.** Whatever happened before, in whatever
    order, and whatever became of requests, over a store that was free of the
    node's objects and listed no stranger under a name it owns (`Free`): where
    the node was not told to stop, the publisher waits without a signal, no track has a change to signal, no
    snapshot is held and no pass is under way, if a leaf is known and the loop
    reports no failure, then the store holds what building the snapshot of the
    present state creates where nothing is, but for the names and the repetition
    of the servers of an upstream, and those are its selected endpoints. -/
theorem store_mirrors_mesh_at_rest (hpaths : Fixed provider paths)
    (hfree : Free site.store.objects)
    (h : Reaches provider (start serviceId wait proxy service options tracked site) n)
    (hgoing : n.watcher.stopping = false) (hrest : n.watcher.AtRest)
    (hheld : n.watcher.output.held = none) (hidle : n.pass = none)
    (hleaf : n.watcher.state.leaf ≠ none) (hok : n.loop.status.lastError = none) :
    ∃ x, n.watcher.snapshot? = some x ∧
      (∃ built : Dataplane.Objects,
        (∅ : Dataplane.Objects).applyAll ((buildOps paths options x).map (·.change)) = .ok built ∧
          Alike built n.site.store.objects) ∧
      ∀ u ∈ x.upstreams, Populated u n.site.store.objects := by
  obtain ⟨-, hopen, es, hes, hunderway⟩ := sound_of_reaches hpaths hfree h
  have hlossless := Watcher.coalescing_loses_nothing hes hgoing (hopen hgoing)
  obtain ⟨x, hx⟩ : ∃ x, n.watcher.snapshot? = some x :=
    Option.ne_none_iff_exists'.1 fun hnone => hleaf (n.watcher.snapshot?_eq_none_iff.1 hnone)
  -- nothing is held, so what was sent last was taken last
  have hlast : (received ((Watcher.start serviceId wait proxy service).moments es)).getLast? =
      some x := by
    have hreceived := hlossless.received
    rw [hheld, Option.toList_none, List.append_nil] at hreceived
    rw [← hreceived, hlossless.atRest hrest hleaf, hx]
  rw [Underway, hidle, hlast] at hunderway
  obtain ⟨hvalid, hshows⟩ := hunderway.shows hok
  obtain ⟨built, hbuilt, hbuiltShows⟩ := exists_built paths options hvalid
  exact ⟨x, hx, ⟨built, hbuilt, alike_of_shows hvalid hbuiltShows hshows⟩,
    fun u hu => hshows.populated hvalid hu⟩

end

/-! ## A first pass -/

/-- Each track gets its first answer, and the publisher sends a snapshot. -/
def untilSent : List Event :=
  Watcher.firstAnswers ++
    Watcher.learning (.upstream 0) (.upstreamReply 0 (.ok ([Watcher.dbInstance], ⟨1, "a"⟩))) ++
    [.pass, .drain, .build, .deliver]

/-- What the watcher has come to then, and after the snapshot is taken. -/
theorem run_untilSent : ∃ w x w', Watcher.webStart.run untilSent = some w ∧
    w.output.held = some x ∧ w.step .take = some w' ∧ w'.stopping = false ∧ w'.AtRest ∧
    w'.output.held = none ∧ w'.state.leaf ≠ none ∧ w'.snapshot? = some x ∧
    x.upstreams.map (fun u => (u.service, u.endpoints)) = [("db", [⟨"10.0.0.1", 5432, 1⟩])] := by
  obtain ⟨w, x, w', hrun, hheld, htaken⟩ : ∃ w x w', Watcher.webStart.run untilSent = some w ∧
      w.output.held = some x ∧ w.step .take = some w' ∧ w'.stopping = false ∧ w'.AtRest ∧
      w'.output.held = none ∧ w'.state.leaf ≠ none ∧ w'.snapshot? = some x := by
    refine ⟨_, _, _, rfl, rfl, rfl, rfl, ⟨rfl, rfl, fun t => ?_⟩, rfl, Option.some_ne_none _, rfl⟩
    cases t with
    | caRoots => decide
    | leaf => decide
    | proxy => decide
    | service => decide
    | upstream id =>
        cases id with
        | zero => decide
        | succ n => exact nofun
  obtain ⟨htake, hgoing, hrest, hnone, hleaf, hx⟩ := htaken
  have hupstreams : ((Watcher.webStart.run untilSent).bind (·.output.held)).map
      (fun x => x.upstreams.map fun u => (u.service, u.endpoints)) =
        some [("db", [⟨"10.0.0.1", 5432, 1⟩])] := by
    decide +kernel
  rw [hrun, Option.bind_some, hheld, Option.map_some] at hupstreams
  exact ⟨w, x, w', hrun, hheld, htake, hgoing, hrest, hnone, hleaf, hx,
    Option.some.inj hupstreams⟩

/-- The only definition of the sidecar that is looked at until then. -/
theorem names_untilSent (a : Watch.Answer Mesh.Service)
    (ha : .proxy a ∈ Watcher.heard (Watcher.webStart.moments untilSent)) :
    Watch.NamesUnreserved a.1 := by
  have hheard : Watcher.heard (Watcher.webStart.moments untilSent) =
      [.caRoots (⟨"", []⟩, ⟨1, "a"⟩), .leaf (⟨"", "cert", "key", ""⟩, ⟨1, "a"⟩),
        .proxy (Watcher.webSidecar, ⟨1, "a"⟩), .service (Watcher.web, ⟨1, "a"⟩),
        .instances 0 ([Watcher.dbInstance], ⟨1, "a"⟩)] := rfl
  rw [hheard] at ha
  obtain rfl : a = (Watcher.webSidecar, ⟨1, "a"⟩) := by simpa using ha
  decide

/-- The node of the service, over a store without objects. -/
def webNode : Node Unit :=
  start "web-1" 600000 (.ok "web-1-sidecar-proxy") (.ok Watcher.web) .standard 1 fresh

/-- The first pass comes to a store that mirrors the mesh, and has a server for the
    instance that was reported. -/
theorem first_pass_mirrors_mesh : ∃ (n : Node Unit) (x : Snapshot),
    Reaches (ready oneFile) webNode n ∧
    n.watcher.snapshot? = some x ∧ x.upstreams.map (·.service) = ["db"] ∧
    (∃ k v, IsServer "db" k ∧ n.site.store.objects.get? k = some v ∧
      DirectedTo ⟨"10.0.0.1", 5432, 1⟩ v) ∧
    (∃ built : Dataplane.Objects,
      (∅ : Dataplane.Objects).applyAll ((buildOps oneFile .standard x).map (·.change)) =
        .ok built ∧ Alike built n.site.store.objects) ∧
    ∀ u ∈ x.upstreams, Populated u n.site.store.objects := by
  obtain ⟨w, x, w', hrun, hheld, htake, hgoing, hrest, hnone, hleaf, hx, hupstreams⟩ :=
    run_untilSent
  have hpaths := fixed_ready oneFile
  have hfree : Free fresh.store.objects := .empty
  -- the tracks get their answers, and a snapshot is sent
  have hsent : Reaches (ready oneFile) webNode { webNode with watcher := w } :=
    reaches_of_run hrun (by simp [untilSent, Watcher.firstAnswers, Watcher.learning])
      names_untilSent
  have hvalid : x.Valid := (sound_of_reaches hpaths hfree hsent).named.held x hheld
  -- the loop takes it, and its pass has no trouble
  obtain ⟨st, r, d, rebuilt, removed, happly⟩ := run_new oneFile 1 hvalid
  have hruns := runs_calm (certs_ready oneFile) ((Reconciler.new .standard 1).apply x) fresh
  rw [show fresh.store = Dataplane.Store.new 1 from rfl, happly] at hruns
  have hpass : Runs (alone (ready oneFile)) ((Loop.new .standard 1).receive x) fresh _
      ((Loop.new .standard 1).note x r (.ok (.applied 2 d rebuilt removed))) :=
    Runs.bind_iff.2 ⟨_, _, hruns, .done _ _⟩
  have htaken : Reaches (ready oneFile) webNode
      ⟨w', .new .standard 1, some ((Loop.new .standard 1).receive x), fresh⟩ :=
    hsent.tail (.receive rfl rfl hheld htake)
  have hreached := htaken.trans (reaches_of_runs hpass)
  obtain ⟨y, hy, hbuilt, hpopulated⟩ :=
    store_mirrors_mesh_at_rest hpaths hfree hreached hgoing hrest hnone rfl hleaf rfl
  obtain rfl : x = y := Option.some.inj (hx.symm.trans hy)
  have hservices : x.upstreams.map (·.service) = ["db"] := by
    simpa [Function.comp_def] using congrArg (List.map Prod.fst) hupstreams
  have hmem : ("db", [(⟨"10.0.0.1", 5432, 1⟩ : Endpoint)]) ∈
      x.upstreams.map fun u => (u.service, u.endpoints) := by
    rw [hupstreams]
    exact List.mem_singleton_self _
  obtain ⟨u, hu, heq⟩ := List.mem_map.1 hmem
  obtain ⟨hservice, hendpoints⟩ := Prod.mk.inj heq
  have hserver := (hpopulated u hu).present ⟨"10.0.0.1", 5432, 1⟩ (by
    rw [hendpoints]
    exact List.mem_singleton_self _)
  rw [hservice] at hserver
  exact ⟨_, x, hreached, hx, hservices, hserver, hbuilt, hpopulated⟩

end Node

end MeshSync
