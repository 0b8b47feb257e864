import Mathlib.Data.List.Induction
import MeshSync.Proofs.Watch.Tracks
import MeshSync.Watch.Watcher

/-! # Steps of the watcher

    * `moments` - the states in which the events of a run happen.
    * `run_induction` - what holds at the start and is kept by every step holds
      after every run.
    * `Moved` - what a step of one track leaves alone.
    * **`Steps`** - all that an event can come to (`steps_of_step`). -/

namespace MeshSync.Watch

/-- The events by which a track moves on without a signal. -/
def Event.quiet : Event → Bool
  | .ask _ | .arrive _ | .wake _ | .stop _ => true
  | .caRootsReply _ | .leafReply _ | .proxyReply _ | .serviceReply _ | .upstreamReply _ _ => true
  | _ => false

namespace Watcher

variable {w w' v : Watcher} {e : Event} {es fs : List Event}

/-! ## Runs -/

/-- The states in which the events of a run happen. -/
def moments (w : Watcher) : List Event → List (Watcher × Event)
  | [] => []
  | e :: es => (w, e) :: ((w.step e).map (·.moments es)).getD []

/-- A run can be cut anywhere. -/
theorem run_append (w : Watcher) (es fs : List Event) :
    w.run (es ++ fs) = (w.run es).bind (·.run fs) := by
  induction es generalizing w with
  | nil => rfl
  | cons e es ih =>
      rw [List.cons_append, run, run]
      cases w.step e with
      | none => rfl
      | some v => exact ih v

/-- The moments of a run are those of its parts. -/
theorem moments_append (h : w.run es = some v) (fs : List Event) :
    w.moments (es ++ fs) = w.moments es ++ v.moments fs := by
  induction es generalizing w with
  | nil =>
      obtain rfl := Option.some.inj h
      rfl
  | cons e es ih =>
      rw [run] at h
      rw [List.cons_append, moments, moments, List.cons_append]
      cases hstep : w.step e with
      | none =>
          rw [hstep] at h
          exact nomatch h
      | some u =>
          rw [hstep] at h
          exact congrArg _ (ih h)

/-- The last event of a run comes at the end of the rest. -/
theorem run_snoc (h : w.run (es ++ [e]) = some w') :
    ∃ v, w.run es = some v ∧ v.step e = some w' := by
  rw [run_append] at h
  obtain ⟨v, hv, h⟩ := Option.bind_eq_some_iff.1 h
  obtain ⟨u, hu, h⟩ := Option.bind_eq_some_iff.1 h
  obtain rfl := Option.some.inj h
  exact ⟨v, hv, hu⟩

/-- One more event, one more moment. -/
theorem moments_snoc (h : w.run es = some v) (e : Event) :
    w.moments (es ++ [e]) = w.moments es ++ [(v, e)] := by
  rw [moments_append h]
  cases hstep : v.step e <;> simp [moments, hstep]

/-- What holds at the start and is kept by every step holds after every run. -/
theorem run_induction {P : List Event → Watcher → Prop} (start : P [] w)
    (step : ∀ es v e v', w.run es = some v → P es v → v.step e = some v' → P (es ++ [e]) v')
    (h : w.run es = some w') : P es w' := by
  -- from the end, because the invariants speak of what has happened so far
  induction es using List.reverseRecOn generalizing w' with
  | nil =>
      obtain rfl := Option.some.inj h
      exact start
  | append_singleton es e ih =>
      obtain ⟨v, hv, hstep⟩ := run_snoc h
      exact step es v e w' hv (ih hv) hstep

/-! ## Watches -/

/-- A watch is found by its own id. -/
theorem id_of_watch? {id : WatchId} {u : UpstreamWatch} (h : w.watch? id = some u) : u.id = id := by
  have hid := List.find?_some h
  exact of_decide_eq_true hid

/-- Replacing a watch changes what is found under its id. -/
theorem watch?_setWatch (w : Watcher) (u : UpstreamWatch) (id : WatchId) :
    (w.setWatch u).watch? id = (w.watch? id).map fun v => if v.id = u.id then u else v := by
  rw [watch?, watch?, setWatch, List.find?_map]
  have hp : ((fun x : UpstreamWatch => decide (x.id = id)) ∘
      fun v => if v.id = u.id then u else v) = fun x => decide (x.id = id) := by
    funext v
    by_cases hv : v.id = u.id
    · simp [hv]
    · simp [hv]
  rw [hp]

/-- There the new watch is found. -/
theorem watch?_setWatch_self {u u' : UpstreamWatch} {id : WatchId} (h : w.watch? id = some u)
    (hid : u'.id = id) : (w.setWatch u').watch? id = some u' := by
  rw [watch?_setWatch, h, Option.map_some, if_pos ((id_of_watch? h).trans hid.symm)]

/-- Under every other id the same as before is found. -/
theorem watch?_setWatch_of_ne {u : UpstreamWatch} {id : WatchId} (h : id ≠ u.id) :
    (w.setWatch u).watch? id = w.watch? id := by
  rw [watch?_setWatch]
  cases hv : w.watch? id with
  | none => rfl
  | some v =>
      rw [Option.map_some, if_neg]
      rw [id_of_watch? hv]
      exact h

/-- Replacing a watch changes no ids. -/
theorem ids_setWatch (w : Watcher) (u : UpstreamWatch) :
    (w.setWatch u).watches.map (·.id) = w.watches.map (·.id) := by
  rw [setWatch, List.map_map]
  refine List.map_congr_left fun v _ => ?_
  show UpstreamWatch.id (if v.id = u.id then u else v) = v.id
  split
  · next heq => exact heq.symm
  · rfl

/-! ## Moving on -/

/-- Nothing but tracks differs, and every track differs at most by a step that
    `R` describes. -/
structure Moved (R : {α : Type} → Track α → Track α → Prop) (w w' : Watcher) : Prop where
  others : w' = { w with
    caRoots := w'.caRoots, leaf := w'.leaf, proxy := w'.proxy, service := w'.service
    watches := w'.watches }
  caRoots : R w.caRoots w'.caRoots
  leaf : R w.leaf w'.leaf
  proxy : R w.proxy w'.proxy
  service : R w.service w'.service
  ids : w'.watches.map (·.id) = w.watches.map (·.id)
  watch : ∀ id, (w.watch? id = none ∧ w'.watch? id = none) ∨
    ∃ u t, w.watch? id = some u ∧ w'.watch? id = some { u with track := t } ∧ R u.track t

/-- What moves the tracks in one way moves them in every wider one. -/
theorem Moved.mono {R S : {α : Type} → Track α → Track α → Prop} (h : Moved R w w')
    (hRS : ∀ {α : Type} (t t' : Track α), R t t' → S t t') : Moved S w w' := by
  refine ⟨h.others, hRS _ _ h.caRoots, hRS _ _ h.leaf, hRS _ _ h.proxy, hRS _ _ h.service,
    h.ids, fun id => ?_⟩
  rcases h.watch id with hnone | ⟨u, t, hu, hu', hR⟩
  · exact .inl hnone
  · exact .inr ⟨u, t, hu, hu', hRS _ _ hR⟩

section

variable {R : {α : Type} → Track α → Track α → Prop}

/-- A watch that stays as it is moves in every reflexive way. -/
theorem watch_refl (hrefl : ∀ {α : Type} (t : Track α), R t t) (w : Watcher) (id : WatchId) :
    (w.watch? id = none ∧ w.watch? id = none) ∨
      ∃ u t, w.watch? id = some u ∧ w.watch? id = some { u with track := t } ∧ R u.track t := by
  cases h : w.watch? id with
  | none => exact .inl ⟨rfl, rfl⟩
  | some u => exact .inr ⟨u, u.track, rfl, rfl, hrefl _⟩

/-- Only the track of the authorities moves. -/
theorem Moved.caRoots_only (hrefl : ∀ {α : Type} (t : Track α), R t t) {t : Track Mesh.CaRoots}
    (h : R w.caRoots t) : Moved R w { w with caRoots := t } :=
  ⟨rfl, h, hrefl _, hrefl _, hrefl _, rfl, watch_refl hrefl w⟩

/-- Only the track of the leaf moves. -/
theorem Moved.leaf_only (hrefl : ∀ {α : Type} (t : Track α), R t t) {t : Track Mesh.Leaf}
    (h : R w.leaf t) : Moved R w { w with leaf := t } :=
  ⟨rfl, hrefl _, h, hrefl _, hrefl _, rfl, watch_refl hrefl w⟩

/-- Only the track of the sidecar's definition moves. -/
theorem Moved.proxy_only (hrefl : ∀ {α : Type} (t : Track α), R t t) {t : Track Mesh.Service}
    (h : R w.proxy t) : Moved R w { w with proxy := t } :=
  ⟨rfl, hrefl _, hrefl _, h, hrefl _, rfl, watch_refl hrefl w⟩

/-- Only the track of the service moves. -/
theorem Moved.service_only (hrefl : ∀ {α : Type} (t : Track α), R t t) {t : Track Mesh.Service}
    (h : R w.service t) : Moved R w { w with service := t } :=
  ⟨rfl, hrefl _, hrefl _, hrefl _, h, rfl, watch_refl hrefl w⟩

/-- Only the track of one upstream moves. -/
theorem setWatch_moved (hrefl : ∀ {α : Type} (t : Track α), R t t) {u : UpstreamWatch}
    {id : WatchId} (hu : w.watch? id = some u) {t : Track (List Mesh.Instance)}
    (h : R u.track t) : Moved R w (w.setWatch { u with track := t }) := by
  have hid : u.id = id := id_of_watch? hu
  refine ⟨rfl, hrefl _, hrefl _, hrefl _, hrefl _, ids_setWatch _ _, fun j => ?_⟩
  by_cases hj : j = id
  · subst hj
    exact .inr ⟨u, t, hu, watch?_setWatch_self hu hid, h⟩
  · have hkept : (w.setWatch { u with track := t }).watch? j = w.watch? j :=
      watch?_setWatch_of_ne fun heq => hj (heq.trans hid)
    rw [hkept]
    exact watch_refl hrefl w j

/-- What is done to the watch of an upstream moves its track and no other. -/
theorem onWatch_moved (hrefl : ∀ {α : Type} (t : Track α), R t t) {id : WatchId}
    {f : Track (List Mesh.Instance) → Option (Track (List Mesh.Instance))}
    (hf : ∀ t t', f t = some t' → R t t') (h : w.onWatch id f = some w') : Moved R w w' := by
  obtain ⟨u, hu, h⟩ := Option.bind_eq_some_iff.1 h
  obtain ⟨t, ht, h⟩ := Option.bind_eq_some_iff.1 h
  obtain rfl := Option.some.inj h
  exact setWatch_moved hrefl hu (hf _ _ ht)

/-- **A step of one track** leaves everything else alone. -/
theorem onTrack_moved (hrefl : ∀ {α : Type} (t : Track α), R t t) {t : TrackId}
    {f : {α : Type} → Track α → Option (Track α)}
    (hf : ∀ {α : Type} (t t' : Track α), f t = some t' → R t t') (h : w.onTrack t f = some w') :
    Moved R w w' := by
  cases t with
  | caRoots =>
      obtain ⟨t, ht, rfl⟩ := Option.map_eq_some_iff.1 h
      exact .caRoots_only hrefl (hf _ _ ht)
  | leaf =>
      obtain ⟨t, ht, rfl⟩ := Option.map_eq_some_iff.1 h
      exact .leaf_only hrefl (hf _ _ ht)
  | proxy =>
      obtain ⟨t, ht, rfl⟩ := Option.map_eq_some_iff.1 h
      exact .proxy_only hrefl (hf _ _ ht)
  | service =>
      obtain ⟨t, ht, rfl⟩ := Option.map_eq_some_iff.1 h
      exact .service_only hrefl (hf _ _ ht)
  | upstream id => exact onWatch_moved hrefl hf h

end

/-- A track that asks proceeds. -/
theorem proceeds_of_ask {α : Type} (t t' : Track α) (h : t.ask = some t') : t.Proceeds t' :=
  ⟨Track.moves_of_ask h, Track.unsignalled_of_phase (by simp [(Track.ask_eq h).1])⟩

/-- So does one that gets a reply. -/
theorem proceeds_of_receive {α : Type} {r : Reply α} (t t' : Track α) (h : t.receive r = some t') :
    t.Proceeds t' :=
  ⟨Track.moves_of_receive h, Track.unsignalled_of_phase (by simp [(Track.receive_eq h).1])⟩

/-- So does one that has arrived. -/
theorem proceeds_of_arrive {α : Type} (t t' : Track α) (h : t.arrive = some t') : t.Proceeds t' :=
  ⟨Track.moves_of_arrive h, Track.unsignalled_of_phase (by simp [(Track.arrive_eq h).1])⟩

/-- So does one that has waited long enough. -/
theorem proceeds_of_wake {α : Type} (t t' : Track α) (h : t.wake = some t') : t.Proceeds t' :=
  ⟨Track.moves_of_wake h, Track.unsignalled_of_phase (by simp [(Track.wake_eq h).1])⟩

/-- So does one that stops. -/
theorem proceeds_of_stop {α : Type} (t t' : Track α) (h : t.stop = some t') : t.Proceeds t' := by
  refine ⟨Track.moves_of_stop h, Track.unsignalled_of_phase ?_⟩
  rcases (Track.stop_eq h).1 with hp | hp <;> simp [hp]

/-! ## All that an event can come to -/

/-- All that an event can come to. -/
inductive Steps (w : Watcher) : Event → Watcher → Prop where
  | quiet (e : Event) (w' : Watcher) (he : e.quiet = true) (h : Moved Track.Proceeds w w') :
      Steps w e w'
  | notify (t : TrackId) (v : Watcher) (h : w.onTrack t Track.notify = some v) :
      Steps w (.notify t) { v with signal := v.result?.isNone }
  | process (t : TrackId) (w' : Watcher) (h : w.process t = some w') : Steps w (.process t) w'
  | pass (hp : w.publisher = .gated) (hg : w.gateOpen = true) :
      Steps w .pass { w with publisher := .listening }
  | drain (hp : w.publisher = .listening) (hs : w.signal = true) :
      Steps w .drain { w with publisher := .drained, signal := false }
  | build (s : Snapshot) (hp : w.publisher = .drained) (hs : w.snapshot? = some s) :
      Steps w .build { w with publisher := .sending s, snapshots := w.snapshots + 1 }
  | hold (hp : w.publisher = .drained) (hs : w.snapshot? = none) :
      Steps w .build { w with publisher := .listening }
  | deliver (s : Snapshot) (hp : w.publisher = .sending s) (hh : w.output.held = none) :
      Steps w .deliver
        { w with publisher := .listening, output := { w.output with held := some s } }
  | fail (ho : w.output.isOpen = false) : Steps w .fail (w.finish (.error .outputClosed))
  | quit (hs : w.stopping = true) : Steps w .quit (w.finish (.ok ()))
  | take (s : Snapshot) (hh : w.output.held = some s) :
      Steps w .take { w with output := { w.output with held := none } }
  | closeOutput : Steps w .closeOutput { w with output := ⟨none, false⟩ }
  | shutdown : Steps w .shutdown { w with stopping := true }

/-- The publisher passes where it was held back and the gate is open. -/
theorem steps_of_pass (h : w.pass = some w') : Steps w .pass w' := by
  unfold pass at h
  split at h
  · next hp =>
      split at h
      · next hg =>
          obtain rfl := Option.some.inj h
          exact .pass hp hg
      · exact nomatch h
  · exact nomatch h

/-- It drains where there is a signal. -/
theorem steps_of_drain (h : w.drain = some w') : Steps w .drain w' := by
  unfold drain at h
  split at h
  · next hp =>
      split at h
      · next hs =>
          obtain rfl := Option.some.inj h
          exact .drain hp hs
      · exact nomatch h
  · exact nomatch h

/-- It takes the snapshot of the present state, or goes back to listening
    where there is none. -/
theorem steps_of_build (h : w.build = some w') : Steps w .build w' := by
  unfold build at h
  split at h
  · next hp =>
      split at h
      · next s hs =>
          obtain rfl := Option.some.inj h
          exact .build s hp hs
      · next hs =>
          obtain rfl := Option.some.inj h
          exact .hold hp hs
  · exact nomatch h

/-- It delivers where nothing is held. -/
theorem steps_of_deliver (h : w.deliver = some w') : Steps w .deliver w' := by
  unfold deliver at h
  split at h
  · next s hp hh =>
      split at h
      · obtain rfl := Option.some.inj h
        exact .deliver s hp hh
      · exact nomatch h
  · exact nomatch h

/-- It fails where the output is closed. -/
theorem steps_of_fail (h : w.fail = some w') : Steps w .fail w' := by
  unfold fail at h
  split at h
  · split at h
    · exact nomatch h
    · next ho =>
        obtain rfl := Option.some.inj h
        exact .fail (Bool.eq_false_iff.2 ho)
  · exact nomatch h

/-- It quits, from wherever it waits, when everything is told to stop. -/
theorem steps_of_quit (h : w.quit = some w') : Steps w .quit w' := by
  unfold quit at h
  split at h
  · exact nomatch h
  · next hs =>
      -- the publisher quits from wherever it waits, and ends the same way
      have hstopping : w.stopping = true := by simpa using hs
      have hquit : Steps w .quit (w.finish (.ok ())) := .quit hstopping
      split at h
      · exact Option.some.inj h ▸ hquit
      · exact Option.some.inj h ▸ hquit
      · exact Option.some.inj h ▸ hquit
      · exact nomatch h
      · exact nomatch h

/-- What is held can be taken. -/
theorem steps_of_take (h : w.take = some w') : Steps w .take w' := by
  unfold take at h
  split at h
  · next hh =>
      obtain ⟨s, hs⟩ := Option.isSome_iff_exists.1 hh
      obtain rfl := Option.some.inj h
      exact .take s hs
  · exact nomatch h

/-- **All that an event can come to.** -/
theorem steps_of_step (h : w.step e = some w') : Steps w e w' := by
  have hrefl {α : Type} (t : Track α) : t.Proceeds t := ⟨.refl t, .refl t⟩
  cases e with
  | ask t => exact .quiet _ _ rfl (onTrack_moved hrefl proceeds_of_ask h)
  | arrive t => exact .quiet _ _ rfl (onTrack_moved hrefl proceeds_of_arrive h)
  | wake t => exact .quiet _ _ rfl (onTrack_moved hrefl proceeds_of_wake h)
  -- a track stops only once the watcher does, or its watch was cancelled
  | stop t =>
      rw [step] at h
      split at h
      · exact .quiet _ _ rfl (onTrack_moved hrefl proceeds_of_stop h)
      · exact nomatch h
  | caRootsReply r =>
      obtain ⟨t, ht, rfl⟩ := Option.map_eq_some_iff.1 h
      exact .quiet _ _ rfl (.caRoots_only hrefl (proceeds_of_receive _ _ ht))
  | leafReply r =>
      obtain ⟨t, ht, rfl⟩ := Option.map_eq_some_iff.1 h
      exact .quiet _ _ rfl (.leaf_only hrefl (proceeds_of_receive _ _ ht))
  | proxyReply r =>
      obtain ⟨t, ht, rfl⟩ := Option.map_eq_some_iff.1 h
      exact .quiet _ _ rfl (.proxy_only hrefl (proceeds_of_receive _ _ ht))
  | serviceReply r =>
      obtain ⟨t, ht, rfl⟩ := Option.map_eq_some_iff.1 h
      exact .quiet _ _ rfl (.service_only hrefl (proceeds_of_receive _ _ ht))
  | upstreamReply id r =>
      exact .quiet _ _ rfl (onWatch_moved hrefl proceeds_of_receive h)
  | notify t =>
      obtain ⟨v, hv, rfl⟩ := Option.map_eq_some_iff.1 h
      exact .notify t v hv
  | process t => exact .process t w' h
  | pass => exact steps_of_pass h
  | drain => exact steps_of_drain h
  | build => exact steps_of_build h
  | deliver => exact steps_of_deliver h
  | fail => exact steps_of_fail h
  | quit => exact steps_of_quit h
  | take => exact steps_of_take h
  | closeOutput =>
      obtain rfl := Option.some.inj h
      exact .closeOutput
  | shutdown =>
      obtain rfl := Option.some.inj h
      exact .shutdown

/-! ## A first run -/

/-- A service on port 8080. -/
def web : Mesh.Service := ⟨"web-1", "web", "", "", 8080, none⟩

/-- Its sidecar, which declares one upstream. -/
def webSidecar : Mesh.Service :=
  ⟨"web-1-sidecar-proxy", "web-sidecar-proxy", "connect-proxy", "", 20000,
    some ⟨"web", "web-1", ∅, [⟨"service", "db", "dc1", "127.0.0.1", 5432⟩]⟩⟩

/-- An instance of that upstream. -/
def dbInstance : Mesh.Instance :=
  ⟨⟨"node-1", "10.0.0.1", "dc1"⟩, ⟨"db-1", "db", "", 5432, ⟨1, 1⟩⟩, []⟩

/-- The watcher of the service. -/
def webStart : Watcher := start "web-1" 600000 (.ok "web-1-sidecar-proxy") (.ok web)

/-- A track gets an answer, looks at it, signals it and goes on. -/
def learning (t : TrackId) (reply : Event) : List Event :=
  [.ask t, reply, .process t, .notify t, .arrive t]

/-- Four tracks get their first answers. -/
def firstAnswers : List Event :=
  learning .caRoots (.caRootsReply (.ok (⟨"", []⟩, ⟨1, "a"⟩))) ++
    learning .leaf (.leafReply (.ok (⟨"", "cert", "key", ""⟩, ⟨1, "a"⟩))) ++
    learning .proxy (.proxyReply (.ok (webSidecar, ⟨1, "a"⟩))) ++
    learning .service (.serviceReply (.ok (web, ⟨1, "a"⟩)))

/-- Then the publisher sends a snapshot, the upstream's instances get known, and
    the publisher takes another snapshot and sends it when the first one has
    been taken. -/
def firstRun : List Event :=
  firstAnswers ++ [.pass, .drain, .build, .deliver] ++
    learning (.upstream 0) (.upstreamReply 0 (.ok ([], ⟨1, "a"⟩))) ++
    [.drain, .build, .take, .deliver]

end Watcher

end MeshSync.Watch
