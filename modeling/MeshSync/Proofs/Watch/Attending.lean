import MeshSync.Proofs.Watch.Mirroring

/-! # Watches and the ledger

    **`Attended`** ties the watches of upstreams to a ledger: the state is the
    one that the ledger makes, and the watches that have not been cancelled are
    the ones that are followed.  What else holds of a current watch, such as
    what it knows, is a parameter.

    The route: a definition of the sidecar cancels and starts watches
    (`Attended.redefine`), a watch is put in place of itself
    (`Attended.setWatch`), and what a watch got is written if it is current
    (`Attended.reportInstances`) and otherwise not
    (`Attended.process_stopped`). -/

namespace MeshSync.Watch

namespace Ledger

/-- The ledger after an answer, if there is one. -/
def hear? (l : Ledger) (x : Option Heard) : Ledger := x.elim l l.hear

end Ledger

namespace Watcher

variable {w w' : Watcher} {l l' : Ledger} {P : Followed → UpstreamWatch → Prop}

/-- A watcher and a ledger of what it has looked at, as far as the watches of
    upstreams are concerned.  `P` is what holds of a current watch until
    everything is told to stop. -/
structure Attended (P : Followed → UpstreamWatch → Prop) (l : Ledger) (w : Watcher) : Prop where
  sound : l.Sound
  state : w.state = l.state
  numbered : w.watches.map (·.id) = List.range l.started
  followed : ∀ name f, l.followed name = some f → ∃ u, w.watch? f.watch = some u ∧
    u.service = name ∧ u.cancelled = false ∧ (w.stopping = false → P f u)
  watched : ∀ id u, w.watch? id = some u → u.cancelled = false →
    ∃ f, l.followed u.service = some f ∧ f.watch = id

theorem attended_new (identity : Identity) (wait : Nat) :
    Attended P .blank (new identity wait) where
  sound := Ledger.sound_blank
  state := rfl
  numbered := rfl
  followed _ _ hf := nomatch hf
  watched _ _ hu := nomatch hu

/-- What concerns no watch changes nothing. -/
theorem Attended.aside (h : Attended P l w) (hstate : w'.state = w.state)
    (hwatches : w'.watches = w.watches) (hstopping : w'.stopping = false → w.stopping = false) :
    Attended P l w' := by
  have hwatch (id : WatchId) : w'.watch? id = w.watch? id := by rw [watch?, hwatches, watch?]
  refine ⟨h.sound, hstate.trans h.state, hwatches ▸ h.numbered, ?_, ?_⟩
  · intro name f hf
    obtain ⟨u, hu, hname, hcancelled, hP⟩ := h.followed name f hf
    exact ⟨u, (hwatch _).trans hu, hname, hcancelled, fun hs => hP (hstopping hs)⟩
  · intro id u hu
    exact h.watched id u ((hwatch id).symm.trans hu)

/-- Tracks that move on in a way that keeps what holds of them. -/
theorem Attended.moved {R : {α : Type} → Track α → Track α → Prop} (h : Attended P l w)
    (hR : ∀ {f u t}, R u.track t → P f u → P f { u with track := t }) (hm : Moved R w w') :
    Attended P l w' := by
  have hstate : w'.state = w.state := by rw [hm.others]
  have hstopping : w'.stopping = w.stopping := by rw [hm.others]
  refine ⟨h.sound, hstate.trans h.state, hm.ids.trans h.numbered, ?_, ?_⟩
  · intro name f hf
    obtain ⟨u, hu, hname, hcancelled, hP⟩ := h.followed name f hf
    rcases hm.watch f.watch with ⟨hnone, -⟩ | ⟨v, t, hv, hv', hmoves⟩
    · exact nomatch hnone.symm.trans hu
    · obtain rfl := Option.some.inj (hv.symm.trans hu)
      exact ⟨_, hv', hname, hcancelled, fun hs => hR hmoves (hP (hstopping.symm.trans hs))⟩
  · intro id u hu hcancelled
    rcases hm.watch id with ⟨-, hnone⟩ | ⟨v, t, hv, hv', -⟩
    · exact nomatch hnone.symm.trans hu
    · obtain rfl := Option.some.inj (hv'.symm.trans hu)
      exact h.watched id v hv hcancelled

/-! ## Watches -/

theorem watch?_eq_some_iff (hd : (w.watches.map (·.id)).Nodup) {id : WatchId}
    {u : UpstreamWatch} : w.watch? id = some u ↔ u ∈ w.watches ∧ u.id = id := by
  constructor
  · exact fun h => ⟨List.mem_of_find?_eq_some h, id_of_watch? h⟩
  · rintro ⟨hu, rfl⟩
    have hsome : (w.watch? u.id).isSome := List.find?_isSome.2 ⟨u, hu, decide_eq_true rfl⟩
    obtain ⟨v, hv⟩ := Option.isSome_iff_exists.1 hsome
    rw [hv, List.inj_on_of_nodup_map hd (List.mem_of_find?_eq_some hv) hu (id_of_watch? hv)]

theorem Attended.nodup (h : Attended P l w) : (w.watches.map (·.id)).Nodup := by
  rw [h.numbered]
  exact List.nodup_range

/-- No watch is current for two upstreams. -/
theorem Attended.name_unique (h : Attended P l w) {name name' : String} {f f' : Followed}
    (hf : l.followed name = some f) (hf' : l.followed name' = some f')
    (heq : f'.watch = f.watch) : name' = name := by
  obtain ⟨u, hu, hname, -⟩ := h.followed name f hf
  obtain ⟨u', hu', hname', -⟩ := h.followed name' f' hf'
  rw [heq] at hu'
  obtain rfl := Option.some.inj (hu.symm.trans hu')
  exact hname'.symm.trans hname

/-- Nobody follows a watch that was cancelled. -/
theorem Attended.unfollowed_of_cancelled (h : Attended P l w) {id : WatchId} {u : UpstreamWatch}
    (hu : w.watch? id = some u) (hcancelled : u.cancelled = true) (name : String) (f : Followed)
    (hf : l.followed name = some f) : f.watch ≠ id := by
  rintro rfl
  obtain ⟨v, hv, -, hnot, -⟩ := h.followed name f hf
  obtain rfl := Option.some.inj (hu.symm.trans hv)
  exact nomatch hcancelled.symm.trans hnot

theorem Attended.length_watches (h : Attended P l w) : w.watches.length = l.started := by
  have hlength := congrArg List.length h.numbered
  rwa [List.length_map, List.length_range] at hlength

/-! ## The definition of the sidecar -/

/-- A watch after some have been cancelled. -/
def cancelAmong (ids : List WatchId) (u : UpstreamWatch) : UpstreamWatch :=
  if ids.contains u.id then { u with cancelled := true } else u

/-- The watch that is started. -/
def newWatch (s : Start) : UpstreamWatch :=
  { id := s.id
    service := s.service
    datacenter := s.datacenter
    cancelled := false
    track := .new (.index 0) false }

theorem watches_redefine (w : Watcher) (service : Mesh.Service) :
    (w.redefine service).watches =
      w.watches.map (cancelAmong (w.state.define w.watches.length service).cancelled) ++
        (w.state.define w.watches.length service).started.map newWatch := rfl

theorem id_cancelAmong (ids : List WatchId) (u : UpstreamWatch) :
    (cancelAmong ids u).id = u.id := by
  rw [cancelAmong]
  split <;> rfl

theorem cancelAmong_of_not_mem {ids : List WatchId} {u : UpstreamWatch} (h : u.id ∉ ids) :
    cancelAmong ids u = u := by
  rw [cancelAmong, if_neg]
  rwa [List.contains_iff_mem]

theorem not_mem_of_not_cancelled {ids : List WatchId} {u : UpstreamWatch}
    (h : (cancelAmong ids u).cancelled = false) : u.id ∉ ids := by
  intro hmem
  rw [cancelAmong, if_pos (List.contains_iff_mem.2 hmem)] at h
  exact nomatch h

theorem Attended.numbered_redefine (h : Attended P l w) (a : Answer Mesh.Service) :
    (w.redefine a.1).watches.map (·.id) = List.range (l.hear (.proxy a)).started := by
  have hold : (w.watches.map (cancelAmong (w.state.define w.watches.length a.1).cancelled)).map
      (·.id) = w.watches.map (·.id) := by
    rw [List.map_map]
    exact List.map_congr_left fun u _ => id_cancelAmong _ u
  have hnew : ((w.state.define w.watches.length a.1).started.map newWatch).map (·.id) =
      List.range' l.started (l.unfollowed a.1).length := by
    rw [h.state, h.length_watches, Ledger.started_define h.sound, List.map_map, List.map_map,
      ← List.zipIdx_map_snd]
    rfl
  rw [watches_redefine, List.map_append, hold, hnew, h.numbered]
  show List.range l.started ++ _ = List.range (l.started + (l.unfollowed a.1).length)
  rw [List.range_add, List.range'_eq_map_range]

/-- A definition that keeps what is followed does not cancel its watch. -/
theorem Attended.not_mem_cancelled (h : Attended P l w) {service : Mesh.Service} {name : String}
    {f : Followed} (hf : l.followed name = some f) (hkept : Ledger.Kept service name f) :
    f.watch ∉ (w.state.define w.watches.length service).cancelled := by
  rw [h.state, Ledger.mem_cancelled_define h.sound]
  rintro ⟨name', f', hf', heq, hnot⟩
  obtain rfl := h.name_unique hf hf' heq
  obtain rfl := Option.some.inj (hf.symm.trans hf')
  exact hnot hkept

/-- The watches that a definition starts. -/
theorem Attended.started_redefine (h : Attended P l w) (service : Mesh.Service) :
    (w.state.define w.watches.length service).started =
      ((l.unfollowed service).zipIdx l.started).map fun e => ⟨e.2, e.1.1, e.1.2.datacenter⟩ := by
  rw [h.state, h.length_watches, Ledger.started_define h.sound]

theorem Attended.watch?_redefine (h : Attended P l w) (a : Answer Mesh.Service) {id : WatchId}
    {u : UpstreamWatch} : (w.redefine a.1).watch? id = some u ↔
      u ∈ (w.redefine a.1).watches ∧ u.id = id :=
  watch?_eq_some_iff (h.numbered_redefine a ▸ List.nodup_range)

/-- Whatever is followed after a new definition is watched, and what is
    known of it holds of its watch. -/
theorem Attended.followed_redefine (h : Attended P l w)
    (hnew : ∀ s, P ⟨s.datacenter, s.id, none⟩ (newWatch s)) {a : Answer Mesh.Service}
    {name : String} {f : Followed} (hf : (l.hear (.proxy a)).followed name = some f) :
    ∃ u, (w.redefine a.1).watch? f.watch = some u ∧ u.service = name ∧ u.cancelled = false ∧
      (w.stopping = false → P f u) := by
  -- a kept watch goes on as it was, a new one is at its start
  rcases Ledger.followed_cases hf with ⟨hf, hkept⟩ | ⟨d, hmem, hlatest⟩
  · obtain ⟨u, hu, hname, hcancelled, hP⟩ := h.followed name f hf
    obtain ⟨hmem, hid⟩ := (watch?_eq_some_iff h.nodup).1 hu
    have hsame := cancelAmong_of_not_mem (hid ▸ h.not_mem_cancelled hf hkept)
    refine ⟨u, (h.watch?_redefine a).2 ⟨?_, hid⟩, hname, hcancelled, hP⟩
    rw [watches_redefine]
    exact List.mem_append_left _ (List.mem_map.2 ⟨u, hmem, hsame⟩)
  · have hstart := hnew ⟨f.watch, name, d.datacenter⟩
    rw [← Option.some.inj ((Ledger.followed_of_started hmem).symm.trans hf)] at hstart ⊢
    refine ⟨_, (h.watch?_redefine a).2 ⟨?_, rfl⟩, rfl, rfl, fun _ => hstart⟩
    rw [watches_redefine, h.started_redefine, List.map_map]
    exact List.mem_append_right _ (List.mem_map.2 ⟨_, hmem, rfl⟩)

/-- A watch that is current after a new definition is of a service that is
    followed. -/
theorem Attended.watched_redefine (h : Attended P l w) {a : Answer Mesh.Service} {id : WatchId}
    {u : UpstreamWatch} (hu : (w.redefine a.1).watch? id = some u)
    (hcancelled : u.cancelled = false) :
    ∃ f, (l.hear (.proxy a)).followed u.service = some f ∧ f.watch = id := by
  obtain ⟨hmem, rfl⟩ := (h.watch?_redefine a).1 hu
  rw [watches_redefine, h.started_redefine, List.map_map] at hmem
  rcases List.mem_append.1 hmem with hold | hnew
  · obtain ⟨v, hv, rfl⟩ := List.mem_map.1 hold
    have hnot := not_mem_of_not_cancelled hcancelled
    rw [cancelAmong_of_not_mem hnot] at hcancelled ⊢
    have hwatch : w.watch? v.id = some v := (watch?_eq_some_iff h.nodup).2 ⟨hv, rfl⟩
    obtain ⟨f, hf, hid⟩ := h.watched v.id v hwatch hcancelled
    refine ⟨f, Ledger.followed_of_kept hf ?_, hid⟩
    -- what the definition does not keep it cancels
    by_contra hdropped
    refine hnot ?_
    rw [h.state, Ledger.mem_cancelled_define h.sound]
    exact ⟨v.service, f, hf, hid, hdropped⟩
  · obtain ⟨⟨⟨name, d⟩, id⟩, hstarted, rfl⟩ := List.mem_map.1 hnew
    exact ⟨_, Ledger.followed_of_started hstarted, rfl⟩

/-- **A new definition of the sidecar** is attended to, where `P` holds of new
    watches. -/
theorem Attended.redefine (h : Attended P l w)
    (hnew : ∀ s, P ⟨s.datacenter, s.id, none⟩ (newWatch s)) (a : Answer Mesh.Service) :
    Attended P (l.hear (.proxy a)) (w.redefine a.1) := by
  have hstate : (w.state.define w.watches.length a.1).state = (l.hear (.proxy a)).state := by
    rw [h.state, h.length_watches, Ledger.state_define h.sound]
  exact
    { sound := h.sound.hear _
      state := hstate
      numbered := h.numbered_redefine a
      followed := fun _ _ hf => h.followed_redefine hnew hf
      watched := fun _ _ hu hcancelled => h.watched_redefine hu hcancelled }

/-! ## Answers to watches -/

/-- What becomes of the ledger when one watch has another latest answer. -/
theorem Attended.setWatch (h : Attended P l w) {id : WatchId} {u : UpstreamWatch}
    (hu : w.watch? id = some u) {t : Track (List Mesh.Instance)} {s : State}
    {followed : String → Option Followed}
    (hsound : Ledger.Sound { l with followed := followed })
    (hstate : s = Ledger.state { l with followed := followed })
    (hwatch : ∀ name, (followed name).map (·.watch) = (l.followed name).map (·.watch))
    (hother : ∀ name f, followed name = some f → f.watch ≠ id → l.followed name = some f)
    (hself : ∀ name f, followed name = some f → f.watch = id → w.stopping = false →
      P f { u with track := t }) :
    Attended P { l with followed := followed }
      { w.setWatch { u with track := t } with state := s } := by
  have hid : u.id = id := id_of_watch? hu
  have hset : (w.setWatch { u with track := t }).watch? id = some { u with track := t } :=
    watch?_setWatch_self hu hid
  have hkept {j : WatchId} (hj : j ≠ id) :
      (w.setWatch { u with track := t }).watch? j = w.watch? j :=
    watch?_setWatch_of_ne fun heq => hj (heq.trans hid)
  refine ⟨hsound, hstate, (ids_setWatch _ _).trans h.numbered, ?_, ?_⟩
  · intro name f hf
    -- the watch that was put in place, and all others
    by_cases hfid : f.watch = id
    · have hname : (l.followed name).map (·.watch) = some f.watch :=
        (hwatch name).symm.trans (congrArg (Option.map (·.watch)) hf)
      obtain ⟨f', hf', hwatch'⟩ := Option.map_eq_some_iff.1 hname
      obtain ⟨v, hv, hservice, hcancelled, -⟩ := h.followed name f' hf'
      rw [hwatch', hfid] at hv
      obtain rfl := Option.some.inj (hu.symm.trans hv)
      exact ⟨{ u with track := t }, hfid ▸ hset, hservice, hcancelled, hself name f hf hfid⟩
    · obtain ⟨v, hv, hv'⟩ := h.followed name f (hother name f hf hfid)
      exact ⟨v, (hkept hfid).trans hv, hv'⟩
  · intro j v hv hcancelled
    have hold : ∃ f, l.followed v.service = some f ∧ f.watch = j := by
      by_cases hj : j = id
      · subst hj
        obtain rfl := Option.some.inj (hset.symm.trans hv)
        exact h.watched j u hu hcancelled
      · exact h.watched j v ((hkept hj).symm.trans hv) hcancelled
    obtain ⟨f, hf, rfl⟩ := hold
    have hname := hwatch v.service
    rw [hf] at hname
    exact Option.map_eq_some_iff.1 hname

/-- A watch that brings nothing new, or that nothing depends on. -/
theorem Attended.setWatch_same (h : Attended P l w) {id : WatchId} {u : UpstreamWatch}
    (hu : w.watch? id = some u) {t : Track (List Mesh.Instance)}
    (hself : ∀ name f, l.followed name = some f → f.watch = id → w.stopping = false →
      P f { u with track := t }) : Attended P l (w.setWatch { u with track := t }) :=
  h.setWatch hu h.sound h.state (fun _ => rfl) (fun _ _ hf _ => hf) hself

/-- A watch that has got an answer. -/
theorem Attended.setWatch_report (h : Attended P l w) {id : WatchId} {u : UpstreamWatch}
    (hu : w.watch? id = some u) {t : Track (List Mesh.Instance)} {s : State}
    {a : Answer (List Mesh.Instance)} (hstate : s = (l.hear (.instances id a)).state)
    (hself : ∀ name f, l.followed name = some f → f.watch = id → w.stopping = false →
      P { f with latest := some a } { u with track := t }) :
    Attended P (l.hear (.instances id a))
      { w.setWatch { u with track := t } with state := s } := by
  refine h.setWatch hu (h.sound.hear (.instances id a)) hstate
    (Ledger.watch_hear_instances l id a) ?_ ?_
  · intro name f hf hne
    obtain ⟨f', hf', rfl⟩ := Option.map_eq_some_iff.1 hf
    rw [Followed.watch_report] at hne
    rw [hf', Followed.report, if_neg hne]
  · intro name f hf heq hgoing
    obtain ⟨f', hf', rfl⟩ := Option.map_eq_some_iff.1 hf
    rw [Followed.watch_report] at heq
    rw [Followed.report, if_pos heq]
    exact hself name f' hf' heq hgoing

/-- Nothing depends on the track of a watch that has stopped, or will. -/
theorem Attended.setWatch_stopped (h : Attended P l w) {id : WatchId} {u : UpstreamWatch}
    (hu : w.watch? id = some u) (hstop : w.stopping = true ∨ u.cancelled = true)
    (t : Track (List Mesh.Instance)) : Attended P l (w.setWatch { u with track := t }) := by
  refine h.setWatch_same hu fun name f hf hid hgoing => ?_
  rcases hstop with hstopping | hcancelled
  · exact nomatch hgoing.symm.trans hstopping
  · exact absurd hid (h.unfollowed_of_cancelled hu hcancelled name f hf)

/-- A watch that has stopped, or will, writes nothing. -/
theorem Attended.reportInstances_stopped (h : Attended P l w) {id : WatchId} {u : UpstreamWatch}
    (hu : w.watch? id = some u) {t : Track (List Mesh.Instance)}
    (hstop : w.stopping = true ∨ u.cancelled = true) (instances : List Mesh.Instance) :
    Attended P l (w.reportInstances { u with track := t } instances) := by
  have hcancelled : w.isCancelled (.upstream u.id) = true := by
    rw [isCancelled, id_of_watch? hu, hu]
    simpa using hstop
  rw [reportInstances]
  split
  · exact h.setWatch_stopped hu hstop _
  · rw [if_pos hcancelled]
    exact h.setWatch_stopped hu hstop _

/-- **A current watch writes what it got.** -/
theorem Attended.reportInstances (h : Attended P l w) {id : WatchId} {u : UpstreamWatch}
    (hu : w.watch? id = some u) {t : Track (List Mesh.Instance)} {a : Answer (List Mesh.Instance)}
    (hgoing : w.stopping = false) (hcurrent : u.cancelled = false)
    (hself : ∀ name f, l.followed name = some f → f.watch = id →
      P { f with latest := some a } { u with track := t }) :
    Attended P (l.hear (.instances id a)) (w.reportInstances { u with track := t } a.1) := by
  obtain ⟨f, hf, hid⟩ := h.watched id u hu hcurrent
  obtain ⟨d, hd, -⟩ := h.sound.declared_of_followed hf
  have hrecord : w.state.upstreams.get? u.service = some (l.record u.service d) := by
    rw [h.state, Ledger.get?_upstreams, hd]
    rfl
  have hcancelled : w.isCancelled (.upstream u.id) = false := by
    rw [isCancelled, id_of_watch? hu, hu, hgoing]
    simpa using hcurrent
  have honly (name : String) (f' : Followed) (hf' : l.followed name = some f')
      (hid' : f'.watch = id) : name = u.service := h.name_unique hf hf' (hid'.trans hid.symm)
  rw [Watcher.reportInstances, hrecord]
  dsimp only
  rw [hcancelled, if_neg Bool.noConfusion]
  refine h.setWatch_report hu ?_ fun name f hf hid _ => hself name f hf hid
  rw [h.state] at hrecord ⊢
  exact (Ledger.state_hear_instances h.sound hf hid honly hrecord).symm

/-- **A watch that has stopped, or will, changes nothing** when it looks at its
    answer. -/
theorem Attended.process_stopped (h : Attended P l w) {id : WatchId} {u : UpstreamWatch}
    (hu : w.watch? id = some u) (hstop : w.stopping = true ∨ u.cancelled = true)
    (hp : w.process (.upstream id) = some w') : Attended P l w' := by
  obtain ⟨v, hv, hp⟩ := Option.bind_eq_some_iff.1 hp
  obtain rfl := Option.some.inj (hu.symm.trans hv)
  obtain ⟨⟨t, news⟩, ht, hp⟩ := Option.bind_eq_some_iff.1 hp
  have hset := h.setWatch_stopped hu hstop t
  cases news with
  | failed =>
      obtain rfl := Option.some.inj hp
      exact hset.aside rfl rfl fun hs => hs
  | same =>
      obtain rfl := Option.some.inj hp
      exact hset
  | changed instances =>
      obtain rfl := Option.some.inj hp
      exact h.reportInstances_stopped hu hstop instances

/-- The watch of an upstream leaves the four tracks alone. -/
theorem tracks_of_process {id : WatchId} (hp : w.process (.upstream id) = some w') :
    w'.caRoots = w.caRoots ∧ w'.leaf = w.leaf ∧ w'.proxy = w.proxy ∧ w'.service = w.service := by
  obtain ⟨u, hu, hp⟩ := Option.bind_eq_some_iff.1 hp
  obtain ⟨⟨t, news⟩, ht, hp⟩ := Option.bind_eq_some_iff.1 hp
  cases news with
  | failed =>
      obtain rfl := Option.some.inj hp
      exact ⟨rfl, rfl, rfl, rfl⟩
  | same =>
      obtain rfl := Option.some.inj hp
      exact ⟨rfl, rfl, rfl, rfl⟩
  | changed instances =>
      obtain rfl := Option.some.inj hp
      show (w.reportInstances _ _).caRoots = _ ∧ (w.reportInstances _ _).leaf = _ ∧
        (w.reportInstances _ _).proxy = _ ∧ (w.reportInstances _ _).service = _
      rw [Watcher.reportInstances]
      split
      · exact ⟨rfl, rfl, rfl, rfl⟩
      · split
        · exact ⟨rfl, rfl, rfl, rfl⟩
        · exact ⟨rfl, rfl, rfl, rfl⟩

end Watcher

end MeshSync.Watch
