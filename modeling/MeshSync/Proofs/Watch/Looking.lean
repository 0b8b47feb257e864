import MeshSync.Proofs.Watch.Steps

/-! # What looking at an answer leaves alone

    Whatever a track finds when it looks at its answer, only tracks and the
    state change, and the state only together with a change to signal
    (`looked_of_process`). -/

namespace MeshSync.Watch

namespace Watcher

variable {w w' : Watcher}

theorem Moved.written (h : Moved Track.Unsignalled w w') {t : TrackId}
    (ht : w.stage? t = some .written) : w'.stage? t = some .written := by
  cases t with
  | caRoots => exact congrArg some (h.caRoots (Option.some.inj ht))
  | leaf => exact congrArg some (h.leaf (Option.some.inj ht))
  | proxy => exact congrArg some (h.proxy (Option.some.inj ht))
  | service => exact congrArg some (h.service (Option.some.inj ht))
  | upstream id =>
      obtain ⟨u, hu, hstage⟩ := Option.map_eq_some_iff.1 ht
      rcases h.watch id with ⟨hnone, -⟩ | ⟨v, t, hv, hv', hR⟩
      · exact nomatch hnone.symm.trans hu
      · obtain rfl := Option.some.inj (hv.symm.trans hu)
        show (w'.watch? id).map _ = _
        rw [hv']
        exact congrArg some (hR hstage)

/-- A track has looked at an answer: only tracks and the state differ, and the
    state only if the track has a change to signal. -/
structure Looked (t : TrackId) (w w' : Watcher) : Prop where
  identity : w'.identity = w.identity
  publisher : w'.publisher = w.publisher
  output : w'.output = w.output
  signal : w'.signal = w.signal
  stopping : w'.stopping = w.stopping
  written : w'.stage? t = some .written ∨
    (w'.state = w.state ∧ ∀ t', w.stage? t' = some .written → w'.stage? t' = some .written)

theorem unsignalled_of_process {α : Type} {t t' x : Track α} {news : News α}
    (h : t.process = some (t', news)) : t.Unsignalled x := by
  intro hwritten
  rw [Track.stage_of_process h] at hwritten
  exact nomatch hwritten

/-- A track writes what it got. -/
structure Writes (t : TrackId) (w w' : Watcher) : Prop where
  identity : w'.identity = w.identity
  publisher : w'.publisher = w.publisher
  output : w'.output = w.output
  signal : w'.signal = w.signal
  stopping : w'.stopping = w.stopping
  stage : w'.stage? t = w.stage? t

theorem Looked.of_moved {t : TrackId} (h : Moved Track.Unsignalled w w') : Looked t w w' := by
  have hothers := h.others
  refine ⟨?_, ?_, ?_, ?_, ?_, .inr ⟨?_, fun _ => h.written⟩⟩ <;> rw [hothers]

theorem Looked.of_writes {t : TrackId} {v : Watcher} (h : Moved Track.Unsignalled w v)
    (hw : Writes t v w') (ht : v.stage? t = some .written) : Looked t w w' := by
  have hv := Looked.of_moved (t := t) h
  exact ⟨hw.identity.trans hv.identity, hw.publisher.trans hv.publisher,
    hw.output.trans hv.output, hw.signal.trans hv.signal, hw.stopping.trans hv.stopping,
    .inl (hw.stage.trans ht)⟩

theorem Looked.of_failed {t : TrackId} {v : Watcher} (h : Moved Track.Unsignalled w v)
    (n : ErrorCounts) : Looked t w { v with errors := n } := by
  have hv := Looked.of_moved (t := t) h
  have hstate : v.state = w.state := by rw [h.others]
  exact ⟨hv.identity, hv.publisher, hv.output, hv.signal, hv.stopping,
    .inr ⟨hstate, fun _ => h.written⟩⟩

/-- The stage of the track of a watch that was put in place. -/
theorem stage?_setWatch {u : UpstreamWatch} {id : WatchId} {t : Track (List Mesh.Instance)}
    (h : w.watch? id = some u) (hid : u.id = id) :
    (w.setWatch { u with track := t }).stage? (.upstream id) = some t.stage := by
  have hset : (w.setWatch { u with track := t }).watch? id = some { u with track := t } :=
    watch?_setWatch_self h hid
  rw [stage?, hset]
  rfl

theorem looked_reportInstances {u : UpstreamWatch} {id : WatchId} {t : Track (List Mesh.Instance)}
    (hu : w.watch? id = some u) (hmoved : ∀ t', u.track.Unsignalled t')
    (ht : t.stage = .written) (instances : List Mesh.Instance) :
    Looked (.upstream id) w (w.reportInstances { u with track := t } instances) := by
  have hset (t' : Track (List Mesh.Instance)) : Moved Track.Unsignalled w
      (w.setWatch { u with track := t' }) := setWatch_moved Track.Unsignalled.refl hu (hmoved t')
  unfold reportInstances
  split
  · -- the record is gone: the track stops, and the state is not touched
    exact .of_moved (hset _)
  · split
    · exact .of_moved (hset _)
    · have hstage := stage?_setWatch (t := t) hu (id_of_watch? hu)
      exact .of_writes (hset t) ⟨rfl, rfl, rfl, rfl, rfl, rfl⟩ (hstage.trans (congrArg some ht))

/-- **What looking at an answer leaves alone.** -/
theorem looked_of_process {t : TrackId} (h : w.process t = some w') : Looked t w w' := by
  have hrefl {α : Type} (t : Track α) : t.Unsignalled t := .refl t
  -- four tracks write what is new to the state; a watch's list may be dropped
  cases t with
  | caRoots =>
      obtain ⟨⟨t, news⟩, ht, h⟩ := Option.bind_eq_some_iff.1 h
      have hmoved := Moved.caRoots_only (w := w) hrefl (unsignalled_of_process (x := t) ht)
      cases Track.looks_of_process ht with
      | failed =>
          obtain rfl := Option.some.inj h
          exact .of_failed hmoved _
      | same =>
          obtain rfl := Option.some.inj h
          exact .of_moved hmoved
      | changed =>
          obtain rfl := Option.some.inj h
          exact .of_writes hmoved ⟨rfl, rfl, rfl, rfl, rfl, rfl⟩ rfl
  | leaf =>
      obtain ⟨⟨t, news⟩, ht, h⟩ := Option.bind_eq_some_iff.1 h
      have hmoved := Moved.leaf_only (w := w) hrefl (unsignalled_of_process (x := t) ht)
      cases Track.looks_of_process ht with
      | failed =>
          obtain rfl := Option.some.inj h
          exact .of_failed hmoved _
      | same =>
          obtain rfl := Option.some.inj h
          exact .of_moved hmoved
      | changed =>
          obtain rfl := Option.some.inj h
          exact .of_writes hmoved ⟨rfl, rfl, rfl, rfl, rfl, rfl⟩ rfl
  | proxy =>
      obtain ⟨⟨t, news⟩, ht, h⟩ := Option.bind_eq_some_iff.1 h
      have hmoved := Moved.proxy_only (w := w) hrefl (unsignalled_of_process (x := t) ht)
      cases Track.looks_of_process ht with
      | failed =>
          obtain rfl := Option.some.inj h
          exact .of_failed hmoved _
      | same =>
          obtain rfl := Option.some.inj h
          exact .of_moved hmoved
      | changed =>
          obtain rfl := Option.some.inj h
          exact .of_writes hmoved ⟨rfl, rfl, rfl, rfl, rfl, rfl⟩ rfl
  | service =>
      obtain ⟨⟨t, news⟩, ht, h⟩ := Option.bind_eq_some_iff.1 h
      have hmoved := Moved.service_only (w := w) hrefl (unsignalled_of_process (x := t) ht)
      cases Track.looks_of_process ht with
      | failed =>
          obtain rfl := Option.some.inj h
          exact .of_failed hmoved _
      | same =>
          obtain rfl := Option.some.inj h
          exact .of_moved hmoved
      | changed =>
          obtain rfl := Option.some.inj h
          exact .of_writes hmoved ⟨rfl, rfl, rfl, rfl, rfl, rfl⟩ rfl
  | upstream id =>
      obtain ⟨u, hu, h⟩ := Option.bind_eq_some_iff.1 h
      obtain ⟨⟨t, news⟩, ht, h⟩ := Option.bind_eq_some_iff.1 h
      have hunsignalled (t' : Track (List Mesh.Instance)) : u.track.Unsignalled t' :=
        unsignalled_of_process ht
      have hmoved : Moved Track.Unsignalled w (w.setWatch { u with track := t }) :=
        setWatch_moved hrefl hu (hunsignalled t)
      cases Track.looks_of_process ht with
      | failed =>
          obtain rfl := Option.some.inj h
          exact .of_failed hmoved _
      | same =>
          obtain rfl := Option.some.inj h
          exact .of_moved hmoved
      | changed a =>
          obtain rfl := Option.some.inj h
          exact looked_reportInstances hu hunsignalled rfl a.1

/-! ## Snapshots under way -/

/-- Whether the snapshots that are sent and held have a property. -/
structure UnderWay (P : Snapshot → Prop) (w : Watcher) : Prop where
  sending : ∀ x, w.publisher = .sending x → P x
  held : ∀ x, w.output.held = some x → P x

theorem underWay_start (P : Snapshot → Prop) (serviceId : String) (wait : Nat)
    (proxy : Except Mesh.Error String) (service : Except Mesh.Error Mesh.Service) :
    (start serviceId wait proxy service).UnderWay P := by
  cases proxy with
  | error e => exact ⟨nofun, nofun⟩
  | ok proxyId =>
      cases service with
      | error e => exact ⟨nofun, nofun⟩
      | ok s => exact ⟨nofun, nofun⟩

/-- **What holds of the snapshot of the state** comes to hold of what is sent and
    held. -/
theorem UnderWay.step {P : Snapshot → Prop} {e : Event} (h : w.UnderWay P) (hs : Steps w e w')
    (hx : ∀ x, w.snapshot? = some x → P x) : w'.UnderWay P := by
  cases hs with
  | quiet _ _ _ hm =>
      rw [hm.others]
      exact ⟨h.sending, h.held⟩
  | notify t v hv =>
      have hothers := (onTrack_moved (R := Track.Moves) Track.Moves.refl
        (fun _ _ => Track.moves_of_notify) hv).others
      rw [hothers]
      exact ⟨h.sending, h.held⟩
  | process t _ hp =>
      have hlooked := looked_of_process hp
      constructor
      · rw [hlooked.publisher]
        exact h.sending
      · rw [hlooked.output]
        exact h.held
  | pass => exact ⟨nofun, h.held⟩
  | drain => exact ⟨nofun, h.held⟩
  -- only here a snapshot is taken; it is sent later, and then held
  | build x _ hsnapshot =>
      refine ⟨fun y hy => ?_, h.held⟩
      rw [← Publisher.sending.inj hy]
      exact hx x hsnapshot
  | hold => exact ⟨nofun, h.held⟩
  | deliver x hp =>
      refine ⟨nofun, fun y hy => ?_⟩
      rw [← Option.some.inj hy]
      exact h.sending x hp
  | fail => exact ⟨nofun, h.held⟩
  | quit => exact ⟨nofun, h.held⟩
  | take => exact ⟨h.sending, nofun⟩
  | closeOutput => exact ⟨h.sending, nofun⟩
  | shutdown => exact ⟨h.sending, h.held⟩

end Watcher

end MeshSync.Watch
