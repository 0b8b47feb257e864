import MeshSync.Proofs.Watch.Attending

/-! # What is new

    Tracks write what they find new, whatever the answers say and in whatever
    order they come.  The ledger of those answers alone therefore makes the
    state, with nothing to be assumed of the answers, and its current watches
    are at work (`Lives`).

    * `learned` - the answers of a run that a track found new.
    * **`Attended.learn`** - the step lemma, with one lemma for the events by
      which tracks move on (`Attended.quiet`) and one for looking at an answer
      (`Attended.process`).
    * `attended_of_run` - the run lemma. -/

namespace MeshSync.Watch

namespace Track

variable {α : Type} {t t' : Track α} {news : News α}

/-- The answer that a track is about to look at, if it will find it new. -/
def news? (t : Track α) : Option (Answer α) :=
  t.answer?.filter fun a => (t.cursor.advance a.2).2

/-- What a track finds when it looks at its answer. -/
inductive Finds (t : Track α) : News α → Prop where
  | failed (h : t.news? = none) : Finds t .failed
  | same (h : t.news? = none) : Finds t .same
  | changed (a : Answer α) (h : t.news? = some a) : Finds t (.changed a.1)

theorem finds_of_process (h : t.process = some (t', news)) :
    t.Finds news ∧ t'.stage ≠ .stopped := by
  obtain ⟨cursor, phase, awaited⟩ := t
  cases phase with
  | received reply =>
      cases reply with
      | error e =>
          obtain ⟨rfl, rfl⟩ := Prod.mk.inj (Option.some.inj h)
          exact ⟨.failed rfl, Stage.noConfusion⟩
      | ok a =>
          have hnews : news? ⟨cursor, .received (.ok a), awaited⟩ =
              if (cursor.advance a.2).2 then some a else none := rfl
          cases hnew : (cursor.advance a.2).2 with
          | false =>
              simp only [process, hnew, Bool.false_eq_true, if_false, Option.some.injEq,
                Prod.mk.injEq] at h
              obtain ⟨rfl, rfl⟩ := h
              rw [hnew, if_neg Bool.noConfusion] at hnews
              exact ⟨.same hnews, Stage.noConfusion⟩
          | true =>
              simp only [process, hnew, if_true, Option.some.injEq, Prod.mk.injEq] at h
              obtain ⟨rfl, rfl⟩ := h
              rw [hnew, if_pos rfl] at hnews
              exact ⟨.changed a hnews, Stage.noConfusion⟩
  | asking => cases h
  | waiting => cases h
  | written => cases h
  | settled => cases h
  | pausing => cases h
  | stopped => cases h

/-- A track that moves on and does not stop. -/
def Lasts (t t' : Track α) : Prop := t.stage ≠ .stopped → t'.stage ≠ .stopped

theorem Lasts.refl (t : Track α) : t.Lasts t := id

theorem lasts_of_ask (h : t.ask = some t') : t.Lasts t' := by
  obtain ⟨-, rfl⟩ := ask_eq h
  exact fun _ => Stage.noConfusion

theorem lasts_of_receive {r : Reply α} (h : t.receive r = some t') : t.Lasts t' := by
  obtain ⟨-, rfl⟩ := receive_eq h
  exact fun _ => Stage.noConfusion

theorem lasts_of_notify (h : t.notify = some t') : t.Lasts t' := by
  obtain ⟨-, rfl⟩ := notify_eq h
  exact fun _ => Stage.noConfusion

theorem lasts_of_arrive (h : t.arrive = some t') : t.Lasts t' := by
  obtain ⟨-, rfl⟩ := arrive_eq h
  exact fun _ => Stage.noConfusion

theorem lasts_of_wake (h : t.wake = some t') : t.Lasts t' := by
  obtain ⟨-, rfl⟩ := wake_eq h
  exact fun _ => Stage.noConfusion

end Track

namespace Watcher

open Track (Lasts)

variable {first w w' : Watcher} {l l' : Ledger} {e : Event} {es : List Event}
  {P : Followed → UpstreamWatch → Prop}

/-- The answer that is found new in an event.  When everything has been told to
    stop, the watch of an upstream stops without looking. -/
def learned? : Watcher × Event → Option Heard
  | (w, .process .caRoots) => w.caRoots.news?.map .caRoots
  | (w, .process .leaf) => w.leaf.news?.map .leaf
  | (w, .process .proxy) => w.proxy.news?.map .proxy
  | (w, .process .service) => w.service.news?.map .service
  | (w, .process (.upstream id)) =>
    if w.stopping then none
    else (w.watch? id).bind fun u => u.track.news?.map (.instances id)
  | _ => none

/-- The answers of a run that are found new, in order. -/
def learned (w : Watcher) (es : List Event) : List Heard := (w.moments es).filterMap learned?

theorem learned_append (h : w.run es = some w') (fs : List Event) :
    w.learned (es ++ fs) = w.learned es ++ w'.learned fs := by
  rw [learned, moments_append h, List.filterMap_append]
  rfl

theorem learned_snoc (h : first.run es = some w) (e : Event) :
    first.learned (es ++ [e]) = first.learned es ++ (learned? (w, e)).toList := by
  rw [learned, moments_snoc h, List.filterMap_append, learned]
  cases hx : learned? (w, e) <;> simp [hx]

/-- A current watch follows its upstream where that is declared, and has not
    stopped. -/
structure Lives (f : Followed) (u : UpstreamWatch) : Prop where
  datacenter : u.datacenter = f.datacenter
  stage : u.track.stage ≠ .stopped

theorem Lives.lasts {f : Followed} {u : UpstreamWatch} {t : Track (List Mesh.Instance)}
    (ht : u.track.Lasts t) (h : Lives f u) : Lives f { u with track := t } :=
  ⟨h.datacenter, ht h.stage⟩

/-! ## Moving on -/

/-- What holds of a current watch. -/
theorem Attended.holds (h : Attended P l w) {id : WatchId} {u : UpstreamWatch}
    (hu : w.watch? id = some u) {name : String} {f : Followed} (hf : l.followed name = some f)
    (hid : f.watch = id) (hgoing : w.stopping = false) : P f u := by
  obtain ⟨v, hv, -, -, hP⟩ := h.followed name f hf
  rw [hid] at hv
  obtain rfl := Option.some.inj (hu.symm.trans hv)
  exact hP hgoing

/-- A watch stops by itself only where it was told to. -/
theorem Attended.stop (h : Attended P l w) {t : TrackId} (hs : w.step (.stop t) = some w') :
    Attended P l w' := by
  rw [step] at hs
  split at hs
  · next hcancelled =>
      cases t with
      | caRoots =>
          obtain ⟨t, -, rfl⟩ := Option.map_eq_some_iff.1 hs
          exact h.aside rfl rfl fun hs => hs
      | leaf =>
          obtain ⟨t, -, rfl⟩ := Option.map_eq_some_iff.1 hs
          exact h.aside rfl rfl fun hs => hs
      | proxy =>
          obtain ⟨t, -, rfl⟩ := Option.map_eq_some_iff.1 hs
          exact h.aside rfl rfl fun hs => hs
      | service =>
          obtain ⟨t, -, rfl⟩ := Option.map_eq_some_iff.1 hs
          exact h.aside rfl rfl fun hs => hs
      | upstream id =>
          obtain ⟨u, hu, hs⟩ := Option.bind_eq_some_iff.1 hs
          obtain ⟨t, -, hs⟩ := Option.bind_eq_some_iff.1 hs
          obtain rfl := Option.some.inj hs
          rw [isCancelled, hu] at hcancelled
          exact h.setWatch_stopped hu (by simpa using hcancelled) t
  · cases hs

/-- Tracks that move on leave current watches at work. -/
theorem Attended.quiet (h : Attended Lives l w) (he : e.quiet = true)
    (hs : w.step e = some w') : Attended Lives l w' := by
  have moved {w' : Watcher} (hm : Moved Lasts w w') : Attended Lives l w' :=
    h.moved Lives.lasts hm
  cases e with
  | ask t => exact moved (onTrack_moved Lasts.refl (fun _ _ => Track.lasts_of_ask) hs)
  | arrive t => exact moved (onTrack_moved Lasts.refl (fun _ _ => Track.lasts_of_arrive) hs)
  | wake t => exact moved (onTrack_moved Lasts.refl (fun _ _ => Track.lasts_of_wake) hs)
  | upstreamReply id r =>
      exact moved (onWatch_moved Lasts.refl (fun _ _ => Track.lasts_of_receive) hs)
  | stop t => exact h.stop hs
  | caRootsReply r =>
      obtain ⟨t, -, rfl⟩ := Option.map_eq_some_iff.1 hs
      exact h.aside rfl rfl fun hs => hs
  | leafReply r =>
      obtain ⟨t, -, rfl⟩ := Option.map_eq_some_iff.1 hs
      exact h.aside rfl rfl fun hs => hs
  | proxyReply r =>
      obtain ⟨t, -, rfl⟩ := Option.map_eq_some_iff.1 hs
      exact h.aside rfl rfl fun hs => hs
  | serviceReply r =>
      obtain ⟨t, -, rfl⟩ := Option.map_eq_some_iff.1 hs
      exact h.aside rfl rfl fun hs => hs
  | _ => exact nomatch he

/-! ## Looking at answers -/

/-- A definition of the sidecar is written if it is new. -/
theorem Attended.learn_proxy (h : Attended Lives l w) (hp : w.process .proxy = some w') :
    Attended Lives (l.hear? (w.proxy.news?.map .proxy)) w' := by
  obtain ⟨⟨t, news⟩, ht, hp⟩ := Option.bind_eq_some_iff.1 hp
  cases (Track.finds_of_process ht).1 with
  | failed hnone =>
      obtain rfl := Option.some.inj hp
      rw [hnone]
      exact h.aside rfl rfl fun hs => hs
  | same hnone =>
      obtain rfl := Option.some.inj hp
      rw [hnone]
      exact h.aside rfl rfl fun hs => hs
  | changed a hnews =>
      obtain rfl := Option.some.inj hp
      rw [hnews]
      have hattended : Attended Lives l { w with proxy := t } := h.aside rfl rfl fun hs => hs
      exact hattended.redefine (fun _ => ⟨rfl, Stage.noConfusion⟩) a

/-- The instances of an upstream are written if they are new. -/
theorem Attended.learn_instances (h : Attended Lives l w) {id : WatchId} {u : UpstreamWatch}
    (hu : w.watch? id = some u) (hgoing : w.stopping = false) (hcurrent : u.cancelled = false)
    (hp : w.process (.upstream id) = some w') :
    Attended Lives (l.hear? (u.track.news?.map (.instances id))) w' := by
  obtain ⟨v, hv, hp⟩ := Option.bind_eq_some_iff.1 hp
  obtain rfl := Option.some.inj (hu.symm.trans hv)
  obtain ⟨⟨t, news⟩, ht, hp⟩ := Option.bind_eq_some_iff.1 hp
  obtain ⟨hfinds, hstage⟩ := Track.finds_of_process ht
  have hself (name : String) (f : Followed) (hf : l.followed name = some f)
      (hid : f.watch = id) : Lives f { u with track := t } :=
    ⟨(h.holds hu hf hid hgoing).datacenter, hstage⟩
  have hset := h.setWatch_same hu fun name f hf hid _ => hself name f hf hid
  cases hfinds with
  | failed hnone =>
      obtain rfl := Option.some.inj hp
      rw [hnone]
      exact hset.aside rfl rfl fun hs => hs
  | same hnone =>
      obtain rfl := Option.some.inj hp
      rw [hnone]
      exact hset
  | changed a hnews =>
      obtain rfl := Option.some.inj hp
      rw [hnews]
      exact h.reportInstances hu hgoing hcurrent fun name f hf hid =>
        ⟨(hself name f hf hid).datacenter, hstage⟩

/-- What a watch that has stopped, or will, finds is not learned. -/
theorem Attended.hear?_stopped (h : Attended P l w) {id : WatchId} {u : UpstreamWatch}
    (hu : w.watch? id = some u) (hstop : w.stopping = true ∨ u.cancelled = true) :
    l.hear? (learned? (w, .process (.upstream id))) = l := by
  rw [learned?, hu]
  rcases hstop with hstopping | hcancelled
  · rw [if_pos hstopping]
    rfl
  · split
    · rfl
    · rw [Option.bind_some]
      cases u.track.news? with
      | none => rfl
      | some a =>
          exact Ledger.hear_instances_of_unfollowed (h.unfollowed_of_cancelled hu hcancelled)

/-- **What is new is written**, unless the watch that found it was cancelled. -/
theorem Attended.process (h : Attended Lives l w) {t : TrackId} (hp : w.process t = some w') :
    Attended Lives (l.hear? (learned? (w, .process t))) w' := by
  cases t with
  | caRoots =>
      obtain ⟨⟨t, news⟩, ht, hp⟩ := Option.bind_eq_some_iff.1 hp
      rw [learned?]
      cases (Track.finds_of_process ht).1 with
      | failed hnone =>
          obtain rfl := Option.some.inj hp
          rw [hnone]
          exact h.aside rfl rfl fun hs => hs
      | same hnone =>
          obtain rfl := Option.some.inj hp
          rw [hnone]
          exact h.aside rfl rfl fun hs => hs
      | changed a hnews =>
          obtain rfl := Option.some.inj hp
          rw [hnews]
          exact { h with state :=
            (congrArg (·.setRoots a.1) h.state).trans (Ledger.state_hear_caRoots _ a).symm }
  | leaf =>
      obtain ⟨⟨t, news⟩, ht, hp⟩ := Option.bind_eq_some_iff.1 hp
      rw [learned?]
      cases (Track.finds_of_process ht).1 with
      | failed hnone =>
          obtain rfl := Option.some.inj hp
          rw [hnone]
          exact h.aside rfl rfl fun hs => hs
      | same hnone =>
          obtain rfl := Option.some.inj hp
          rw [hnone]
          exact h.aside rfl rfl fun hs => hs
      | changed a hnews =>
          obtain rfl := Option.some.inj hp
          rw [hnews]
          exact { h with state :=
            (congrArg (·.setLeaf a.1) h.state).trans (Ledger.state_hear_leaf _ a).symm }
  | service =>
      obtain ⟨⟨t, news⟩, ht, hp⟩ := Option.bind_eq_some_iff.1 hp
      rw [learned?]
      cases (Track.finds_of_process ht).1 with
      | failed hnone =>
          obtain rfl := Option.some.inj hp
          rw [hnone]
          exact h.aside rfl rfl fun hs => hs
      | same hnone =>
          obtain rfl := Option.some.inj hp
          rw [hnone]
          exact h.aside rfl rfl fun hs => hs
      | changed a hnews =>
          obtain rfl := Option.some.inj hp
          rw [hnews]
          exact { h with state :=
            (congrArg (·.setService a.1) h.state).trans (Ledger.state_hear_service _ a).symm }
  -- a new definition also starts and cancels watches
  | proxy => exact h.learn_proxy hp
  | upstream id =>
      obtain ⟨u, hu, -⟩ := Option.bind_eq_some_iff.1 hp
      -- a watch that is to stop drops what it found
      by_cases hstop : w.stopping = true ∨ u.cancelled = true
      · rw [h.hear?_stopped hu hstop]
        exact h.process_stopped hu hstop hp
      · rw [not_or, Bool.not_eq_true, Bool.not_eq_true] at hstop
        have hlearned : learned? (w, .process (.upstream id)) =
            u.track.news?.map (.instances id) := by
          rw [learned?, hu, hstop.1]
          rfl
        rw [hlearned]
        exact h.learn_instances hu hstop.1 hstop.2 hp

/-! ## All steps -/

theorem learned?_of_quiet (he : e.quiet = true) : learned? (w, e) = none := by
  cases e with
  | process t => exact nomatch he
  | _ => rfl

/-- **Every step** leaves the watches attended to. -/
theorem Attended.learn (h : Attended Lives l w) (hs : w.step e = some w') :
    Attended Lives (l.hear? (learned? (w, e))) w' := by
  cases steps_of_step hs with
  | quiet _ _ he =>
      rw [learned?_of_quiet he]
      exact h.quiet he hs
  | notify t v hv =>
      have hmoved : Moved Lasts w v :=
        onTrack_moved Lasts.refl (fun _ _ => Track.lasts_of_notify) hv
      exact (h.moved Lives.lasts hmoved).aside rfl rfl fun hs => hs
  | process t _ hp => exact h.process hp
  | pass => exact h.aside rfl rfl fun hs => hs
  | drain => exact h.aside rfl rfl fun hs => hs
  | build => exact h.aside rfl rfl fun hs => hs
  | hold => exact h.aside rfl rfl fun hs => hs
  | deliver => exact h.aside rfl rfl fun hs => hs
  | take => exact h.aside rfl rfl fun hs => hs
  | closeOutput => exact h.aside rfl rfl fun hs => hs
  | fail => exact h.aside rfl rfl fun hs => (nomatch hs)
  | quit => exact h.aside rfl rfl fun hs => (nomatch hs)
  | shutdown => exact h.aside rfl rfl fun hs => (nomatch hs)

theorem attended_start (serviceId : String) (wait : Nat) (proxy : Except Mesh.Error String)
    (service : Except Mesh.Error Mesh.Service) :
    Attended P .blank (start serviceId wait proxy service) := by
  cases proxy with
  | error error =>
      exact (attended_new ⟨serviceId, "", ""⟩ wait).aside rfl rfl fun hs => (nomatch hs)
  | ok proxyId =>
      cases service with
      | error error =>
          exact (attended_new ⟨serviceId, "", proxyId⟩ wait).aside rfl rfl fun hs => (nomatch hs)
      | ok s => exact attended_new _ wait

/-- **After every run** the ledger of what is new makes the state, and the
    watches that are not cancelled are the current ones, at work. -/
theorem attended_of_run {serviceId : String} {wait : Nat} {proxy : Except Mesh.Error String}
    {service : Except Mesh.Error Mesh.Service}
    (h : (start serviceId wait proxy service).run es = some w) :
    Attended Lives (.after ((start serviceId wait proxy service).learned es)) w := by
  refine run_induction (P := fun es w => Attended Lives (.after (learned _ es)) w)
    (attended_start _ _ _ _) ?_ h
  intro es v e v' hv ih hstep
  have hattended := ih.learn hstep
  rw [learned_snoc hv]
  cases hx : learned? (v, e) with
  | none =>
      rw [hx] at hattended
      rw [Option.toList_none, List.append_nil]
      exact hattended
  | some x =>
      rw [hx] at hattended
      rw [Option.toList_some, Ledger.after_snoc]
      exact hattended

end Watcher

end MeshSync.Watch
