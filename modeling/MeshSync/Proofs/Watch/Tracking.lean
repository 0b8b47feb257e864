import MeshSync.Proofs.Watch.Attending

/-! # Tracks and the ledger

    **`Tracked`** ties a watcher to the ledger of what it has looked at: the
    state is the one that the latest answers make, the cursors name them, and
    the current watches are the ones that are followed.  For the watches of
    upstreams that is `Attended`, with what a watch `Knows`.  Every step keeps
    it: moving on (`Tracked.moved`), looking at an answer (`Tracked.process`),
    and what concerns no track (`Tracked.aside`). -/

namespace MeshSync.Watch

namespace Track

variable {α : Type} {t t' : Track α} {news : News α} {start : Cursor}
  {latest : Option (Answer α)}

/-- A track that knows the latest answer, and lets others know only of one that
    there was. -/
def Accounts (start : Cursor) (latest : Option (Answer α)) (t : Track α) : Prop :=
  t.Tells start latest ∧ (t.Answered → latest ≠ none)

theorem Accounts.move (h : t.Accounts start latest) (hm : t.Moves t') :
    t'.Accounts start latest :=
  ⟨h.1.move hm, fun ha => h.2 (hm.answered ha)⟩

theorem accounts_new : (Track.new start true : Track α).Accounts start none := by
  refine ⟨.inl rfl, ?_⟩
  rintro (h | h | h)
  · exact nomatch h
  · exact nomatch h
  · exact nomatch h

/-- What looking at an answer teaches: nothing, what was known already, or
    something new. -/
inductive Learns (start : Cursor) (latest : Option (Answer α)) (t t' : Track α) :
    News α → Prop where
  | nothing (h : t.answer? = none) (ht : t'.Tells start latest)
      (ha : t'.Answered → t.awaited = false) : Learns start latest t t' .failed
  | again (a b : Answer α) (h : t.answer? = some a) (hb : latest = some b) (hab : b.1 = a.1)
      (ht : t'.Tells start (some a)) : Learns start latest t t' .same
  | anew (a : Answer α) (h : t.answer? = some a) (ht : t'.Tells start (some a)) :
      Learns start latest t t' (.changed a.1)

theorem Tells.learn (h : t.Tells start latest) (hs : start.reset = start)
    (ha : ∀ a, t.answer? = some a → Follows start latest a) (hp : t.process = some (t', news)) :
    Learns start latest t t' news := by
  have hlooks := looks_of_process hp
  have htells := h.look hs hlooks
  cases hlooks with
  | failed hnone =>
      rw [hnone] at htells
      refine .nothing hnone htells ?_
      rintro (hawaited | hstage | hstage)
      · exact hawaited
      · exact nomatch hstage
      · exact nomatch hstage
  | same a hanswer hc =>
      -- here it matters that an answer with the same cursor says the same
      obtain ⟨b, hb, hab⟩ := h.latest_of_same hc (ha a hanswer)
      rw [hanswer] at htells
      exact .again a b hanswer hb hab htells
  | changed a c hanswer =>
      rw [hanswer] at htells
      exact .anew a hanswer htells

theorem Tells.accounts {a : Answer α} (h : t.Tells start (some a)) : t.Accounts start (some a) :=
  ⟨h, fun _ => Option.some_ne_none a⟩

end Track

namespace Watcher

open Track (Moves)

variable {w w' : Watcher} {l : Ledger}

/-- A watcher and the ledger of what it has looked at.  A watch that has been
    told to stop need not know the latest answer. -/
structure Tracked (l : Ledger) (w : Watcher) : Prop where
  sound : l.Sound
  state : w.state = l.state
  caRoots : w.caRoots.Accounts (.index 0) l.caRoots
  leaf : w.leaf.Accounts (.index 0) l.leaf
  proxy : w.proxy.Accounts (.hash "") l.proxy
  service : w.service.Accounts (.hash "") l.service
  numbered : w.watches.map (·.id) = List.range l.started
  followed : ∀ name f, l.followed name = some f → ∃ u, w.watch? f.watch = some u ∧
    u.service = name ∧ u.cancelled = false ∧
    (w.stopping = false → u.track.Tells (.index 0) f.latest)
  watched : ∀ id u, w.watch? id = some u → u.cancelled = false →
    ∃ f, l.followed u.service = some f ∧ f.watch = id

/-- A watcher at its start follows the blank ledger. -/
theorem tracked_new (identity : Identity) (wait : Nat) : Tracked .blank (new identity wait) where
  sound := Ledger.sound_blank
  state := rfl
  caRoots := Track.accounts_new
  leaf := Track.accounts_new
  proxy := Track.accounts_new
  service := Track.accounts_new
  numbered := rfl
  followed _ _ hf := nomatch hf
  watched _ _ hu := nomatch hu

/-- A watch knows the latest answer that it got. -/
def Knows (f : Followed) (u : UpstreamWatch) : Prop := u.track.Tells (.index 0) f.latest

theorem Tracked.attended (h : Tracked l w) : Attended Knows l w :=
  ⟨h.sound, h.state, h.numbered, h.followed, h.watched⟩

theorem Attended.tracked (h : Attended Knows l w)
    (hcaRoots : w.caRoots.Accounts (.index 0) l.caRoots)
    (hleaf : w.leaf.Accounts (.index 0) l.leaf) (hproxy : w.proxy.Accounts (.hash "") l.proxy)
    (hservice : w.service.Accounts (.hash "") l.service) : Tracked l w :=
  ⟨h.sound, h.state, hcaRoots, hleaf, hproxy, hservice, h.numbered, h.followed, h.watched⟩

/-- What concerns no track changes nothing. -/
theorem Tracked.aside (h : Tracked l w) (hstate : w'.state = w.state)
    (hcaRoots : w'.caRoots = w.caRoots) (hleaf : w'.leaf = w.leaf) (hproxy : w'.proxy = w.proxy)
    (hservice : w'.service = w.service) (hwatches : w'.watches = w.watches)
    (hstopping : w'.stopping = false → w.stopping = false) : Tracked l w' :=
  (h.attended.aside hstate hwatches hstopping).tracked (hcaRoots ▸ h.caRoots) (hleaf ▸ h.leaf)
    (hproxy ▸ h.proxy) (hservice ▸ h.service)

/-- Tracks that move on learn nothing. -/
theorem Tracked.moved (h : Tracked l w) (hm : Moved Moves w w') : Tracked l w' :=
  (h.attended.moved (fun hmoves hknows => Track.Tells.move hknows hmoves) hm).tracked
    (h.caRoots.move hm.caRoots) (h.leaf.move hm.leaf) (h.proxy.move hm.proxy)
    (h.service.move hm.service)

/-! ## The four tracks -/

theorem Tracked.process_caRoots (h : Tracked l w)
    (ha : ∀ a, w.caRoots.answer? = some a → l.Admits (.caRoots a))
    (hp : w.process .caRoots = some w') :
    Tracked (l.hear? (w.caRoots.answer?.map .caRoots)) w' := by
  obtain ⟨⟨t, news⟩, ht, hp⟩ := Option.bind_eq_some_iff.1 hp
  cases h.caRoots.1.learn rfl ha ht with
  | nothing hnone htells hawaited =>
      obtain rfl := Option.some.inj hp
      rw [hnone]
      exact { h with caRoots := ⟨htells, fun ha => h.caRoots.2 (.inl (hawaited ha))⟩ }
  | again a b hanswer hb hab htells =>
      obtain rfl := Option.some.inj hp
      rw [hanswer]
      exact { h with
        state := h.state.trans (Ledger.state_hear_caRoots_same hb hab).symm
        caRoots := htells.accounts }
  | anew a hanswer htells =>
      obtain rfl := Option.some.inj hp
      rw [hanswer]
      exact { h with
        state := (congrArg (·.setRoots a.1) h.state).trans (Ledger.state_hear_caRoots _ a).symm
        caRoots := htells.accounts }

theorem Tracked.process_leaf (h : Tracked l w)
    (ha : ∀ a, w.leaf.answer? = some a → l.Admits (.leaf a))
    (hp : w.process .leaf = some w') :
    Tracked (l.hear? (w.leaf.answer?.map .leaf)) w' := by
  obtain ⟨⟨t, news⟩, ht, hp⟩ := Option.bind_eq_some_iff.1 hp
  cases h.leaf.1.learn rfl ha ht with
  | nothing hnone htells hawaited =>
      obtain rfl := Option.some.inj hp
      rw [hnone]
      exact { h with leaf := ⟨htells, fun ha => h.leaf.2 (.inl (hawaited ha))⟩ }
  | again a b hanswer hb hab htells =>
      obtain rfl := Option.some.inj hp
      rw [hanswer]
      exact { h with
        state := h.state.trans (Ledger.state_hear_leaf_same hb hab).symm
        leaf := htells.accounts }
  | anew a hanswer htells =>
      obtain rfl := Option.some.inj hp
      rw [hanswer]
      exact { h with
        state := (congrArg (·.setLeaf a.1) h.state).trans (Ledger.state_hear_leaf _ a).symm
        leaf := htells.accounts }

theorem Tracked.process_service (h : Tracked l w)
    (ha : ∀ a, w.service.answer? = some a → l.Admits (.service a))
    (hp : w.process .service = some w') :
    Tracked (l.hear? (w.service.answer?.map .service)) w' := by
  obtain ⟨⟨t, news⟩, ht, hp⟩ := Option.bind_eq_some_iff.1 hp
  cases h.service.1.learn rfl ha ht with
  | nothing hnone htells hawaited =>
      obtain rfl := Option.some.inj hp
      rw [hnone]
      exact { h with service := ⟨htells, fun ha => h.service.2 (.inl (hawaited ha))⟩ }
  | again a b hanswer hb hab htells =>
      obtain rfl := Option.some.inj hp
      rw [hanswer]
      exact { h with
        state := h.state.trans (Ledger.state_hear_service_same hb hab).symm
        service := htells.accounts }
  | anew a hanswer htells =>
      obtain rfl := Option.some.inj hp
      rw [hanswer]
      exact { h with
        state := (congrArg (·.setService a.1) h.state).trans (Ledger.state_hear_service _ a).symm
        service := htells.accounts }

/-! ## The definition of the sidecar -/

/-- **A new definition of the sidecar** is tracked. -/
theorem Tracked.redefine (h : Tracked l w) {a : Answer Mesh.Service} {t : Track Mesh.Service}
    (ht : t.Accounts (.hash "") (some a)) :
    Tracked (l.hear (.proxy a)) (({ w with proxy := t } : Watcher).redefine a.1) := by
  have hattended : Attended Knows l { w with proxy := t } :=
    h.attended.aside rfl rfl fun hs => hs
  exact (hattended.redefine (fun _ => .inl rfl) a).tracked h.caRoots h.leaf ht h.service

theorem Tracked.process_proxy (h : Tracked l w)
    (ha : ∀ a, w.proxy.answer? = some a → l.Admits (.proxy a))
    (hp : w.process .proxy = some w') : Tracked (l.hear? (w.proxy.answer?.map .proxy)) w' := by
  obtain ⟨⟨t, news⟩, ht, hp⟩ := Option.bind_eq_some_iff.1 hp
  cases h.proxy.1.learn rfl ha ht with
  | nothing hnone htells hawaited =>
      obtain rfl := Option.some.inj hp
      rw [hnone]
      exact { h with proxy := ⟨htells, fun ha => h.proxy.2 (.inl (hawaited ha))⟩ }
  | again a b hanswer hb hab htells =>
      obtain rfl := Option.some.inj hp
      have hsound := h.sound.hear (.proxy a)
      have hstate := Ledger.state_hear_proxy_same h.sound hb hab
      -- the state is not written, so the ledger must not change either
      rw [Ledger.hear_proxy_same h.sound hb hab] at hsound hstate
      rw [hanswer]
      show Tracked (l.hear (.proxy a)) _
      rw [Ledger.hear_proxy_same h.sound hb hab]
      exact { h with
        sound := hsound
        state := h.state.trans hstate.symm
        proxy := htells.accounts }
  | anew a hanswer htells =>
      obtain rfl := Option.some.inj hp
      rw [hanswer]
      exact h.redefine htells.accounts

/-! ## The watches of upstreams -/

/-- What a watch that has stopped, or will, gets is not heard by the ledger. -/
theorem Tracked.hear?_stopped (h : Tracked l w) {id : WatchId} {u : UpstreamWatch}
    (hu : w.watch? id = some u) (hstop : w.stopping = true ∨ u.cancelled = true) :
    l.hear? (heard? (w, .process (.upstream id))) = l := by
  rw [heard?, hu]
  rcases hstop with hstopping | hcancelled
  · rw [if_pos hstopping]
    rfl
  · split
    · rfl
    · rw [Option.bind_some]
      cases u.track.answer? with
      | none => rfl
      | some a =>
          have hunfollowed := h.attended.unfollowed_of_cancelled hu hcancelled
          exact Ledger.hear_instances_of_unfollowed hunfollowed

/-- A watch that has stopped, or will, changes nothing. -/
theorem Tracked.process_stopped (h : Tracked l w) {id : WatchId} {u : UpstreamWatch}
    (hu : w.watch? id = some u) (hstop : w.stopping = true ∨ u.cancelled = true)
    (hp : w.process (.upstream id) = some w') : Tracked l w' := by
  obtain ⟨hcaRoots, hleaf, hproxy, hservice⟩ := tracks_of_process hp
  exact (h.attended.process_stopped hu hstop hp).tracked (hcaRoots ▸ h.caRoots)
    (hleaf ▸ h.leaf) (hproxy ▸ h.proxy) (hservice ▸ h.service)

/-- A current watch knows what it got, and the ledger hears of it. -/
theorem Attended.process_going (h : Attended Knows l w) {id : WatchId} {u : UpstreamWatch}
    (hu : w.watch? id = some u) (hgoing : w.stopping = false) (hcurrent : u.cancelled = false)
    (ha : ∀ a, u.track.answer? = some a → l.Admits (.instances id a))
    (hp : w.process (.upstream id) = some w') :
    Attended Knows (l.hear? (u.track.answer?.map (.instances id))) w' := by
  obtain ⟨v, hv, hp⟩ := Option.bind_eq_some_iff.1 hp
  obtain rfl := Option.some.inj (hu.symm.trans hv)
  obtain ⟨⟨t, news⟩, ht, hp⟩ := Option.bind_eq_some_iff.1 hp
  -- a watch that goes on is followed, under one name only
  obtain ⟨f, hf, hid⟩ := h.watched id u hu hcurrent
  obtain ⟨v, hv, -, -, htells⟩ := h.followed u.service f hf
  rw [hid] at hv
  obtain rfl := Option.some.inj (hu.symm.trans hv)
  have honly (name : String) (f' : Followed) (hf' : l.followed name = some f')
      (hid' : f'.watch = id) : f' = f := by
    obtain rfl := h.name_unique hf hf' (hid'.trans hid.symm)
    exact (Option.some.inj (hf.symm.trans hf')).symm
  cases (htells hgoing).learn rfl (fun a hanswer => ha a hanswer _ f hf hid) ht with
  | nothing hnone htells =>
      obtain rfl := Option.some.inj hp
      rw [hnone]
      have hset : Attended Knows l (w.setWatch { u with track := t }) := by
        refine h.setWatch_same hu fun name f' hf' hid' _ => ?_
        rw [honly name f' hf' hid']
        exact htells
      exact hset.aside rfl rfl fun hs => hs
  | again a b hanswer hb hab htells =>
      obtain rfl := Option.some.inj hp
      rw [hanswer]
      refine h.setWatch_report hu (h.state.trans ?_) fun _ _ _ _ _ => htells
      refine (Ledger.state_hear_instances_same h.sound fun name f' hf' hid' => ?_).symm
      rw [honly name f' hf' hid']
      exact ⟨b, hb, hab⟩
  | anew a hanswer htells =>
      obtain rfl := Option.some.inj hp
      rw [hanswer]
      exact h.reportInstances hu hgoing hcurrent fun _ _ _ _ => htells

/-- What a current watch of an upstream found is heard, and the ledger is
    followed. -/
theorem Tracked.process_going (h : Tracked l w) {id : WatchId} {u : UpstreamWatch}
    (hu : w.watch? id = some u) (hgoing : w.stopping = false) (hcurrent : u.cancelled = false)
    (ha : ∀ a, u.track.answer? = some a → l.Admits (.instances id a))
    (hp : w.process (.upstream id) = some w') :
    Tracked (l.hear? (u.track.answer?.map (.instances id))) w' := by
  obtain ⟨hcaRoots, hleaf, hproxy, hservice⟩ := tracks_of_process hp
  have hattended := h.attended.process_going hu hgoing hcurrent ha hp
  -- the ledger hears of the watch alone
  generalize u.track.answer? = answer at hattended ⊢
  cases answer with
  | none =>
      exact hattended.tracked (hcaRoots ▸ h.caRoots) (hleaf ▸ h.leaf) (hproxy ▸ h.proxy)
        (hservice ▸ h.service)
  | some a =>
      exact hattended.tracked (hcaRoots ▸ h.caRoots) (hleaf ▸ h.leaf) (hproxy ▸ h.proxy)
        (hservice ▸ h.service)

/-- **Looking at an answer** keeps a watcher and its ledger together. -/
theorem Tracked.process (h : Tracked l w) {t : TrackId}
    (ha : ∀ x, heard? (w, .process t) = some x → l.Admits x) (hp : w.process t = some w') :
    Tracked (l.hear? (heard? (w, .process t))) w' := by
  cases t with
  | caRoots =>
      exact h.process_caRoots (fun a hanswer => ha _ (by rw [heard?, hanswer]; rfl)) hp
  | leaf =>
      exact h.process_leaf (fun a hanswer => ha _ (by rw [heard?, hanswer]; rfl)) hp
  | proxy =>
      exact h.process_proxy (fun a hanswer => ha _ (by rw [heard?, hanswer]; rfl)) hp
  | service =>
      exact h.process_service (fun a hanswer => ha _ (by rw [heard?, hanswer]; rfl)) hp
  | upstream id =>
      obtain ⟨u, hu, -⟩ := Option.bind_eq_some_iff.1 hp
      -- the ledger hears only of watches that go on
      by_cases hstop : w.stopping = true ∨ u.cancelled = true
      · rw [h.hear?_stopped hu hstop]
        exact h.process_stopped hu hstop hp
      · rw [not_or, Bool.not_eq_true, Bool.not_eq_true] at hstop
        have hheard : heard? (w, .process (.upstream id)) =
            u.track.answer?.map (.instances id) := by
          rw [heard?, hu, hstop.1]
          rfl
        rw [hheard]
        refine h.process_going hu hstop.1 hstop.2 (fun a hanswer => ha _ ?_) hp
        rw [hheard, hanswer]
        rfl

/-! ## All steps -/

/-- At a quiet event nothing is heard. -/
theorem heard?_of_quiet {e : Event} (he : e.quiet = true) : heard? (w, e) = none := by
  cases e with
  | process t => exact nomatch he
  | _ => rfl

/-- **Every step** keeps a watcher and its ledger together. -/
theorem Tracked.step (h : Tracked l w) {e : Event} (hs : Steps w e w')
    (ha : ∀ x, heard? (w, e) = some x → l.Admits x) : Tracked (l.hear? (heard? (w, e))) w' := by
  cases hs with
  | quiet _ _ he hm =>
      rw [heard?_of_quiet he]
      exact h.moved (hm.mono fun _ _ hp => hp.1)
  | notify t v hv =>
      have hmoved : Moved Moves w v :=
        onTrack_moved Track.Moves.refl (fun _ _ => Track.moves_of_notify) hv
      exact (h.moved hmoved).aside rfl rfl rfl rfl rfl rfl fun hs => hs
  | process t _ hp => exact h.process ha hp
  | pass => exact h.aside rfl rfl rfl rfl rfl rfl fun hs => hs
  | drain => exact h.aside rfl rfl rfl rfl rfl rfl fun hs => hs
  | build => exact h.aside rfl rfl rfl rfl rfl rfl fun hs => hs
  | hold => exact h.aside rfl rfl rfl rfl rfl rfl fun hs => hs
  | deliver => exact h.aside rfl rfl rfl rfl rfl rfl fun hs => hs
  | take => exact h.aside rfl rfl rfl rfl rfl rfl fun hs => hs
  | closeOutput => exact h.aside rfl rfl rfl rfl rfl rfl fun hs => hs
  | fail => exact h.aside rfl rfl rfl rfl rfl rfl fun hs => (nomatch hs)
  | quit => exact h.aside rfl rfl rfl rfl rfl rfl fun hs => (nomatch hs)
  | shutdown => exact h.aside rfl rfl rfl rfl rfl rfl fun hs => (nomatch hs)

end Watcher

end MeshSync.Watch
