import Mathlib.Data.List.ReduceOption
import MeshSync.Proofs.Watch.Looking

/-! # Signals that collapse

    Nothing is lost by a signal that finds another one pending.  The route:

    * `outcomes`, `sent`, `received` - what became of signals and snapshots in
      a run.
    * **`Coalesced`** - the invariant: a state that is newer than the last
      snapshot taken has a change not yet signalled, a signal not yet taken, or
      a publisher about to take its snapshot.
    * **`coalescing_loses_nothing`** - order, count, and the last snapshot at
      rest. -/

namespace MeshSync.Watch

namespace Watcher

variable {w w' : Watcher} {e : Event} {ms : List (Watcher × Event)}

/-- The snapshot that the publisher is sending. -/
def onItsWay? (w : Watcher) : Option Snapshot :=
  match w.publisher with
  | .sending s => some s
  | _ => none

/-- How many signals the publisher has taken without having looked at the state. -/
def owed (w : Watcher) : Nat :=
  match w.publisher with
  | .drained => 1
  | _ => 0

/-- What the publisher got when it took a snapshot. -/
def outcome? : Watcher × Event → Option (Option Snapshot)
  | (w, .build) => some w.snapshot?
  | _ => none

/-- The snapshot that was put into the output. -/
def sent? : Watcher × Event → Option Snapshot
  | (w, .deliver) => w.onItsWay?
  | _ => none

/-- The snapshot that was taken out of the output. -/
def received? : Watcher × Event → Option Snapshot
  | (w, .take) => w.output.held
  | _ => none

/-- Whether a signal was taken. -/
def isDrain : Watcher × Event → Bool
  | (_, .drain) => true
  | _ => false

/-- What the signals of a run came to, in the order of the states in which the
    publisher looked. -/
def outcomes (ms : List (Watcher × Event)) : List (Option Snapshot) := ms.filterMap outcome?

/-- The snapshots that were put into the output. -/
def sent (ms : List (Watcher × Event)) : List Snapshot := ms.filterMap sent?

/-- The snapshots that were taken out of the output. -/
def received (ms : List (Watcher × Event)) : List Snapshot := ms.filterMap received?

/-- Whether the watcher goes on and somebody may take what it sends. -/
def Live (w : Watcher) : Prop := w.stopping = false ∧ w.output.isOpen = true

/-- The publisher waits for a signal, there is none, and no track has one to
    give. -/
structure AtRest (w : Watcher) : Prop where
  listening : w.publisher = .listening
  silent : w.signal = false
  signalled : ∀ t, w.stage? t ≠ some .written

/-- There is no snapshot only while no leaf is known. -/
theorem snapshot?_eq_none_iff (w : Watcher) : w.snapshot? = none ↔ w.state.leaf = none := by
  rw [snapshot?, State.snapshot?, Option.map_eq_none_iff, State.tls?, Option.map_eq_none_iff]

/-! ## The invariant -/

/-- What a run has come to so far.  A state from which the last snapshot was not
    taken has a change that is not signalled, or a signal that is not taken, or
    a publisher that is about to look. -/
structure Coalesced (ms : List (Watcher × Event)) (w : Watcher) : Prop where
  ordered : (outcomes ms).reduceOption = sent ms ++ w.onItsWay?.toList
  received : sent ms = received ms ++ w.output.held.toList
  counted : ms.countP isDrain = (outcomes ms).length + w.owed
  current : ∀ s, w.snapshot? = some s → (outcomes ms).getLast? = some (some s) ∨
    w.owed = 1 ∨ w.signal = true ∨ ∃ t, w.stage? t = some .written
  going : w.result? = none

/-- An event that neither takes a signal nor a snapshot nor hands one over. -/
structure Silent (m : Watcher × Event) : Prop where
  outcome : outcome? m = none
  sent : sent? m = none
  received : received? m = none
  drain : isDrain m = false

/-- A quiet event is silent. -/
theorem silent_of_quiet (he : e.quiet = true) : Silent (w, e) := by
  cases e with
  | process t => exact nomatch he
  | notify t => exact nomatch he
  | pass => exact nomatch he
  | drain => exact nomatch he
  | build => exact nomatch he
  | deliver => exact nomatch he
  | fail => exact nomatch he
  | quit => exact nomatch he
  | take => exact nomatch he
  | closeOutput => exact nomatch he
  | shutdown => exact nomatch he
  | _ => exact ⟨rfl, rfl, rfl, rfl⟩

/-- One more event, and what it came to, if anything. -/
theorem outcomes_snoc (ms : List (Watcher × Event)) (m : Watcher × Event) :
    outcomes (ms ++ [m]) = outcomes ms ++ (outcome? m).toList := by
  rw [outcomes, List.filterMap_append, outcomes]
  cases h : outcome? m <;> simp [h]

/-- One more event, and what it sent, if anything. -/
theorem sent_snoc (ms : List (Watcher × Event)) (m : Watcher × Event) :
    sent (ms ++ [m]) = sent ms ++ (sent? m).toList := by
  rw [sent, List.filterMap_append, sent]
  cases h : sent? m <;> simp [h]

/-- One more event, and what was taken in it, if anything. -/
theorem received_snoc (ms : List (Watcher × Event)) (m : Watcher × Event) :
    received (ms ++ [m]) = received ms ++ (received? m).toList := by
  rw [received, List.filterMap_append, received]
  cases h : received? m <;> simp [h]

/-- What holds after a silent event, if the publisher then has as much to do as
    before. -/
theorem Coalesced.silent (h : Coalesced ms w) (he : Silent (w, e)) (howed : w'.owed = w.owed)
    (hway : w'.onItsWay? = w.onItsWay?) (hresult : w'.result? = w.result?)
    (ho : w'.output = w.output)
    (hcurrent : ∀ s, w'.snapshot? = some s → (outcomes ms).getLast? = some (some s) ∨
      w.owed = 1 ∨ w'.signal = true ∨ ∃ t, w'.stage? t = some .written) :
    Coalesced (ms ++ [(w, e)]) w' := by
  have hout : outcomes (ms ++ [(w, e)]) = outcomes ms := by
    rw [outcomes_snoc, he.outcome, Option.toList_none, List.append_nil]
  have hsent : Watcher.sent (ms ++ [(w, e)]) = Watcher.sent ms := by
    rw [sent_snoc, he.sent, Option.toList_none, List.append_nil]
  refine ⟨?_, ?_, ?_, ?_, hresult.trans h.going⟩
  · rw [hout, hsent, hway]
    exact h.ordered
  · rw [hsent, received_snoc, he.received, Option.toList_none, List.append_nil, ho]
    exact h.received
  · rw [List.countP_append, hout, howed, List.countP_singleton, he.drain]
    exact h.counted
  · rw [hout, howed]
    exact hcurrent

/-- The same for an event that does not concern the publisher. -/
theorem Coalesced.aside (h : Coalesced ms w) (he : Silent (w, e))
    (hp : w'.publisher = w.publisher) (ho : w'.output = w.output)
    (hcurrent : ∀ s, w'.snapshot? = some s → (outcomes ms).getLast? = some (some s) ∨
      w.owed = 1 ∨ w'.signal = true ∨ ∃ t, w'.stage? t = some .written) :
    Coalesced (ms ++ [(w, e)]) w' := by
  have howed : w'.owed = w.owed := by rw [owed, hp, owed]
  have hway : w'.onItsWay? = w.onItsWay? := by rw [onItsWay?, hp, onItsWay?]
  have hresult : w'.result? = w.result? := by rw [result?, hp, result?]
  exact h.silent he howed hway hresult ho hcurrent

/-- Tracks that proceed signal nothing, and what they know stays signalled
    or not. -/
theorem Coalesced.quiet (h : Coalesced ms w) (he : e.quiet = true)
    (hm : Moved Track.Proceeds w w') : Coalesced (ms ++ [(w, e)]) w' := by
  have hothers := hm.others
  have hsnapshot : w'.snapshot? = w.snapshot? := by rw [hothers]; rfl
  have hsignal : w'.signal = w.signal := by rw [hothers]
  have hunsignalled : Moved Track.Unsignalled w w' := hm.mono fun _ _ hp => hp.2
  refine h.aside (silent_of_quiet he) (by rw [hothers]) (by rw [hothers]) fun s hs => ?_
  rcases h.current s (hsnapshot.symm.trans hs) with hlast | howed | hpending | ⟨t, ht⟩
  · exact .inl hlast
  · exact .inr (.inl howed)
  · exact .inr (.inr (.inl (hsignal.trans hpending)))
  · exact .inr (.inr (.inr ⟨t, hunsignalled.written ht⟩))

/-- A change that is signalled leaves a signal, of which one is enough. -/
theorem Coalesced.notify (h : Coalesced ms w) {t : TrackId} {v : Watcher}
    (hv : w.onTrack t Track.notify = some v) :
    Coalesced (ms ++ [(w, .notify t)]) { v with signal := v.result?.isNone } := by
  have hothers := (onTrack_moved (R := Track.Moves) Track.Moves.refl
    (fun _ _ => Track.moves_of_notify) hv).others
  have hp : v.publisher = w.publisher := by rw [hothers]
  have ho : v.output = w.output := by rw [hothers]
  have hgoing : v.result? = none := by
    rw [result?, hp]
    exact h.going
  -- the signal is pending now, whether it was before or not
  refine h.aside ⟨rfl, rfl, rfl, rfl⟩ hp ho fun s _ => .inr (.inr (.inl ?_))
  rw [hgoing]
  rfl

/-- **A change of the state** leaves its track with something to signal. -/
theorem Coalesced.process (h : Coalesced ms w) {t : TrackId} (hp : w.process t = some w') :
    Coalesced (ms ++ [(w, .process t)]) w' := by
  have hlooked := looked_of_process hp
  refine h.aside ⟨rfl, rfl, rfl, rfl⟩ hlooked.publisher hlooked.output fun s hs => ?_
  -- a state that was written has a change to signal; any other is as it was
  rcases hlooked.written with hwritten | ⟨hstate, hkept⟩
  · exact .inr (.inr (.inr ⟨t, hwritten⟩))
  · have hsnapshot : w'.snapshot? = w.snapshot? := by
      rw [snapshot?, hstate, hlooked.identity, snapshot?]
    rcases h.current s (hsnapshot.symm.trans hs) with hlast | howed | hpending | ⟨t', ht'⟩
    · exact .inl hlast
    · exact .inr (.inl howed)
    · exact .inr (.inr (.inl (hlooked.signal.trans hpending)))
    · exact .inr (.inr (.inr ⟨t', hkept t' ht'⟩))

/-- A signal that is taken obliges the publisher to look. -/
theorem Coalesced.drain (h : Coalesced ms w) (hp : w.publisher = .listening) :
    Coalesced (ms ++ [(w, .drain)]) { w with publisher := .drained, signal := false } := by
  obtain ⟨hordered, hreceived, hcounted, -, -⟩ := h
  rw [onItsWay?, hp] at hordered
  rw [owed, hp] at hcounted
  refine ⟨?_, ?_, ?_, fun s _ => .inr (.inl rfl), rfl⟩
  · rw [outcomes_snoc, sent_snoc]
    simpa [outcome?, sent?, onItsWay?] using hordered
  · rw [sent_snoc, received_snoc]
    simpa [sent?, received?] using hreceived
  · rw [outcomes_snoc, List.countP_append]
    simpa [outcome?, isDrain, owed] using hcounted

/-- A publisher that looks takes the present snapshot. -/
theorem Coalesced.build (h : Coalesced ms w) {s : Snapshot} (hp : w.publisher = .drained)
    (hs : w.snapshot? = some s) : Coalesced (ms ++ [(w, .build)])
      { w with publisher := .sending s, snapshots := w.snapshots + 1 } := by
  obtain ⟨hordered, hreceived, hcounted, -, -⟩ := h
  rw [onItsWay?, hp] at hordered
  rw [owed, hp] at hcounted
  have hout : outcomes (ms ++ [(w, .build)]) = outcomes ms ++ [some s] := by
    rw [outcomes_snoc, outcome?, hs]
    rfl
  refine ⟨?_, ?_, ?_, fun s' hs' => .inl ?_, rfl⟩
  · rw [hout, sent_snoc, List.reduceOption_append, hordered]
    simp [sent?, onItsWay?]
  · rw [sent_snoc, received_snoc]
    simpa [sent?, received?] using hreceived
  · rw [hout, List.countP_append, hcounted]
    simp [isDrain, owed]
  · have hsame : some s' = some s := hs'.symm.trans hs
    rw [hout, List.getLast?_concat, hsame]

/-- Where there is no leaf there is no snapshot to take. -/
theorem Coalesced.hold (h : Coalesced ms w) (hp : w.publisher = .drained)
    (hs : w.snapshot? = none) :
    Coalesced (ms ++ [(w, .build)]) { w with publisher := .listening } := by
  obtain ⟨hordered, hreceived, hcounted, -, -⟩ := h
  rw [onItsWay?, hp] at hordered
  rw [owed, hp] at hcounted
  have hout : outcomes (ms ++ [(w, .build)]) = outcomes ms ++ [none] := by
    rw [outcomes_snoc, outcome?, hs]
    rfl
  refine ⟨?_, ?_, ?_, fun s' hs' => ?_, rfl⟩
  · rw [hout, sent_snoc, List.reduceOption_append, hordered]
    simp [sent?, onItsWay?]
  · rw [sent_snoc, received_snoc]
    simpa [sent?, received?] using hreceived
  · rw [hout, List.countP_append, hcounted]
    simp [isDrain, owed]
  · exact nomatch hs.symm.trans hs'

/-- What is sent is what was taken last. -/
theorem Coalesced.deliver (h : Coalesced ms w) {s : Snapshot} (hp : w.publisher = .sending s)
    (hh : w.output.held = none) : Coalesced (ms ++ [(w, .deliver)])
      { w with publisher := .listening, output := { w.output with held := some s } } := by
  obtain ⟨hordered, hreceived, hcounted, hcurrent, -⟩ := h
  rw [onItsWay?, hp] at hordered
  rw [hh] at hreceived
  rw [owed, hp] at hcounted
  have hsent : Watcher.sent (ms ++ [(w, .deliver)]) = Watcher.sent ms ++ [s] := by
    rw [sent_snoc, sent?, onItsWay?, hp]
    rfl
  have hout : outcomes (ms ++ [(w, .deliver)]) = outcomes ms := by
    rw [outcomes_snoc]
    exact List.append_nil _
  refine ⟨?_, ?_, ?_, fun s' hs' => ?_, rfl⟩
  · rw [hout, hsent, hordered]
    simp [onItsWay?]
  · rw [hsent, received_snoc, hreceived]
    simp [received?]
  · rw [hout, List.countP_append, hcounted]
    simp [isDrain, owed]
  · rw [hout]
    rcases hcurrent s' hs' with hlast | howed | hpending
    · exact .inl hlast
    · -- a publisher that is sending owes nothing
      rw [owed, hp] at howed
      exact nomatch howed
    · exact .inr (.inr hpending)

/-- What is received is what was held. -/
theorem Coalesced.take (h : Coalesced ms w) {s : Snapshot} (hh : w.output.held = some s) :
    Coalesced (ms ++ [(w, .take)]) { w with output := { w.output with held := none } } := by
  obtain ⟨hordered, hreceived, hcounted, hcurrent, hgoing⟩ := h
  rw [hh] at hreceived
  have hout : outcomes (ms ++ [(w, .take)]) = outcomes ms := by
    rw [outcomes_snoc]
    exact List.append_nil _
  have hsent : Watcher.sent (ms ++ [(w, .take)]) = Watcher.sent ms := by
    rw [sent_snoc]
    exact List.append_nil _
  refine ⟨?_, ?_, ?_, ?_, hgoing⟩
  · rw [hout, hsent]
    exact hordered
  · rw [hsent, received_snoc, hreceived, received?, hh]
    simp
  · rw [hout, List.countP_append, hcounted]
    simp [isDrain, owed]
  · rw [hout]
    exact hcurrent

/-- Whoever goes on has been going on. -/
theorem Steps.live (h : Steps w e w') (hl : w'.Live) : w.Live := by
  cases h with
  | quiet _ _ _ hm =>
      have hothers := hm.others
      rw [Live, hothers] at hl
      exact hl
  | notify t v hv =>
      have hothers := (onTrack_moved (R := Track.Moves) Track.Moves.refl
        (fun _ _ => Track.moves_of_notify) hv).others
      have hlive : v.Live := hl
      rw [Live, hothers] at hlive
      exact hlive
  | process t _ hp =>
      have hlooked := looked_of_process hp
      rw [Live, hlooked.stopping, hlooked.output] at hl
      exact hl
  | fail ho => exact nomatch hl.1
  | quit hs => exact nomatch hl.1
  | closeOutput => exact nomatch hl.2
  | shutdown => exact nomatch hl.1
  | pass => exact hl
  | drain => exact hl
  | build => exact hl
  | hold => exact hl
  | deliver => exact hl
  | take => exact hl

/-- **Every event keeps the invariant.** -/
theorem Coalesced.step (h : Coalesced ms w) (hs : Steps w e w') (hl : w'.Live) :
    Coalesced (ms ++ [(w, e)]) w' := by
  cases hs with
  | quiet _ _ he hm => exact h.quiet he hm
  | notify t v hv => exact h.notify hv
  | process t _ hp => exact h.process hp
  | pass hp =>
      have howed : w.owed = 0 := by rw [owed, hp]
      have hway : w.onItsWay? = none := by rw [onItsWay?, hp]
      exact h.silent ⟨rfl, rfl, rfl, rfl⟩ howed.symm hway.symm h.going.symm rfl h.current
  | drain hp => exact h.drain hp
  | build s hp hs => exact h.build hp hs
  | hold hp hs => exact h.hold hp hs
  | deliver s hp hh => exact h.deliver hp hh
  | take s hh => exact h.take hh
  | fail => exact nomatch hl.1
  | quit => exact nomatch hl.1
  | closeOutput => exact nomatch hl.2
  | shutdown => exact nomatch hl.1

/-- **Every run coalesces**, while the watcher goes on and its output is
    open. -/
theorem coalesced_of_run {serviceId : String} {wait : Nat} {proxy : Except Mesh.Error String}
    {service : Except Mesh.Error Mesh.Service} {es : List Event}
    (h : (start serviceId wait proxy service).run es = some w) (hl : w.Live) :
    Coalesced ((start serviceId wait proxy service).moments es) w := by
  revert hl
  refine run_induction (P := fun es w => w.Live → Coalesced (moments _ es) w) ?_ ?_ h
  · intro hl
    cases proxy with
    | error e => exact nomatch hl.1
    | ok proxyId =>
        cases service with
        | error e => exact nomatch hl.1
        | ok s => exact ⟨rfl, rfl, rfl, fun _ hs => (nomatch hs), rfl⟩
  · intro es v e v' hv ih hstep hl
    have hs := steps_of_step hstep
    rw [moments_snoc hv]
    exact (ih (hs.live hl)).step hs hl

/-- What coalescing keeps: the order of snapshots from the state to the output
    and from there to whoever takes them; for every signal that was taken, but
    one that was taken just now, one snapshot, or none where no leaf was known;
    and at rest the snapshot of the present state. -/
structure Lossless (ms : List (Watcher × Event)) (w : Watcher) : Prop where
  ordered : (outcomes ms).reduceOption = sent ms ++ w.onItsWay?.toList
  received : sent ms = received ms ++ w.output.held.toList
  counted : ms.countP isDrain = (outcomes ms).length + w.owed
  withheld : ∀ v, (v, .build) ∈ ms → (v.snapshot? = none ↔ v.state.leaf = none)
  atRest : w.AtRest → w.state.leaf ≠ none → (sent ms).getLast? = w.snapshot?

/-- **Coalescing loses nothing**, in whatever order tracks, publisher and the
    taker of snapshots act. -/
theorem coalescing_loses_nothing {serviceId : String} {wait : Nat}
    {proxy : Except Mesh.Error String} {service : Except Mesh.Error Mesh.Service}
    {es : List Event} (h : (start serviceId wait proxy service).run es = some w)
    (hstop : w.stopping = false) (hopen : w.output.isOpen = true) :
    Lossless ((start serviceId wait proxy service).moments es) w := by
  obtain ⟨hordered, hreceived, hcounted, hcurrent, -⟩ := coalesced_of_run h ⟨hstop, hopen⟩
  refine ⟨hordered, hreceived, hcounted, fun v _ => v.snapshot?_eq_none_iff, ?_⟩
  rintro ⟨hlistening, hsilent, hsignalled⟩ hleaf
  have hsome : w.snapshot? ≠ none := fun hnone => hleaf (w.snapshot?_eq_none_iff.1 hnone)
  obtain ⟨s, hs⟩ := Option.ne_none_iff_exists'.1 hsome
  rw [onItsWay?, hlistening] at hordered
  -- at rest only the first of the four ways to be current is left
  rcases hcurrent s hs with hlast | howed | hpending | ⟨t, ht⟩
  · obtain ⟨earlier, hearlier⟩ := List.getLast?_eq_some_iff.1 hlast
    rw [hearlier, List.reduceOption_append] at hordered
    have hsent := hordered.symm.trans rfl
    rw [Option.toList_none, List.append_nil] at hsent
    rw [hsent, hs]
    exact List.getLast?_concat
  · rw [owed, hlistening] at howed
    exact nomatch howed
  · exact nomatch hsilent.symm.trans hpending
  · exact absurd ht (hsignalled t)

/-- A run with two snapshots, at rest. -/
theorem first_run_loses_nothing : ∃ w, webStart.run firstRun = some w ∧ w.stopping = false ∧
    w.output.isOpen = true ∧ w.AtRest ∧ w.state.leaf ≠ none ∧
    Lossless (webStart.moments firstRun) w := by
  refine ⟨_, rfl, rfl, rfl, ⟨rfl, rfl, fun t => ?_⟩, Option.some_ne_none _,
    coalescing_loses_nothing rfl rfl rfl⟩
  cases t with
  | caRoots => decide
  | leaf => decide
  | proxy => decide
  | service => decide
  | upstream id =>
      cases id with
      | zero => decide
      | succ n => exact nofun

end Watcher

end MeshSync.Watch
