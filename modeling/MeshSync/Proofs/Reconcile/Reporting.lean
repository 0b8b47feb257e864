import MeshSync.Proofs.Reconcile.Convergence
import MeshSync.Proofs.Reconcile.Course
import MeshSync.Reconcile.Loop

/-! # What the loop reports

    The loop writes down pass by pass how it went: a commit replaces the status,
    a failure leaves its error there, and a pass that had nothing to do writes
    nothing.  So an error that is no longer true could stay in the status, if a
    failed pass were followed by one that had nothing to do; but the pass after
    a failed one starts from the store, and then it has something to do
    (`Reconciler.changed_of_force`).

    `Loop.Reports` says of a loop and the passes it made that status and counts
    tell of them what they should.  One more pass keeps it (`Reports.note`,
    given that an error in the status makes the next pass start from the store),
    so it holds after every pass of every run (`status_and_counts_tell_the_truth`),
    whoever answers. -/

namespace MeshSync.Reconcile

open Dialogue (Runs)

/-! ## What the text of an error says -/

namespace PassError

/-- Where an error comes from, as its text names it. -/
def origin : PassError → String
  | dataplane _ => "dataplane"
  | certificates _ => "certificates"

/-- The wording of what caused an error. -/
def causeText : PassError → String
  | dataplane cause => cause.message
  | certificates cause => cause.message

/-- The text of an error names where it comes from before what caused it. -/
theorem message_eq (e : PassError) : e.message = e.origin ++ ": " ++ e.causeText := by
  cases e <;> rfl

/-- **The text of an error tells its cause**: two texts are the same just where
    the errors come from the same side and their causes read the same. -/
theorem message_eq_iff (e e' : PassError) :
    e.message = e'.message ↔ e.origin = e'.origin ∧ e.causeText = e'.causeText := by
  constructor
  · intro h
    have hsame : e.origin = e'.origin := by
      have hhead := congrArg (·.toList.head?) h
      -- the first letters of the two sides differ
      cases e with
      | dataplane cause =>
          cases e' with
          | dataplane cause' => rfl
          | certificates cause' => simp [message_eq, origin] at hhead
      | certificates cause =>
          cases e' with
          | dataplane cause' => simp [message_eq, origin] at hhead
          | certificates cause' => rfl
    rw [message_eq, message_eq, hsame, String.append_right_inj] at h
    exact ⟨hsame, h⟩
  · rintro ⟨horigin, hcause⟩
    rw [message_eq, message_eq, horigin, hcause]

end PassError

/-! ## Passes of a loop -/

/-- A pass of a loop: what it was for, and how it ended. -/
structure Pass where
  snapshot : Snapshot
  outcome : Except PassError Outcome

namespace Pass

/-- The snapshot that a pass committed, and the version that it left. -/
def committed? : Pass → Option (Snapshot × UInt64)
  | ⟨x, .ok (.applied version _ _ _)⟩ => some (x, version)
  | ⟨_, .ok .unchanged⟩ => none
  | ⟨_, .error _⟩ => none

/-- The wording of the error with which a pass failed. -/
def error? : Pass → Option String
  | ⟨_, .error e⟩ => some e.message
  | ⟨_, .ok _⟩ => none

/-- Whether a pass had nothing to do. -/
def isUnchanged : Pass → Bool
  | ⟨_, .ok .unchanged⟩ => true
  | ⟨_, .ok (.applied _ _ _ _)⟩ => false
  | ⟨_, .error _⟩ => false

/-- The last commit of some passes. -/
def latest (passes : List Pass) : Option (Snapshot × UInt64) :=
  (passes.filterMap committed?).getLast?

theorem latest_snoc (passes : List Pass) (p : Pass) :
    latest (passes ++ [p]) = p.committed?.or (latest passes) := by
  rw [latest, List.filterMap_append]
  cases hp : p.committed? with
  | none => simp [hp, latest]
  | some c => simp [hp]

end Pass

namespace Loop

variable {σ : Type} {env : Environment σ} {l₀ l l' : Loop} {w₀ w w' : σ} {passes : List Pass}

/-- The passes that lead from one loop to another, in their order: each one
    starts where the one before it ended, and is noted. -/
inductive Passed (env : Environment σ) (l₀ : Loop) (w₀ : σ) : List Pass → Loop → σ → Prop
  | none : Passed env l₀ w₀ [] l₀ w₀
  | next {passes : List Pass} {l : Loop} {w w' : σ} {x : Snapshot} {r : Reconciler}
      {outcome : Except PassError Outcome} (before : Passed env l₀ w₀ passes l w)
      (pass : Runs env (l.reconciler.apply x) w w' (r, outcome)) :
      Passed env l₀ w₀ (passes ++ [⟨x, outcome⟩]) (l.note x r outcome) w'

/-- **Snapshots are applied once each, in their order.** -/
theorem Passed.receiveAll {snapshots : List Snapshot} (before : Passed env l₀ w₀ passes l w)
    (h : Runs env (l.receiveAll snapshots) w w' l') :
    ∃ more, more.map (·.snapshot) = snapshots ∧ Passed env l₀ w₀ (passes ++ more) l' w' := by
  induction snapshots generalizing l w passes with
  | nil =>
      obtain ⟨rfl, rfl⟩ := Runs.done_iff.1 h
      exact ⟨[], rfl, by rwa [List.append_nil]⟩
  | cons x rest ih =>
      obtain ⟨w₁, l₁, hreceive, hrest⟩ := Runs.bind_iff.1 h
      obtain ⟨w₂, ⟨r, outcome⟩, hpass, hnote⟩ := Runs.bind_iff.1 hreceive
      obtain ⟨rfl, rfl⟩ := Runs.done_iff.1 hnote
      obtain ⟨more, hmore, hpassed⟩ := ih (before.next hpass) hrest
      refine ⟨⟨x, outcome⟩ :: more, by rw [List.map_cons, hmore], ?_⟩
      rwa [List.append_assoc] at hpassed

/-- A loop applies the first of its snapshots before the others. -/
theorem receiveAll_append (l : Loop) (before after : List Snapshot) :
    l.receiveAll (before ++ after) = (l.receiveAll before).bind fun l => l.receiveAll after := by
  induction before generalizing l with
  | nil => rfl
  | cons x rest ih =>
      have hrest : (fun l : Loop => l.receiveAll (rest ++ after)) = fun l =>
          (l.receiveAll rest).bind fun l => l.receiveAll after := funext ih
      show (l.receive x).bind (fun l => l.receiveAll (rest ++ after)) = _
      rw [hrest, ← Dialogue.bind_bind]
      rfl

/-! ## What is reported -/

/-- Whether the status and the counts of a loop tell the truth about the passes
    that it made. -/
structure Reports (l : Loop) (passes : List Pass) : Prop where
  ready : l.status.ready = true ↔
    ∃ p ∈ passes, ∃ version downstream rebuilt removed,
      p.outcome = .ok (.applied version downstream rebuilt removed)
  version : l.status.version = (Pass.latest passes).elim 0 fun c => c.2
  service : l.status.service = (Pass.latest passes).map fun c => c.1.serviceName
  downstream : l.status.downstream = (Pass.latest passes).map fun c =>
    { bind := s!"{c.1.downstream.localBindAddress}:{c.1.downstream.localBindPort}"
      target := s!"{c.1.downstream.targetAddress}:{c.1.downstream.targetPort}" }
  upstreams : l.status.upstreams =
    (Pass.latest passes).elim [] fun c => c.1.upstreams.map (·.service)
  lastError : l.status.lastError = passes.getLast?.bind Pass.error?
  applied : l.tally.applied = passes.countP (·.committed?.isSome)
  unchanged : l.tally.unchanged = passes.countP (·.isUnchanged)
  failed : l.tally.failed = passes.countP (·.error?.isSome)
  total : l.tally.applied + l.tally.unchanged + l.tally.failed = passes.length
  versionGauge : l.tally.version = (Pass.latest passes).map fun c => c.2
  upstreamsGauge : l.tally.upstreams = (Pass.latest passes).map fun c => c.1.upstreams.length

/-- The error in a status is that of the last pass, and says where it came from
    and what caused it. -/
theorem Reports.of_lastError {text : String} (h : Reports l passes)
    (htext : l.status.lastError = some text) :
    ∃ before x e, passes = before ++ [⟨x, .error e⟩] ∧
      text = e.origin ++ ": " ++ e.causeText := by
  obtain ⟨⟨x, outcome⟩, hlast, herror⟩ := Option.bind_eq_some_iff.1 (h.lastError.symm.trans htext)
  obtain ⟨before, rfl⟩ := List.getLast?_eq_some_iff.1 hlast
  cases outcome with
  | error e => exact ⟨before, x, e, rfl, (Option.some.inj herror).symm.trans e.message_eq⟩
  | ok outcome => cases herror

/-- A loop that made no pass has nothing to report. -/
theorem reports_new (options : Options) (tracked : UInt64) : Reports (.new options tracked) [] where
  ready := ⟨nofun, nofun⟩
  version := rfl
  service := rfl
  downstream := rfl
  upstreams := rfl
  lastError := rfl
  applied := rfl
  unchanged := rfl
  failed := rfl
  total := rfl
  versionGauge := rfl
  upstreamsGauge := rfl

theorem ready_snoc {p : Pass} (h : Reports l passes) :
    (∃ q ∈ passes ++ [p], ∃ v d b c, q.outcome = .ok (.applied v d b c)) ↔
      l.status.ready = true ∨ ∃ v d b c, p.outcome = .ok (.applied v d b c) := by
  rw [h.ready]
  constructor
  · rintro ⟨q, hq, hcommitted⟩
    rcases List.mem_append.1 hq with hq | hq
    · exact .inl ⟨q, hq, hcommitted⟩
    · exact .inr (List.mem_singleton.1 hq ▸ hcommitted)
  · rintro (⟨q, hq, hcommitted⟩ | hcommitted)
    · exact ⟨q, List.mem_append_left _ hq, hcommitted⟩
    · exact ⟨p, by simp, hcommitted⟩

section Noting

variable {x : Snapshot} {r : Reconciler} {outcome : Except PassError Outcome}

/-- What is counted of one more pass. -/
theorem countP_snoc (q : Pass → Bool) (passes : List Pass) (p : Pass) :
    (passes ++ [p]).countP q = passes.countP q + if q p then 1 else 0 := by
  rw [List.countP_append, List.countP_singleton]

/-- A failed pass leaves its error, and what was committed before stands. -/
theorem Reports.note_error {e : PassError} (h : Reports l passes) :
    Reports (l.note x r (.error e)) (passes ++ [⟨x, .error e⟩]) := by
  have hlatest : Pass.latest (passes ++ [⟨x, .error e⟩]) = Pass.latest passes :=
    Pass.latest_snoc passes _
  have htotal := h.total
  exact {
    ready := ((ready_snoc h).trans (or_iff_left fun ⟨_, _, _, _, hp⟩ => nomatch hp)).symm
    version := hlatest ▸ h.version
    service := hlatest ▸ h.service
    downstream := hlatest ▸ h.downstream
    upstreams := hlatest ▸ h.upstreams
    lastError := by
      rw [List.getLast?_concat]
      rfl
    applied := (countP_snoc _ _ _).symm ▸ h.applied
    unchanged := (countP_snoc _ _ _).symm ▸ h.unchanged
    failed := (countP_snoc _ _ _).symm ▸ congrArg (· + 1) h.failed
    total := by
      show l.tally.applied + l.tally.unchanged + (l.tally.failed + 1) = _
      rw [List.length_append, List.length_singleton]
      omega
    versionGauge := hlatest ▸ h.versionGauge
    upstreamsGauge := hlatest ▸ h.upstreamsGauge }

/-- A pass that had nothing to do is only counted, so an error in the status
    would stay there. -/
theorem Reports.note_unchanged (h : Reports l passes) (hclean : l.status.lastError = none) :
    Reports (l.note x r (.ok .unchanged)) (passes ++ [⟨x, .ok .unchanged⟩]) := by
  have hlatest : Pass.latest (passes ++ [⟨x, .ok .unchanged⟩]) = Pass.latest passes :=
    Pass.latest_snoc passes _
  have htotal := h.total
  exact {
    ready := ((ready_snoc h).trans (or_iff_left fun ⟨_, _, _, _, hp⟩ => nomatch hp)).symm
    version := hlatest ▸ h.version
    service := hlatest ▸ h.service
    downstream := hlatest ▸ h.downstream
    upstreams := hlatest ▸ h.upstreams
    lastError := by
      rw [List.getLast?_concat]
      exact hclean
    applied := (countP_snoc _ _ _).symm ▸ h.applied
    unchanged := (countP_snoc _ _ _).symm ▸ congrArg (· + 1) h.unchanged
    failed := (countP_snoc _ _ _).symm ▸ h.failed
    total := by
      show l.tally.applied + (l.tally.unchanged + 1) + l.tally.failed = _
      rw [List.length_append, List.length_singleton]
      omega
    versionGauge := hlatest ▸ h.versionGauge
    upstreamsGauge := hlatest ▸ h.upstreamsGauge }

/-- A commit replaces the status. -/
theorem Reports.note_applied {version : UInt64} {downstream : Bool} {rebuilt removed : Nat}
    (h : Reports l passes) : Reports (l.note x r (.ok (.applied version downstream rebuilt removed)))
      (passes ++ [⟨x, .ok (.applied version downstream rebuilt removed)⟩]) := by
  have hlatest : Pass.latest (passes ++
      [⟨x, .ok (.applied version downstream rebuilt removed)⟩]) = some (x, version) :=
    Pass.latest_snoc passes _
  have htotal := h.total
  exact {
    ready := ((ready_snoc h).trans ⟨fun _ => rfl, fun _ => .inr ⟨_, _, _, _, rfl⟩⟩).symm
    version := by rw [hlatest]; rfl
    service := by rw [hlatest]; rfl
    downstream := by rw [hlatest]; rfl
    upstreams := by rw [hlatest]; rfl
    lastError := by
      rw [List.getLast?_concat]
      rfl
    applied := (countP_snoc _ _ _).symm ▸ congrArg (· + 1) h.applied
    unchanged := (countP_snoc _ _ _).symm ▸ h.unchanged
    failed := (countP_snoc _ _ _).symm ▸ h.failed
    total := by
      show l.tally.applied + 1 + l.tally.unchanged + l.tally.failed = _
      rw [List.length_append, List.length_singleton]
      omega
    versionGauge := by rw [hlatest]; rfl
    upstreamsGauge := by rw [hlatest]; rfl }

/-- **One more pass is reported as it went**, if a pass that has nothing to do
    finds no error in the status. -/
theorem Reports.note (h : Reports l passes)
    (hclean : outcome = .ok .unchanged → l.status.lastError = none) :
    Reports (l.note x r outcome) (passes ++ [⟨x, outcome⟩]) := by
  cases outcome with
  | error e => exact h.note_error
  | ok outcome =>
      cases outcome with
      | unchanged => exact h.note_unchanged (hclean rfl)
      | applied version downstream rebuilt removed => exact h.note_applied

end Noting

/-- An error in the status makes the next pass start from the store. -/
def Alert (l : Loop) : Prop := l.status.lastError ≠ none → l.reconciler.force = true

/-- A pass that has nothing to do finds no error in the status. -/
theorem Alert.clean {x : Snapshot} {r : Reconciler} (h : l.Alert)
    (hpass : Runs env (l.reconciler.apply x) w w' (r, .ok .unchanged)) :
    l.status.lastError = none := by
  by_contra herror
  exact Reconciler.changed_of_force (h herror) hpass rfl

theorem Alert.note {x : Snapshot} {r : Reconciler} {outcome : Except PassError Outcome}
    (h : l.Alert) (hpass : Runs env (l.reconciler.apply x) w w' (r, outcome)) :
    (l.note x r outcome).Alert := by
  cases outcome with
  | error e => exact fun _ => (Reconciler.apply_error hpass).force
  | ok outcome =>
      cases outcome with
      | unchanged => exact fun herror => absurd (h.clean hpass) herror
      | applied version downstream rebuilt removed => exact fun herror => absurd rfl herror

theorem Passed.reports {options : Options} {tracked : UInt64}
    (h : Passed env (.new options tracked) w₀ passes l w) : l.Alert ∧ l.Reports passes := by
  induction h with
  | none => exact ⟨fun herror => absurd rfl herror, reports_new options tracked⟩
  | next before pass ih =>
      obtain ⟨halert, hreports⟩ := ih
      exact ⟨halert.note pass, hreports.note fun hunchanged => halert.clean (hunchanged ▸ pass)⟩

/-- **Status and counts tell the truth after every pass.** Whoever answers, and
    however they fail: a new loop applies the snapshots that it receives once
    each and in their order, and after each of them its status and its counts
    report the passes up to there. -/
theorem status_and_counts_tell_the_truth {options : Options} {tracked : UInt64}
    {before after : List Snapshot}
    (h : Runs env ((new options tracked).receiveAll (before ++ after)) w₀ w' l') :
    ∃ passes l w, passes.map (·.snapshot) = before ∧
      Passed env (new options tracked) w₀ passes l w ∧
      Runs env (l.receiveAll after) w w' l' ∧ l.Reports passes := by
  rw [receiveAll_append] at h
  obtain ⟨w, l, hbefore, hafter⟩ := Runs.bind_iff.1 h
  obtain ⟨passes, hpasses, hpassed⟩ := Passed.none.receiveAll hbefore
  exact ⟨passes, l, w, hpasses, hpassed, hafter, hpassed.reports.2⟩

/-- A world that does not answer the first request; later it lists nothing and
    lets everything be done.  It counts what it was asked. -/
def waking : Surroundings Nat where
  send n r := (n + 1,
    if n = 0 then .error .http
    else if r.method = .get then .ok (.ofFields [("_version", .ofNat 1), ("data", .array [])])
    else .ok (.ofFields [("id", .string "t")]))
  certs n m := (n, .ok (oneFile m))
  retain n _ := n

/-- A node that listens for the mesh and calls nobody. -/
def callingNobody : Snapshot := { nodeOn 20000 with upstreams := [] }

/-- Of three passes for one snapshot the first fails, the second commits, and
    the third has nothing to do: the error is gone. -/
theorem error_gone_after_commit : ∃ passes l n,
    passes.map (·.snapshot) = [callingNobody, callingNobody, callingNobody] ∧
      Passed waking.environment (new .standard 1) 0 passes l n ∧ l.Reports passes ∧
      l.status = .applied callingNobody 2 ∧ l.tally = ⟨1, 1, 1, some 2, some 0⟩ := by
  have hruns := Runs.of_run waking.allows
    ((new .standard 1).receiveAll ([callingNobody, callingNobody, callingNobody] ++ [])) 0
  obtain ⟨passes, l, n, hpasses, hpassed, hrest, hreports⟩ :=
    status_and_counts_tell_the_truth hruns
  obtain ⟨-, rfl⟩ := Runs.done_iff.1 hrest
  exact ⟨passes, _, n, hpasses, hpassed, hreports, rfl, rfl⟩

end Loop

end MeshSync.Reconcile
