import MeshSync.Proofs.Reconcile.Planning
import MeshSync.Reconcile.Pass

/-! # What a pass does to the store

    A pass stages a plan in one transaction.  Whatever goes wrong, either its
    client committed nothing, or all changes of the plan were made at once, to
    the objects of the version that the plan was made for (`transact_runs`);
    and where nothing goes wrong and the changes apply, the pass succeeds
    (`run_transact`). -/

namespace MeshSync.Reconcile

open Dataplane
open Dialogue (Runs)
open Url (Unreserved)

variable {paths : TlsMaterial → Certificates.Paths} {s s' : Store} {ticket : Ticket}

namespace Reconciler

/-! ## Staging -/

theorem stageOps_runs {ops : List Operation} {cs : List Change} {res : Except PassError Unit}
    (hlegible : ∀ op ∈ ops, op.Legible) (hs : s.Holds ticket cs)
    (h : Runs (troubled paths) (stageOps ticket ops) s s' res) :
    Drift s s' ∧ (res = .ok () → s'.Holds ticket (cs ++ ops.map (·.change))) := by
  induction ops generalizing s cs with
  | nil =>
      obtain ⟨rfl, rfl⟩ := Runs.done_iff.1 h
      rw [List.map_nil, List.append_nil]
      exact ⟨.refl s', fun _ => hs⟩
  | cons op ops ih =>
      obtain ⟨s₁, answer, hstage, hrest⟩ := Runs.bind_iff.1 h
      obtain ⟨hdrift, hholds⟩ := stage_runs (hlegible op (by simp)) hs hstage
      cases answer with
      | error e =>
          obtain ⟨rfl, rfl⟩ := Runs.done_iff.1 hrest
          exact ⟨hdrift, nofun⟩
      | ok done =>
          obtain ⟨hdrift', hholds'⟩ :=
            ih (fun o ho => hlegible o (List.mem_cons_of_mem _ ho)) (hholds rfl) hrest
          refine ⟨hdrift.trans hdrift', fun hres => ?_⟩
          rw [List.map_cons, ← List.singleton_append, ← List.append_assoc]
          exact hholds' hres

theorem stageParts_runs {parts : List Part} {cs : List Change} {res : Except PassError Unit}
    (hlegible : ∀ op ∈ operations paths parts, op.Legible) (hs : s.Holds ticket cs)
    (h : Runs (troubled paths) (stageParts ticket parts) s s' res) :
    Drift s s' ∧
      (res = .ok () → s'.Holds ticket (cs ++ (operations paths parts).map (·.change))) := by
  induction parts generalizing s cs with
  | nil =>
      obtain ⟨rfl, rfl⟩ := Runs.done_iff.1 h
      rw [show operations paths [] = [] from rfl, List.map_nil, List.append_nil]
      exact ⟨.refl s', fun _ => hs⟩
  | cons part parts ih =>
      have hcons : operations paths (part :: parts) =
          part.operations paths ++ operations paths parts := rfl
      rw [hcons] at hlegible ⊢
      -- once the operations of the first part are known, both kinds go alike
      have staged : ∀ s₁, s₁.Holds ticket cs → Runs (troubled paths)
          ((stageOps ticket (part.operations paths)).andThen fun _ => stageParts ticket parts)
          s₁ s' res → Drift s₁ s' ∧ (res = .ok () → s'.Holds ticket
            (cs ++ (part.operations paths ++ operations paths parts).map (·.change))) := by
        intro s₁ hs₁ h
        obtain ⟨s₂, answer, hops, hrest⟩ := Runs.bind_iff.1 h
        obtain ⟨hdrift, hholds⟩ :=
          stageOps_runs (fun op hop => hlegible op (List.mem_append_left _ hop)) hs₁ hops
        cases answer with
        | error e =>
            obtain ⟨rfl, rfl⟩ := Runs.done_iff.1 hrest
            exact ⟨hdrift, nofun⟩
        | ok done =>
            obtain ⟨hdrift', hholds'⟩ :=
              ih (fun op hop => hlegible op (List.mem_append_right _ hop)) (hholds rfl) hrest
            refine ⟨hdrift.trans hdrift', fun hres => ?_⟩
            rw [List.map_append, ← List.append_assoc]
            exact hholds' hres
      cases part with
      | plain op => exact staged s hs h
      | sealed material ops =>
          obtain ⟨s₁, answer, ⟨rfl, hfiles⟩, hrest⟩ := Runs.certs_iff.1 h
          rcases hfiles with rfl | ⟨e, rfl⟩
          · exact staged s₁ hs hrest
          · obtain ⟨rfl, rfl⟩ := Runs.done_iff.1 hrest
            exact ⟨.refl s', nofun⟩

/-! ## Transactions -/

variable {v : UInt64} {cs : List Change} {res : Except PassError (UInt64 × UInt64)}

/-- What a transaction comes to: the pass is told that it was committed only if
    it was, and otherwise it may have been. -/
def Ends (v : UInt64) (cs : List Change) (s s' : Store)
    (res : Except PassError (UInt64 × UInt64)) : Prop :=
  ((∃ e, res = .error e) ∧ (Drift s s' ∨ Committed v cs s s')) ∨
    (res = .ok (v, v + 1) ∧ Committed v cs s s')

theorem Ends.of_drift {s s' s'' : Store} (hdrift : Drift s s') (h : Ends v cs s' s'' res) :
    Ends v cs s s'' res := by
  rcases h with ⟨herror, hkept | hmade⟩ | ⟨hres, hmade⟩
  · exact .inl ⟨herror, .inl (hdrift.trans hkept)⟩
  · exact .inl ⟨herror, .inr (hmade.of_drift hdrift)⟩
  · exact .inr ⟨hres, hmade.of_drift hdrift⟩

/-- How a transaction ends after something could not be staged. -/
theorem abort_ends {e : PassError} (hid : Url.PlainSegment ticket.id.toList)
    (h : Runs (troubled paths) ((Client.abort ticket).bind fun _ => .done (.error e)) s s' res) :
    Ends v cs s s' res := by
  obtain ⟨s₁, answer, habort, hdone⟩ := Runs.bind_iff.1 h
  obtain ⟨rfl, rfl⟩ := Runs.done_iff.1 hdone
  exact .inl ⟨⟨e, rfl⟩, .inl (abort_runs hid habort)⟩

/-- How it ends after all was staged. -/
theorem commit_ends (hs : s.Holds ticket cs)
    (h : Runs (troubled paths) ((Client.commit ticket.version ticket).bind fun
      | .error e => .done (.error (.dataplane e))
      | .ok version => .done (.ok (ticket.version, version))) s s' res) :
    Ends ticket.version cs s s' res := by
  obtain ⟨s₁, answer, hcommit, hdone⟩ := Runs.bind_iff.1 h
  -- a lost answer to the commit is an error with the changes made
  rcases commit_runs hs hcommit with ⟨hkept, e, rfl⟩ | ⟨hmade, ⟨e, rfl⟩ | rfl⟩
  · obtain ⟨rfl, rfl⟩ := Runs.done_iff.1 hdone
    exact .inl ⟨⟨_, rfl⟩, .inl hkept⟩
  · obtain ⟨rfl, rfl⟩ := Runs.done_iff.1 hdone
    exact .inl ⟨⟨_, rfl⟩, .inr hmade⟩
  · obtain ⟨rfl, rfl⟩ := Runs.done_iff.1 hdone
    exact .inr ⟨rfl, hmade⟩

/-- **A transaction is all or nothing.** -/
theorem transact_runs {parts : List Part}
    (hlegible : ∀ op ∈ operations paths parts, op.Legible)
    (h : Runs (troubled paths) (transact v parts) s s' res) :
    Ends v ((operations paths parts).map (·.change)) s s' res := by
  obtain ⟨s₁, opened, hbegin, hrest⟩ := Runs.bind_iff.1 h
  obtain ⟨hdrift, hopened⟩ := begin_runs hbegin
  cases opened with
  | error e =>
      obtain ⟨rfl, rfl⟩ := Runs.done_iff.1 hrest
      exact .inl ⟨⟨_, rfl⟩, .inl hdrift⟩
  | ok ticket =>
      obtain ⟨rfl, -, hholds⟩ := hopened ticket rfl
      obtain ⟨s₂, staged, hstage, hrest⟩ := Runs.bind_iff.1 hrest
      obtain ⟨hdrift₂, hstaged⟩ := stageParts_runs hlegible hholds hstage
      refine Ends.of_drift (hdrift.trans hdrift₂) ?_
      cases staged with
      | error e => exact abort_ends hholds.plain hrest
      | ok done => exact commit_ends (hstaged rfl) hrest

/-- What was read of the store: the version first, and then what it lists. -/
theorem takeStock_runs {tracked t : UInt64} {res : Except PassError Inventory}
    (h : Runs (troubled paths) (takeStock tracked) s s' (t, res)) :
    Drift s s' ∧ ∀ i, res = .ok i → ∃ s₁ s₂, Drift s s₁ ∧ t = s₁.version ∧ Drift s₁ s₂ ∧
      Drift s₂ s' ∧ i = ⟨s₂.listed "frontends", s'.listed "backends"⟩ := by
  obtain ⟨s₁, version, hversion, hrest⟩ := Runs.bind_iff.1 h
  obtain ⟨hdrift₁, hv⟩ := refreshVersion_runs hversion
  cases version with
  | error e =>
      obtain ⟨rfl, heq⟩ := Runs.done_iff.1 hrest
      obtain ⟨rfl, rfl⟩ := Prod.mk.inj heq
      exact ⟨hdrift₁, nofun⟩
  | ok v =>
      obtain ⟨s₂, fronts, hfronts, hrest⟩ := Runs.bind_iff.1 hrest
      obtain ⟨hdrift₂, hf⟩ := listNames_runs (by decide) hfronts
      cases fronts with
      | error e =>
          obtain ⟨rfl, heq⟩ := Runs.done_iff.1 hrest
          obtain ⟨rfl, rfl⟩ := Prod.mk.inj heq
          exact ⟨hdrift₁.trans hdrift₂, nofun⟩
      | ok frontends =>
          obtain ⟨s₃, backs, hbacks, hrest⟩ := Runs.bind_iff.1 hrest
          obtain ⟨hdrift₃, hb⟩ := listNames_runs (by decide) hbacks
          have hdrift := (hdrift₁.trans hdrift₂).trans hdrift₃
          cases backs with
          | error e =>
              obtain ⟨rfl, heq⟩ := Runs.done_iff.1 hrest
              obtain ⟨rfl, rfl⟩ := Prod.mk.inj heq
              exact ⟨hdrift, nofun⟩
          | ok backends =>
              obtain ⟨rfl, heq⟩ := Runs.done_iff.1 hrest
              obtain ⟨rfl, rfl⟩ := Prod.mk.inj heq
              refine ⟨hdrift, fun i hi => ⟨s₁, s₂, hdrift₁, hv _ rfl, hdrift₂, hdrift₃, ?_⟩⟩
              rw [← Except.ok.inj hi, hf _ rfl, hb _ rfl]

/-! ## Without trouble -/

theorem run_stageOps {ops : List Operation} {cs : List Change} (hlegible : ∀ op ∈ ops, op.Legible)
    (hs : s.Holds ticket cs) :
    ∃ s', (stageOps ticket ops).run (calm paths) s = (s', .ok ()) ∧ s'.objects = s.objects ∧
      s'.version = s.version ∧ s'.Holds ticket (cs ++ ops.map (·.change)) := by
  induction ops generalizing s cs with
  | nil => exact ⟨s, rfl, rfl, rfl, by rwa [List.map_nil, List.append_nil]⟩
  | cons op ops ih =>
      obtain ⟨s₁, hstage, ho, hv, hholds⟩ := run_stage paths (hlegible op (by simp)) hs
      obtain ⟨s₂, hrest, ho', hv', hholds'⟩ :=
        ih (fun o h => hlegible o (List.mem_cons_of_mem _ h)) hholds
      refine ⟨s₂, ?_, ho'.trans ho, hv'.trans hv, ?_⟩
      · rw [stageOps, Dialogue.run_bind, hstage]
        exact hrest
      · rwa [List.map_cons, ← List.singleton_append, ← List.append_assoc]

theorem run_stageParts {parts : List Part} {cs : List Change}
    (hlegible : ∀ op ∈ operations paths parts, op.Legible) (hs : s.Holds ticket cs) :
    ∃ s', (stageParts ticket parts).run (calm paths) s = (s', .ok ()) ∧ s'.objects = s.objects ∧
      s'.version = s.version ∧
      s'.Holds ticket (cs ++ (operations paths parts).map (·.change)) := by
  induction parts generalizing s cs with
  | nil => exact ⟨s, rfl, rfl, rfl, by rwa [show operations paths [] = [] from rfl, List.map_nil,
      List.append_nil]⟩
  | cons part parts ih =>
      have hcons : operations paths (part :: parts) =
          part.operations paths ++ operations paths parts := rfl
      rw [hcons] at hlegible ⊢
      obtain ⟨s₁, hops, ho, hv, hholds⟩ := run_stageOps
        (fun op hop => hlegible op (List.mem_append_left _ hop)) hs
      obtain ⟨s₂, hrest, ho', hv', hholds'⟩ :=
        ih (fun op hop => hlegible op (List.mem_append_right _ hop)) hholds
      have hrun : ((stageOps ticket (part.operations paths)).andThen fun _ =>
          stageParts ticket parts).run (calm paths) s = (s₂, .ok ()) := by
        rw [Dialogue.andThen, Dialogue.run_bind, hops]
        exact hrest
      refine ⟨s₂, ?_, ho'.trans ho, hv'.trans hv, ?_⟩
      · cases part with
        | plain op => exact hrun
        | sealed material ops => exact hrun
      · rwa [List.map_append, ← List.append_assoc]

/-- **Changes that apply are committed** where nothing goes wrong. -/
theorem run_transact {parts : List Part} {objects : Objects}
    (hlegible : ∀ op ∈ operations paths parts, op.Legible)
    (h : s.objects.applyAll ((operations paths parts).map (·.change)) = .ok objects) :
    ∃ s', (transact s.version parts).run (calm paths) s =
      (s', .ok (s.version, s.version + 1)) := by
  obtain ⟨s₁, ticket, hbegin, ho, hticket, hv, hholds⟩ := run_begin paths (s := s)
  obtain ⟨s₂, hstage, ho', hv', hholds'⟩ := run_stageParts hlegible hholds
  have hversion : ticket.version = s.version := hticket.trans hv
  rw [List.nil_append] at hholds'
  rw [← ho, ← ho'] at h
  obtain ⟨s₃, hcommit⟩ := run_commit paths hholds' (hticket.trans hv'.symm) h
  refine ⟨s₃, ?_⟩
  rw [transact, Dialogue.run_bind, hbegin]
  dsimp only
  rw [Dialogue.run_bind, hstage]
  dsimp only
  rw [← hversion, Dialogue.run_bind, hcommit]
  rfl

/-- A transaction that was planned for another version is refused. -/
theorem run_transact_stale (paths : TlsMaterial → Certificates.Paths) {v : UInt64}
    (hv : v ≠ s.version) (parts : List Part) :
    ∃ e, (transact v parts).run (calm paths) s = (s, .error e) := by
  obtain ⟨e, he⟩ := run_begin_stale paths hv
  refine ⟨.dataplane e, ?_⟩
  rw [transact, Dialogue.run_bind, he]
  rfl

theorem run_takeStock (tracked : UInt64) :
    (takeStock tracked).run (calm paths) s =
      (s, s.version, .ok ⟨s.listed "frontends", s.listed "backends"⟩) := by
  rw [takeStock, Dialogue.run_bind, run_refreshVersion]
  dsimp only
  rw [Dialogue.run_bind, run_listNames paths (by decide)]
  dsimp only
  rw [Dialogue.run_bind, run_listNames paths (by decide)]
  rfl

variable {r : Reconciler} {next : Snapshot} {plan : Plan}

/-- A plan with something to do is applied where nothing goes wrong. -/
theorem run_carryOut {objects : Objects} (hempty : plan.isEmpty = false) (hsound : plan.Sound next)
    (hnext : next.Valid) (hv : r.tracked = s.version)
    (h : s.objects.applyAll (plan.changes paths r.options next) = .ok objects) :
    ∃ s' r' d rebuilt removed, (r.carryOut next plan).run (calm paths) s =
      (s', r', .ok (.applied (s.version + 1) d rebuilt removed)) := by
  obtain ⟨s₁, hrun⟩ := run_transact (hsound.legible hnext) h
  refine ⟨s₁, { r with tracked := s.version + 1, applied := some next, force := false },
    plan.downstream.isSome, plan.rebuilt.length, plan.removed.length, ?_⟩
  rw [carryOut, hempty, if_neg Bool.noConfusion, Dialogue.run_bind, hv, hrun]
  rfl

theorem run_carryOut_empty (hempty : plan.isEmpty = true) :
    (r.carryOut next plan).run (calm paths) s = (s, r, .ok .unchanged) := by
  rw [carryOut, if_pos hempty]
  rfl

end Reconciler

end MeshSync.Reconcile
