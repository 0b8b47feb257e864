import MeshSync.Proofs.Footprint
import MeshSync.Proofs.Dataplane.Exchange
import MeshSync.Reconcile.Pass

/-! # The course of a pass

    What can be said of a pass whoever answers it.  A pass that fails keeps what
    it knows of the last commit and makes the next one start from the store
    (`apply_error`), and one that starts from the store finds something to do
    (`changed_of_force`).  A pass that succeeds was answered by no error up to
    its end, so it went as in a world that mirrors those who answered
    (`honest_apply`). -/

namespace MeshSync.Reconcile

open Dataplane
open Dialogue (Runs Honest Fine)

variable {r r' : Reconciler} {next : Snapshot} {e : PassError}

/-! ## What a failed pass leaves of its reconciler -/

/-- A reconciler before and after a pass that failed: it keeps the last commit,
    and the next pass starts from the store. -/
structure Unsettled (r r' : Reconciler) : Prop where
  force : r'.force = true
  applied : r'.applied = r.applied
  options : r'.options = r.options

namespace Reconciler

variable {σ τ : Type} {env : Environment σ} {w w' : σ}

theorem recover_leaves {out : Except PassError Outcome}
    (h : Runs env (r.recover e) w w' (r', out)) : out = .error e ∧ Unsettled r r' := by
  rw [recover] at h
  split at h
  · obtain ⟨w₁, answer, -, hdone⟩ := Runs.bind_iff.1 h
    cases answer with
    | ok version =>
        obtain ⟨-, heq⟩ := Runs.done_iff.1 hdone
        obtain ⟨rfl, rfl⟩ := Prod.mk.inj heq
        exact ⟨rfl, rfl, rfl, rfl⟩
    | error cause =>
        obtain ⟨-, heq⟩ := Runs.done_iff.1 hdone
        obtain ⟨rfl, rfl⟩ := Prod.mk.inj heq
        exact ⟨rfl, rfl, rfl, rfl⟩
  · obtain ⟨-, heq⟩ := Runs.done_iff.1 h
    obtain ⟨rfl, rfl⟩ := Prod.mk.inj heq
    exact ⟨rfl, rfl, rfl, rfl⟩

theorem carryOut_error {plan : Plan} (h : Runs env (r.carryOut next plan) w w' (r', .error e)) :
    Unsettled r r' := by
  rw [carryOut] at h
  split at h
  · exact nomatch (Prod.mk.inj (Runs.done_iff.1 h).2).2
  · obtain ⟨w₁, res, -, hrest⟩ := Runs.bind_iff.1 h
    cases res with
    | error cause => exact (recover_leaves hrest).2
    | ok versions =>
        obtain ⟨w₂, -, hdone⟩ := Runs.retain_iff.1 hrest
        exact nomatch (Prod.mk.inj (Runs.done_iff.1 hdone).2).2

/-- **A pass that fails keeps the last commit and makes the next pass start from
    the store**, whoever answers. -/
theorem apply_error (h : Runs env (r.apply next) w w' (r', .error e)) : Unsettled r r' := by
  rw [apply] at h
  split at h
  · rename_i hforce
    obtain ⟨w₁, ⟨t, stock⟩, -, hrest⟩ := Runs.bind_iff.1 h
    cases stock with
    | error cause =>
        obtain ⟨rfl, -⟩ := Prod.mk.inj (Runs.done_iff.1 hrest).2
        exact ⟨hforce, rfl, rfl⟩
    | ok inventory =>
        obtain ⟨hforce, happlied, hoptions⟩ := carryOut_error (r := { r with tracked := t }) hrest
        exact ⟨hforce, happlied, hoptions⟩
  · exact carryOut_error h

/-- A pass that starts from the store has something to do. -/
theorem changed_of_force {out : Except PassError Outcome} (hforce : r.force = true)
    (h : Runs env (r.apply next) w w' (r', out)) : out ≠ .ok .unchanged := by
  rw [apply, if_pos hforce] at h
  obtain ⟨w₁, ⟨t, stock⟩, -, hrest⟩ := Runs.bind_iff.1 h
  cases stock with
  | error cause =>
      obtain ⟨-, rfl⟩ := Prod.mk.inj (Runs.done_iff.1 hrest).2
      exact nofun
  | ok inventory =>
      obtain ⟨w₂, res, -, hrest⟩ := Runs.bind_iff.1 hrest
      cases res with
      | error cause =>
          rw [(recover_leaves hrest).1]
          exact nofun
      | ok versions =>
          obtain ⟨w₃, -, hdone⟩ := Runs.retain_iff.1 hrest
          obtain ⟨-, rfl⟩ := Prod.mk.inj (Runs.done_iff.1 hdone).2
          exact nofun

/-! ## What was done up to a success -/

/-- A transaction that was committed was opened and staged before. -/
theorem transact_ok {v : UInt64} {parts : List Part} {versions : UInt64 × UInt64}
    (h : Runs env (transact v parts) w w' (.ok versions)) :
    ∃ ticket w₁ w₂ version, Runs env (Client.begin v) w w₁ (.ok ticket) ∧
      Runs env (stageParts ticket parts) w₁ w₂ (.ok ()) ∧
      Runs env (Client.commit v ticket) w₂ w' (.ok version) := by
  obtain ⟨w₁, opened, hbegin, hrest⟩ := Runs.bind_iff.1 h
  cases opened with
  | error cause => cases (Runs.done_iff.1 hrest).2
  | ok ticket =>
      obtain ⟨w₂, staged, hstage, hrest⟩ := Runs.bind_iff.1 hrest
      cases staged with
      | error cause =>
          obtain ⟨w₃, answer, -, hdone⟩ := Runs.bind_iff.1 hrest
          cases (Runs.done_iff.1 hdone).2
      | ok done =>
          obtain ⟨w₃, answer, hcommit, hdone⟩ := Runs.bind_iff.1 hrest
          cases answer with
          | error cause => cases (Runs.done_iff.1 hdone).2
          | ok version =>
              obtain ⟨rfl, -⟩ := Runs.done_iff.1 hdone
              exact ⟨ticket, w₁, w₂, version, hbegin, hstage, hcommit⟩

variable {v : UInt64} {downstream : Bool} {rebuilt removed : Nat}

/-- A plan that was applied was committed, and its materials were told. -/
theorem carryOut_applied {plan : Plan} (h : Runs env (r.carryOut next plan) w w'
    (r', .ok (.applied v downstream rebuilt removed))) :
    plan.isEmpty ≠ true ∧ ∃ versions w₁,
      Runs env (transact r.tracked (plan.parts next r.options)) w w₁ (.ok versions) ∧
      env.retain w₁ next.tlsMaterials w' := by
  rw [carryOut] at h
  split at h
  · cases (Runs.done_iff.1 h).2
  · rename_i hempty
    obtain ⟨w₁, res, htransact, hrest⟩ := Runs.bind_iff.1 h
    cases res with
    | error cause => cases (recover_leaves hrest).1
    | ok versions =>
        obtain ⟨w₂, hretain, hdone⟩ := Runs.retain_iff.1 hrest
        obtain ⟨rfl, -⟩ := Runs.done_iff.1 hdone
        exact ⟨hempty, versions, w₁, htransact, hretain⟩

/-- A pass that was applied carried out a plan, from the store or from the last
    commit. -/
theorem apply_applied (h : Runs env (r.apply next) w w'
    (r', .ok (.applied v downstream rebuilt removed))) :
    (r.force = true ∧ ∃ w₁ tracked inventory,
        Runs env (takeStock r.tracked) w w₁ (tracked, .ok inventory) ∧
        Runs env ({ r with tracked := tracked }.carryOut next (.fromStore inventory next)) w₁ w'
          (r', .ok (.applied v downstream rebuilt removed))) ∨
      (r.force = false ∧ Runs env (r.carryOut next (.between r.applied next)) w w'
        (r', .ok (.applied v downstream rebuilt removed))) := by
  rw [apply] at h
  split at h
  · rename_i hforce
    obtain ⟨w₁, ⟨tracked, stock⟩, htake, hrest⟩ := Runs.bind_iff.1 h
    cases stock with
    | error cause => cases (Runs.done_iff.1 hrest).2
    | ok inventory => exact .inl ⟨hforce, w₁, tracked, inventory, htake, hrest⟩
  · rename_i hforce
    exact .inr ⟨Bool.eq_false_iff.2 hforce, h⟩

/-! ## Good ends -/

variable {world : Surroundings τ} {side : σ → τ}

theorem honest_ask {α : Type} (hm : env.Mirrors world side) (q : Request)
    (read : Json → Except Error α) : (Client.ask q read).Honest env world side Fine :=
  .send hm (fun _ => .done _) fun _ => Runs.not_good (Dialogue.not_fine_error _)

theorem honest_stageOps (hm : env.Mirrors world side) (ticket : Ticket) (ops : List Operation) :
    (stageOps ticket ops).Honest env world side Fine := by
  induction ops with
  | nil => exact .done _
  | cons op ops ih =>
      exact .bind (honest_ask hm _ _) (fun _ => ih) fun _ =>
        Runs.not_good (Dialogue.not_fine_error _)

theorem honest_stageParts (hm : env.Mirrors world side) (ticket : Ticket) (parts : List Part) :
    (stageParts ticket parts).Honest env world side Fine := by
  induction parts with
  | nil => exact .done _
  | cons part parts ih =>
      have staged : ∀ ops, ((stageOps ticket ops).andThen fun _ => stageParts ticket parts).Honest
          env world side Fine := fun ops =>
        .bind (honest_stageOps hm ticket ops) (fun _ => ih) fun _ =>
          Runs.not_good (Dialogue.not_fine_error _)
      cases part with
      | plain op => exact staged [op]
      | sealed material ops =>
          exact .certs hm (fun files => staged (ops files)) fun _ =>
            Runs.not_good (Dialogue.not_fine_error _)

/-- What was read of the store is what it held. -/
theorem honest_takeStock (hm : env.Mirrors world side) (tracked : UInt64) :
    (takeStock tracked).Honest env world side fun stock => Fine stock.2 := by
  refine .bind (honest_ask hm _ _) (fun version => ?_) fun _ =>
    Runs.not_good (Dialogue.not_fine_error _)
  refine .bind (honest_ask hm _ _) (fun frontends => ?_) fun _ =>
    Runs.not_good (Dialogue.not_fine_error _)
  exact .bind (honest_ask hm _ _) (fun backends => .done _) fun _ =>
    Runs.not_good (Dialogue.not_fine_error _)

theorem honest_transact (hm : env.Mirrors world side) (tracked : UInt64) (parts : List Part) :
    (transact tracked parts).Honest env world side Fine := by
  have hcommit (ticket : Ticket) : (Client.commit tracked ticket).Honest env world side Fine := by
    rw [Client.commit]
    split
    · exact .done _
    · exact honest_ask hm _ _
  refine .bind (honest_ask hm _ _) (fun ticket => ?_) fun _ =>
    Runs.not_good (Dialogue.not_fine_error _)
  refine .bind (honest_stageParts hm ticket parts) (fun done => ?_) fun e s s' b h => ?_
  · exact .bind (hcommit ticket) (fun version => .done _) fun _ =>
      Runs.not_good (Dialogue.not_fine_error _)
  · obtain ⟨s₁, answer, -, hdone⟩ := Runs.bind_iff.1 h
    exact Runs.not_good (Dialogue.not_fine_error e) s₁ s' b hdone

theorem honest_carryOut (hm : env.Mirrors world side) (r : Reconciler) (plan : Plan) :
    (r.carryOut next plan).Honest env world side fun done => Fine done.2 := by
  rw [carryOut]
  split
  · exact .done _
  · refine .bind (honest_transact hm _ _) (fun versions => .retain hm (.done _))
      fun e s s' b h => ?_
    obtain ⟨r', out⟩ := b
    obtain ⟨rfl, -⟩ := recover_leaves h
    exact Dialogue.not_fine_error e

/-- **A pass that succeeds goes as in a world that mirrors those who answered.** -/
theorem honest_apply (hm : env.Mirrors world side) (r : Reconciler) (next : Snapshot) :
    (r.apply next).Honest env world side fun done => Fine done.2 := by
  rw [apply]
  split
  · intro s s'' b h hfine
    obtain ⟨s', ⟨t, stock⟩, htake, hrest⟩ := Runs.bind_iff.1 h
    cases stock with
    | error e =>
        obtain ⟨-, rfl⟩ := Runs.done_iff.1 hrest
        exact absurd hfine (Dialogue.not_fine_error e)
    | ok inventory =>
        rw [Dialogue.run_bind, honest_takeStock hm r.tracked s s' _ htake ⟨_, rfl⟩]
        exact honest_carryOut hm _ _ s' s'' b hrest hfine
  · exact honest_carryOut hm r _

end Reconciler

end MeshSync.Reconcile
