import MeshSync.Dataplane.Client
import MeshSync.Reconcile.Plan

/-! # Passes

    A pass brings the proxy in line with a snapshot by one transaction.  The
    state that is compared with is the last committed snapshot, so a failed
    pass never makes the next one skip anything; after a failure what the
    store holds is unknown, as a commit may have been done although it was
    reported as failed, and the next pass starts from the store's listing. -/

namespace MeshSync.Reconcile

open Dataplane (Ticket)

/-- Why a pass failed. -/
inductive PassError where
  | dataplane (cause : Dataplane.Error)
  | certificates (cause : Certificates.Error)

namespace PassError

/-- The wording of an error. -/
def message : PassError → String
  | dataplane cause => s!"dataplane: {cause.message}"
  | certificates cause => s!"certificates: {cause.message}"

/-- Whether the version that was assumed is no longer current. -/
def isVersionConflict : PassError → Bool
  | dataplane cause => cause.isVersionConflict
  | certificates _ => false

end PassError

/-- What a pass did. -/
inductive Outcome where
  /-- Nothing had to be done, and no request was sent. -/
  | unchanged
  /-- A transaction was committed. -/
  | applied (version : UInt64) (downstream : Bool) (rebuilt removed : Nat)
  deriving DecidableEq, Inhabited

/-- What passes know of each other. -/
structure Reconciler where
  options : Options
  /-- The version the client tracks. -/
  tracked : UInt64
  /-- The last committed snapshot. -/
  applied : Option Snapshot
  /-- Whether the last pass failed. -/
  force : Bool

namespace Reconciler

/-- Nothing has been committed. -/
def new (options : Options) (tracked : UInt64) : Reconciler := ⟨options, tracked, none, false⟩

/-! ## Staging -/

/-- Stage operations, up to the first that is refused. -/
def stageOps (ticket : Ticket) : List Dataplane.Operation → Dialogue (Except PassError Unit)
  | [] => .done (.ok ())
  | op :: ops => (Dataplane.Client.stage ticket op).bind fun
    | .error e => .done (.error (.dataplane e))
    | .ok () => stageOps ticket ops

/-- Stage parts, up to the first that fails. -/
def stageParts (ticket : Ticket) : List Part → Dialogue (Except PassError Unit)
  | [] => .done (.ok ())
  | .plain op :: parts => (stageOps ticket [op]).andThen fun () => stageParts ticket parts
  | .sealed material ops :: parts => .certs material fun
    | .error e => .done (.error (.certificates e))
    | .ok paths => (stageOps ticket (ops paths)).andThen fun () => stageParts ticket parts

/-- Stage parts in a transaction of their own and commit it; gives the version
    that the transaction was opened at and the one to track. -/
def transact (tracked : UInt64) (parts : List Part) :
    Dialogue (Except PassError (UInt64 × UInt64)) :=
  (Dataplane.Client.begin tracked).bind fun
    | .error e => .done (.error (.dataplane e))
    | .ok ticket => (stageParts ticket parts).bind fun
      | .error e => (Dataplane.Client.abort ticket).bind fun _ => .done (.error e)
      | .ok () => (Dataplane.Client.commit tracked ticket).bind fun
        | .error e => .done (.error (.dataplane e))
        | .ok version => .done (.ok (ticket.version, version))

/-! ## Planning -/

/-- Read the version and the listing of the store; gives the version to track
    in any case. -/
def takeStock (tracked : UInt64) : Dialogue (UInt64 × Except PassError Inventory) :=
  Dataplane.Client.refreshVersion.bind fun
    | .error e => .done (tracked, .error (.dataplane e))
    | .ok version => (Dataplane.Client.listNames "frontends").bind fun
      | .error e => .done (version, .error (.dataplane e))
      | .ok frontends => (Dataplane.Client.listNames "backends").bind fun
        | .error e => .done (version, .error (.dataplane e))
        | .ok backends => .done (version, .ok ⟨frontends, backends⟩)

/-! ## Passes -/

/-- After a pass that failed in its transaction: the next one starts from the
    store, and a version that turned out stale is read again. -/
def recover (r : Reconciler) (e : PassError) : Dialogue (Reconciler × Except PassError Outcome) :=
  let failed := { r with force := true }
  if e.isVersionConflict then
    Dataplane.Client.refreshVersion.bind fun
      | .ok version => .done ({ failed with tracked := version }, .error e)
      | .error _ => .done (failed, .error e)
  else .done (failed, .error e)

/-- After a pass that was committed. -/
def settle (r : Reconciler) (next : Snapshot) (plan : Plan) (opened tracked : UInt64) :
    Dialogue (Reconciler × Except PassError Outcome) :=
  .retain next.tlsMaterials
    (.done ({ r with tracked := tracked, applied := some next, force := false },
      .ok (.applied (opened + 1) plan.downstream.isSome plan.rebuilt.length plan.removed.length)))

/-- Carry out a plan for a snapshot. -/
def carryOut (r : Reconciler) (next : Snapshot) (plan : Plan) :
    Dialogue (Reconciler × Except PassError Outcome) :=
  if plan.isEmpty then .done (r, .ok .unchanged)
  else (transact r.tracked (plan.parts next r.options)).bind fun
    | .ok (opened, tracked) => r.settle next plan opened tracked
    | .error e => r.recover e

/-- Bring the proxy in line with a snapshot. -/
def apply (r : Reconciler) (next : Snapshot) : Dialogue (Reconciler × Except PassError Outcome) :=
  if r.force then
    (takeStock r.tracked).bind fun
      | (tracked, .error e) => .done ({ r with tracked := tracked }, .error e)
      | (tracked, .ok inventory) =>
        { r with tracked := tracked }.carryOut next (.fromStore inventory next)
  else r.carryOut next (.between r.applied next)

end Reconciler

end MeshSync.Reconcile
