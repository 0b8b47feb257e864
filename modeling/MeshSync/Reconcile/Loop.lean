import MeshSync.Metrics
import MeshSync.Reconcile.Pass
import MeshSync.Reconcile.Status

/-! # The reconciler's loop

    Snapshots are applied in the order in which they arrive, one pass each,
    until there are no more or the loop is stopped.  After each pass the
    status and the counts say how it went. -/

namespace MeshSync.Reconcile

/-- How many passes ended how, and what the last commit left. -/
structure Tally where
  applied : Nat
  unchanged : Nat
  failed : Nat
  version : Option UInt64
  upstreams : Option Nat
  deriving DecidableEq, Inhabited

namespace Tally

/-- Nothing has been counted. -/
def zero : Tally := ⟨0, 0, 0, none, none⟩

/-- The name of the counter of passes. -/
def passes : String := "sidecar_reconcile_total"

/-- The lines of all measured values, in order. -/
def lines (t : Tally) : List String :=
  (t.version.map fun v => Metrics.gauge "sidecar_dataplane_version" v.toNat).toList ++
    Metrics.counter passes "result" "applied" t.applied ++
    Metrics.counter passes "result" "error" t.failed ++
    Metrics.counter passes "result" "unchanged" t.unchanged ++
    (t.upstreams.map (Metrics.gauge "sidecar_upstreams")).toList

end Tally

/-- A loop between two snapshots. -/
structure Loop where
  reconciler : Reconciler
  status : Status
  tally : Tally
  running : Bool

namespace Loop

/-- A loop that has seen no snapshot. -/
def new (options : Options) (tracked : UInt64) : Loop :=
  ⟨.new options tracked, .initial, .zero, true⟩

/-- Note how the pass for a snapshot went. -/
def note (l : Loop) (s : Snapshot) (r : Reconciler) : Except PassError Outcome → Loop
  | .ok .unchanged =>
    { l with reconciler := r, tally := { l.tally with unchanged := l.tally.unchanged + 1 } }
  | .ok (.applied version _ _ _) =>
    { l with
      reconciler := r
      status := .applied s version
      tally := { l.tally with
        applied := l.tally.applied + 1
        version := some version
        upstreams := some s.upstreams.length } }
  | .error e =>
    { l with
      reconciler := r
      status := l.status.failed e.message
      tally := { l.tally with failed := l.tally.failed + 1 } }

/-- Apply the next snapshot. -/
def receive (l : Loop) (s : Snapshot) : Dialogue Loop :=
  (l.reconciler.apply s).bind fun (r, outcome) => .done (l.note s r outcome)

/-- Apply snapshots in their order. -/
def receiveAll (l : Loop) : List Snapshot → Dialogue Loop
  | [] => .done l
  | s :: rest => (l.receive s).bind fun l => l.receiveAll rest

/-- Stop. -/
def stop (l : Loop) : Loop := { l with running := false }

end Loop

end MeshSync.Reconcile
