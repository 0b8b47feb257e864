import MeshSync.Reconcile.Listener
import MeshSync.SortedMap
import MeshSync.Text.Search

/-! # Plans

    Which listeners have to be built, rebuilt or removed to go from one state
    to the next.  A plan is made from the snapshot that was committed last, or
    else from the names that the store lists. -/

namespace MeshSync.Reconcile

/-- The changes to be made. -/
structure Plan where
  /-- Build the downstream, after deleting what is there of it. -/
  downstream : Option Existing
  /-- The upstreams to delete. -/
  removed : List (String × Existing)
  /-- The upstreams to build, after deleting what is there of them. -/
  rebuilt : List (String × Existing)
  deriving DecidableEq, Inhabited

/-- The frontends and backends that a store lists. -/
structure Inventory where
  frontends : List String
  backends : List String
  deriving DecidableEq, Inhabited

namespace Inventory

/-- What is there of a listener. -/
def existing (i : Inventory) (l : Listener) : Existing :=
  ⟨i.frontends.contains l.frontend, i.backends.contains l.backend⟩

/-- The upstreams of which something is there, in order. -/
def services (i : Inventory) : List String :=
  let names := i.frontends.filterMap (Text.after? Listener.upstreamFrontendLead) ++
    i.backends.filterMap (Text.after? Listener.upstreamBackendLead)
  (SortedMap.ofList (names.map (·, ()))).keys

end Inventory

namespace Plan

/-- What to do with the downstream. -/
def downstreamBetween : Option Snapshot → Snapshot → Option Existing
  | none, _ => some .neither
  | some previous, next => if previous.downstream = next.downstream then none else some .both

/-- The upstreams of a snapshot by their names. -/
def byName : Option Snapshot → SortedMap String Upstream
  | none => ∅
  | some s => .ofList (s.upstreams.map fun u => (u.service, u))

/-- What to do with an upstream, given those before. -/
def rebuild? (before : SortedMap String Upstream) (u : Upstream) : Option (String × Existing) :=
  match before.get? u.service with
  | none => some (u.service, .neither)
  | some old => if old.same u then none else some (u.service, .both)

/-- The changes from the last committed snapshot to the next. -/
def between (previous : Option Snapshot) (next : Snapshot) : Plan :=
  let before := byName previous
  { downstream := downstreamBetween previous next
    removed := (before.keys.filter fun n => (next.upstream? n).isNone).map (·, .both)
    rebuilt := next.upstreams.filterMap (rebuild? before) }

/-- Everything is built anew, and what the store holds of it or of other
    upstreams is deleted. -/
def fromStore (store : Inventory) (next : Snapshot) : Plan :=
  { downstream := some (store.existing .downstream)
    removed := (store.services.filter fun n => (next.upstream? n).isNone).map fun n =>
      (n, store.existing (.upstream n))
    rebuilt := next.upstreams.map fun u => (u.service, store.existing (.upstream u.service)) }

/-- Whether there is nothing to do. -/
def isEmpty (p : Plan) : Bool := p.downstream.isNone && p.removed.isEmpty && p.rebuilt.isEmpty

/-- Delete what is there of a listener, and build what follows. -/
def replaceParts (l : Listener) (existing : Existing) (build : List Part) : List Part :=
  (l.teardown existing).map .plain ++ build

/-- Rebuild an upstream of a snapshot. -/
def rebuildParts (next : Snapshot) (options : Options) (service : String) (existing : Existing) :
    List Part :=
  replaceParts (.upstream service) existing
    (match next.upstream? service with
      | none => []
      | some u => Upstream.build u options)

/-- Everything that a plan stages for a snapshot, in order. -/
def parts (p : Plan) (next : Snapshot) (options : Options) : List Part :=
  (match p.downstream with
    | none => []
    | some existing => replaceParts .downstream existing (Downstream.build next.downstream options)) ++
  (p.removed.flatMap fun (name, existing) => replaceParts (.upstream name) existing []) ++
  (p.rebuilt.flatMap fun (name, existing) => rebuildParts next options name existing)

end Plan

end MeshSync.Reconcile
