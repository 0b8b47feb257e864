import MeshSync.Mesh.Registration
import MeshSync.Snapshot

/-! # Health-aware selection

    Which instances of a service may receive traffic, and how much: the worst
    check of an instance decides which of its weights counts, and an instance
    whose worst check is neither passing nor warning, or whose weight is zero,
    is left out. -/

namespace MeshSync.Mesh

/-- The health of an instance. -/
inductive Status where
  | passing
  | warning
  | critical
  | maintenance
  deriving DecidableEq, Inhabited

namespace Status

/-- The health that a check reports; what is not known counts as critical. -/
def ofText (s : String) : Status :=
  if s = "passing" then passing
  else if s = "warning" then warning
  else if s = "maintenance" then maintenance
  else critical

/-- How bad a health is. -/
def severity : Status → Nat
  | passing => 0
  | warning => 1
  | critical => 2
  | maintenance => 3

/-- The worse of two. -/
def worse (a b : Status) : Status := if a.severity ≤ b.severity then b else a

/-- The name of a health. -/
def name : Status → String
  | passing => "Passing"
  | warning => "Warning"
  | critical => "Critical"
  | maintenance => "Maintenance"

/-- The worst of what checks report; passing where there is no check. -/
def worst (statuses : List String) : Status :=
  statuses.foldl (fun acc s => acc.worse (ofText s)) passing

end Status

namespace Instance

/-- The worst health of an instance. -/
def status (i : Instance) : Status := Status.worst (i.checks.map (·.status))

/-- The weight for a health; none where no traffic may go. -/
def weight? (i : Instance) : Option UInt32 :=
  match i.status with
  | .passing => some i.service.weights.passing
  | .warning => some i.service.weights.warning
  | .critical => none
  | .maintenance => none

/-- The host of an instance: its service's address, or its node's. -/
def host (i : Instance) : String :=
  if i.service.address.isEmpty then i.node.address else i.service.address

/-- The endpoint of an instance that may receive traffic. -/
def endpoint? (i : Instance) : Option Endpoint :=
  match i.weight? with
  | none => none
  | some weight => if weight = 0 then none else some ⟨i.host, i.service.port, weight⟩

end Instance

/-- The endpoints of all instances that may receive traffic, in order. -/
def selectEndpoints (instances : List Instance) : List Endpoint :=
  Endpoint.sort (instances.filterMap (·.endpoint?))

end MeshSync.Mesh
