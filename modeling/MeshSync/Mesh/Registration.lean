import MeshSync.Json.Basic

/-! # What the mesh registers

    Services of the local agent with their sidecar registrations, the mesh's
    certificates, and the instances of a service with their health checks. -/

namespace MeshSync.Mesh

/-- An upstream that a sidecar registration declares. -/
structure UpstreamDeclaration where
  destinationType : String
  destinationName : String
  /-- The datacenter to look in; the agent's own when empty. -/
  datacenter : String
  localBindAddress : String
  localBindPort : UInt16
  deriving DecidableEq, Inhabited

/-- The sidecar part of a registration. -/
structure Sidecar where
  destinationName : String
  destinationId : String
  config : SortedMap String Json
  upstreams : List UpstreamDeclaration
  deriving Inhabited

/-- The value of a configuration key that holds a text. -/
def Sidecar.configText? (s : Sidecar) (key : String) : Option String :=
  (s.config.get? key).bind Json.string?

/-- A service registered on the local agent. -/
structure Service where
  id : String
  name : String
  kind : String
  address : String
  port : UInt16
  sidecar : Option Sidecar
  deriving Inhabited

/-- An authority of the mesh. -/
structure CaRoot where
  id : String
  name : String
  pem : String
  active : Bool
  deriving DecidableEq, Inhabited

/-- The authorities of the mesh. -/
structure CaRoots where
  activeId : String
  roots : List CaRoot
  deriving DecidableEq, Inhabited

/-- A certificate issued for a service. -/
structure Leaf where
  serial : String
  certPem : String
  keyPem : String
  service : String
  deriving DecidableEq, Inhabited

/-- A node of the mesh. -/
structure Node where
  name : String
  address : String
  datacenter : String
  deriving DecidableEq, Inhabited

/-- Shares of the load by health. -/
structure Weights where
  passing : UInt32
  warning : UInt32
  deriving DecidableEq, Inhabited

/-- The service side of an instance. -/
structure InstanceService where
  id : String
  name : String
  address : String
  port : UInt16
  weights : Weights
  deriving DecidableEq, Inhabited

/-- The result of one health check. -/
structure Check where
  id : String
  name : String
  status : String
  deriving DecidableEq, Inhabited

/-- An instance of a service, with its node and its health checks. -/
structure Instance where
  node : Node
  service : InstanceService
  checks : List Check
  deriving DecidableEq, Inhabited

end MeshSync.Mesh
