import MeshSync.Json.Parser
import MeshSync.Json.Record
import MeshSync.Mesh.Registration

/-! # Reading registrations

    The readers of the control plane's JSON.  Every field may be missing and
    then has the value of an empty registration; the weights of an instance
    are one each where they are not given. -/

namespace MeshSync.Mesh

open Reader

/-- An upstream declaration. -/
def UpstreamDeclaration.read : Reader UpstreamDeclaration := fun s => do
  let r ← Record.read "struct UpstreamDefinition"
    ["DestinationType", "DestinationName", "Datacenter", "LocalBindAddress", "LocalBindPort"] s
  let destinationType ← r.defaulted "DestinationType" text ""
  let destinationName ← r.defaulted "DestinationName" text ""
  let datacenter ← r.defaulted "Datacenter" text ""
  let localBindAddress ← r.defaulted "LocalBindAddress" text ""
  let localBindPort ← r.defaulted "LocalBindPort" word16 0
  r.closed
  return { destinationType, destinationName, datacenter, localBindAddress, localBindPort }

/-- A sidecar part that lies inside so many fewer arrays and objects than may
    be. -/
def Sidecar.read (room : Nat) : Reader Sidecar := fun s => do
  let r ← Record.read "struct AgentServiceProxy"
    ["DestinationServiceName", "DestinationServiceID", "Config", "Upstreams"] s
  let destinationName ← r.defaulted "DestinationServiceName" text ""
  let destinationId ← r.defaulted "DestinationServiceID" text ""
  let config ← r.defaulted "Config" (Reader.map (any (room - 2))) ∅
  let upstreams ← r.defaulted "Upstreams" (list UpstreamDeclaration.read) []
  r.closed
  return { destinationName, destinationId, config, upstreams }

/-- A service that lies inside so many fewer arrays and objects than may be. -/
def Service.read (room : Nat) : Reader Service := fun s => do
  let r ← Record.read "struct AgentService" ["ID", "Service", "Kind", "Address", "Port", "Proxy"] s
  let id ← r.defaulted "ID" text ""
  let name ← r.defaulted "Service" text ""
  let kind ← r.defaulted "Kind" text ""
  let address ← r.defaulted "Address" text ""
  let port ← r.defaulted "Port" word16 0
  let sidecar ← r.defaulted "Proxy" (option (Sidecar.read (room - 1))) none
  r.closed
  return { id, name, kind, address, port, sidecar }

/-- The services of an agent, by their ids. -/
def readServices : Reader (SortedMap String Service) :=
  Reader.map (Service.read (Source.maxDepth - 1))

/-- An authority. -/
def CaRoot.read : Reader CaRoot := fun s => do
  let r ← Record.read "struct CaRoot" ["ID", "Name", "RootCertPEM", "Active"] s
  let id ← r.defaulted "ID" text ""
  let name ← r.defaulted "Name" text ""
  let pem ← r.defaulted "RootCertPEM" text ""
  let active ← r.defaulted "Active" flag false
  r.closed
  return { id, name, pem, active }

/-- The authorities. -/
def CaRoots.read : Reader CaRoots := fun s => do
  let r ← Record.read "struct CaRootList" ["ActiveRootID", "Roots"] s
  let activeId ← r.defaulted "ActiveRootID" text ""
  let roots ← r.defaulted "Roots" (list CaRoot.read) []
  r.closed
  return { activeId, roots }

/-- A certificate of a service. -/
def Leaf.read : Reader Leaf := fun s => do
  let r ← Record.read "struct LeafCert" ["SerialNumber", "CertPEM", "PrivateKeyPEM", "Service"] s
  let serial ← r.defaulted "SerialNumber" text ""
  let certPem ← r.defaulted "CertPEM" text ""
  let keyPem ← r.defaulted "PrivateKeyPEM" text ""
  let service ← r.defaulted "Service" text ""
  r.closed
  return { serial, certPem, keyPem, service }

/-- A node. -/
def Node.read : Reader Node := fun s => do
  let r ← Record.read "struct Node" ["Node", "Address", "Datacenter"] s
  let name ← r.defaulted "Node" text ""
  let address ← r.defaulted "Address" text ""
  let datacenter ← r.defaulted "Datacenter" text ""
  r.closed
  return { name, address, datacenter }

/-- The weights of an instance that gives none. -/
def Weights.even : Weights := ⟨1, 1⟩

/-- Weights. -/
def Weights.read : Reader Weights := fun s => do
  let r ← Record.read "struct Weights" ["Passing", "Warning"] s
  let passing ← r.defaulted "Passing" word32 Weights.even.passing
  let warning ← r.defaulted "Warning" word32 Weights.even.warning
  r.closed
  return { passing, warning }

/-- The service side of an instance. -/
def InstanceService.read : Reader InstanceService := fun s => do
  let r ← Record.read "struct EntryService" ["ID", "Service", "Address", "Port", "Weights"] s
  let id ← r.defaulted "ID" text ""
  let name ← r.defaulted "Service" text ""
  let address ← r.defaulted "Address" text ""
  let port ← r.defaulted "Port" word16 0
  let weights ← r.defaulted "Weights" Weights.read Weights.even
  r.closed
  return { id, name, address, port, weights }

/-- The service side of an instance that says nothing about it. -/
def InstanceService.blank : InstanceService := ⟨"", "", "", 0, Weights.even⟩

/-- A health check. -/
def Check.read : Reader Check := fun s => do
  let r ← Record.read "struct HealthCheck" ["CheckID", "Name", "Status"] s
  let id ← r.defaulted "CheckID" text ""
  let name ← r.defaulted "Name" text ""
  let status ← r.defaulted "Status" text ""
  r.closed
  return { id, name, status }

/-- An instance. -/
def Instance.read : Reader Instance := fun s => do
  let r ← Record.read "struct ServiceEntry" ["Node", "Service", "Checks"] s
  let node ← r.defaulted "Node" Node.read ⟨"", "", ""⟩
  let service ← r.defaulted "Service" InstanceService.read InstanceService.blank
  let checks ← r.defaulted "Checks" (list Check.read) []
  r.closed
  return { node, service, checks }

/-- What a whole text gives to a reader. -/
def decode {α : Type} (read : Reader α) (text : String) : Except DecodeError α :=
  match Source.parse? text with
  | some s => read s
  | none => .error .unreadable

end MeshSync.Mesh
