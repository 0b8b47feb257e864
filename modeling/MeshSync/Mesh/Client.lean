import MeshSync.Http.Message
import MeshSync.Mesh.Decode
import MeshSync.Mesh.Error
import MeshSync.Mesh.Query
import MeshSync.Url.Parser

/-! # The control plane's client

    A client turns a query into a request to the control plane's agent and the
    reply into content and a position.  A blocking endpoint has to say how far
    its reply reads: without that the asker would ask for the same thing again
    and again, so such a reply is refused. -/

namespace MeshSync.Mesh

/-- The header that tells the index of a reply. -/
def indexHeader : String := "x-consul-index"

/-- The header that tells the content hash of a reply. -/
def hashHeader : String := "x-consul-contenthash"

/-- The header that carries the asker's token. -/
def tokenHeader : String := "x-consul-token"

/-- What a reply must tell about its position. -/
inductive Marker where
  | index
  | hash
  /-- Nothing, where queries do not block. -/
  | nothing
  deriving DecidableEq, Inhabited

/-- Where something can be asked for, and how replies read. -/
structure Endpoint (α : Type) where
  path : String
  marker : Marker
  read : Reader α

namespace Endpoint

/-- All services of the local agent. -/
def services : Endpoint (SortedMap String Service) := ⟨"/v1/agent/services", .nothing, readServices⟩

/-- A service of the local agent. -/
def agentService (id : String) : Endpoint Service :=
  ⟨s!"/v1/agent/service/{id}", .hash, Service.read Source.maxDepth⟩

/-- The mesh's authorities. -/
def caRoots : Endpoint CaRoots := ⟨"/v1/agent/connect/ca/roots", .index, CaRoots.read⟩

/-- The certificate of a service. -/
def caLeaf (service : String) : Endpoint Leaf :=
  ⟨s!"/v1/agent/connect/ca/leaf/{service}", .index, Leaf.read⟩

/-- The instances of a service that take part in the mesh. -/
def instances (service : String) : Endpoint (List Instance) :=
  ⟨s!"/v1/health/connect/{service}", .index, Reader.list Instance.read⟩

end Endpoint

/-! ## Requests -/

/-- The pairs that carry a query's options; what says nothing is left out. -/
def Query.pairs (q : Query) : List (String × String) :=
  (if q.index > 0 then [("index", Decimal.text q.index.toNat)] else []) ++
    (if q.hash.isEmpty then [] else [("hash", q.hash)]) ++
    (if q.wait = 0 then [] else [("wait", s!"{Decimal.text q.wait}ms")]) ++
    match q.datacenter with
    | none => []
    | some name => if name.isEmpty then [] else [("dc", name)]

/-- A client of a control plane. -/
structure Client where
  address : Url
  token : Option String
  deriving DecidableEq, Inhabited

namespace Client

/-- A client for the control plane at an address. -/
def connect (address : String) (token : Option String) : Except Error Client :=
  match Url.parse address with
  | .ok url => .ok ⟨url, token⟩
  | .error cause => .error (.decode (.badAddress address cause))

/-- The request for a path with a query's options. -/
def request (c : Client) (path : String) (q : Query) : Except Error Http.Request :=
  match c.address.withReference path with
  | .error cause => .error (.decode (.badPath path cause))
  | .ok url => .ok
    { method := "GET"
      url := url.withPairs q.pairs
      headers := match c.token with
        | none => []
        | some token => [(tokenHeader, token)]
      body := none }

end Client

/-! ## Replies -/

/-- The index that a reply tells; zero if it may keep silent and does. -/
def readIndex (path : String) (needed : Bool) (reply : Http.Reply) : Except Error UInt64 :=
  match reply.header? indexHeader with
  | none => if needed then .error (.decode (.noHeader path indexHeader)) else .ok 0
  | some bytes =>
    match (Http.headerText? bytes).bind fun text => Decimal.natural? Decimal.max64 text.toList with
    | some n => .ok (UInt64.ofNat n)
    | none => .error (.decode (.badHeader path indexHeader))

/-- The content hash that a reply tells; empty if it may keep silent and does. -/
def readHash (path : String) (needed : Bool) (reply : Http.Reply) : Except Error String :=
  match reply.header? hashHeader with
  | none => if needed then .error (.decode (.noHeader path hashHeader)) else .ok ""
  | some bytes =>
    match Http.headerText? bytes with
    | some text => .ok text
    | none => .error (.decode (.badHeader path hashHeader))

/-- How far a reply reads. -/
def readPosition (path : String) (marker : Marker) (reply : Http.Reply) : Except Error Position := do
  let index ← readIndex path (marker = .index) reply
  let hash ← readHash path (marker = .hash) reply
  return ⟨index, hash⟩

namespace Endpoint

variable {α : Type}

/-- What a reply means to the asker. -/
def interpret (e : Endpoint α) (reply : Http.Reply) : Except Error (α × Position) := do
  if reply.status = 404 then
    throw (.notFound e.path)
  if reply.status < 200 || 300 ≤ reply.status then
    throw (.status e.path reply.status (Bytes.lossyText reply.body))
  let position ← readPosition e.path e.marker reply
  match (Bytes.text? reply.body).map (decode e.read) with
  | some (.ok content) => return (content, position)
  | _ => throw (.decode (.badBody e.path))

end Endpoint

namespace Client

variable {α : Type}

/-- Ask for what an endpoint has. -/
def ask (exchange : Http.Exchange) (c : Client) (e : Endpoint α) (q : Query) :
    Except Error (α × Position) := do
  let request ← c.request e.path q
  match exchange.send request with
  | some reply => e.interpret reply
  | none => throw .http

end Client

/-! ## Sidecars -/

/-- Whether a service is the sidecar of another. -/
def Service.isSidecarOf (s : Service) (serviceId : String) : Bool :=
  s.kind = "connect-proxy" && s.sidecar.any (·.destinationId = serviceId)

/-- The id of the only sidecar of a service. -/
def sidecarAmong (serviceId : String) (services : List Service) : Except Error String :=
  match services.filter (·.isSidecarOf serviceId) with
  | [sidecar] => .ok sidecar.id
  | [] => .error (.notFound s!"no sidecar proxy registered for service {serviceId}")
  | _ => .error (.decode (.severalSidecars serviceId))

/-- Ask for the id of a service's sidecar. -/
def Client.sidecar (exchange : Http.Exchange) (c : Client) (serviceId : String) :
    Except Error String := do
  let (services, _) ← c.ask exchange .services .immediate
  sidecarAmong serviceId services.values

end MeshSync.Mesh
