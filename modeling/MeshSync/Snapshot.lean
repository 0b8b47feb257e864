import MeshSync.Pem

/-! # Snapshots

    What the proxy has to know at one instant: where mesh traffic enters, the
    remote services that local callers reach through the proxy, and the
    certificates both are served with. -/

namespace MeshSync

/-- A pool of trusted certificates, each in its DER form. -/
@[ext]
structure CaPool where
  certificates : List Bytes
  deriving DecidableEq, Inhabited

namespace CaPool

/-- The pool that trusts nobody. -/
def empty : CaPool := ⟨[]⟩

/-- Add every certificate of a PEM text; true if the text is well formed and
    held at least one.  The certificates before a malformed part are added all
    the same. -/
def appendPem (pool : CaPool) (pem : Bytes) : CaPool × Bool :=
  let (ders, whole) := Pem.certificates pem
  (⟨pool.certificates ++ ders⟩, whole && !ders.isEmpty)

end CaPool

/-- The certificates that one listener presents and trusts. -/
@[ext]
structure TlsMaterial where
  /-- PEM texts of the authorities, in the order the mesh gave them. -/
  cas : List Bytes
  /-- PEM text of the certificate. -/
  cert : Bytes
  /-- PEM text of its private key. -/
  key : Bytes
  deriving DecidableEq, Inhabited

/-- Where mesh traffic enters this node and where it goes from there. -/
@[ext]
structure Downstream where
  localBindAddress : String
  localBindPort : UInt16
  targetAddress : String
  targetPort : UInt16
  tls : TlsMaterial
  deriving DecidableEq, Inhabited

/-- An instance of a remote service and its share of the load. -/
structure Endpoint where
  host : String
  port : UInt16
  weight : UInt32
  deriving DecidableEq, Inhabited

namespace Endpoint

/-- Endpoints are ordered by host, then port, then weight. -/
instance : Ord Endpoint where
  compare := compareLex (compareOn (·.host)) (compareLex (compareOn (·.port)) (compareOn (·.weight)))

/-- Whether one endpoint may stand before another in a sorted list. -/
def le (a b : Endpoint) : Bool := (compare a b).isLE

/-- The endpoints in order. -/
def sort (es : List Endpoint) : List Endpoint := es.mergeSort le

/-- Drop an endpoint that equals the one before it. -/
def dedupSorted : List Endpoint → List Endpoint
  | a :: b :: rest => if a = b then dedupSorted (b :: rest) else a :: dedupSorted (b :: rest)
  | es => es

/-- The set of the endpoints, as an ascending list. -/
def toSet (es : List Endpoint) : List Endpoint := dedupSorted (sort es)

end Endpoint

/-- A remote service that local callers reach through the proxy. -/
structure Upstream where
  service : String
  localBindAddress : String
  localBindPort : UInt16
  tls : TlsMaterial
  endpoints : List Endpoint
  deriving DecidableEq, Inhabited

namespace Upstream

/-- The endpoints as a set, which is all that counts for the proxy. -/
def endpointSet (u : Upstream) : List Endpoint := Endpoint.toSet u.endpoints

/-- Whether two upstreams ask for the same service in the same way; the order
    and the repetition of endpoints carry no meaning. -/
def same (a b : Upstream) : Bool :=
  a.service = b.service && a.localBindAddress = b.localBindAddress &&
    a.localBindPort = b.localBindPort && a.tls = b.tls && a.endpointSet = b.endpointSet

end Upstream

/-- Everything the proxy has to know, at one instant. -/
@[ext]
structure Snapshot where
  serviceName : String
  serviceId : String
  caPool : CaPool
  downstream : Downstream
  upstreams : List Upstream
  deriving DecidableEq, Inhabited

namespace Snapshot

/-- The first upstream with a name. -/
def upstream? (s : Snapshot) (service : String) : Option Upstream :=
  s.upstreams.find? (·.service = service)

/-- The material of every listener, that of the downstream first. -/
def tlsMaterials (s : Snapshot) : List TlsMaterial := s.downstream.tls :: s.upstreams.map (·.tls)

/-- Whether the upstreams of two lists agree pair by pair. -/
def sameUpstreams : List Upstream → List Upstream → Bool
  | [], [] => true
  | a :: as, b :: bs => a.same b && sameUpstreams as bs
  | _, _ => false

/-- Whether two snapshots ask for the same configuration. -/
def same (a b : Snapshot) : Bool :=
  a.serviceName = b.serviceName && a.serviceId = b.serviceId && a.caPool = b.caPool &&
    a.downstream = b.downstream && sameUpstreams a.upstreams b.upstreams

end Snapshot

end MeshSync
