import MeshSync.Mesh.Health

/-! # What the tracks have learned

    The latest content of every reply, in the form from which snapshots are
    taken.  A snapshot is taken only when a leaf certificate is known; all its
    listeners then present that certificate and trust the same authorities. -/

namespace MeshSync.Watch

/-- Names one watch of an upstream; no two watches ever share it. -/
abbrev WatchId := Nat

/-- A declared upstream and the instances last reported for it. -/
structure UpstreamRecord where
  service : String
  datacenter : String
  localBindAddress : String
  localBindPort : UInt16
  instances : List Mesh.Instance
  /-- The watch that reports the instances. -/
  watch : WatchId

/-- The downstream without its certificates. -/
structure DownstreamRecord where
  localBindAddress : String
  localBindPort : UInt16
  targetAddress : String
  targetPort : UInt16
  deriving DecidableEq, Inhabited

/-- A certificate with its private key. -/
structure LeafRecord where
  cert : Bytes
  key : Bytes
  deriving DecidableEq, Inhabited

/-- Everything the tracks have learned so far. -/
structure State where
  upstreams : SortedMap String UpstreamRecord
  downstream : DownstreamRecord
  /-- The PEM texts of the accepted authorities. -/
  caPems : List Bytes
  caPool : CaPool
  leaf : Option LeafRecord

/-- The upstream that a record describes, served with these certificates. -/
def UpstreamRecord.upstream (r : UpstreamRecord) (tls : TlsMaterial) : Upstream :=
  { service := r.service
    localBindAddress := r.localBindAddress
    localBindPort := r.localBindPort
    tls := tls
    endpoints := Mesh.selectEndpoints r.instances }

/-- The downstream that a record describes, served with these certificates. -/
def DownstreamRecord.downstream (r : DownstreamRecord) (tls : TlsMaterial) : Downstream :=
  { localBindAddress := r.localBindAddress
    localBindPort := r.localBindPort
    targetAddress := r.targetAddress
    targetPort := r.targetPort
    tls := tls }

namespace State

/-- Nothing has been learned. -/
def empty : State := ⟨∅, ⟨"", 0, "", 0⟩, [], .empty, none⟩

/-- The certificates of every listener, once a leaf is known. -/
def tls? (s : State) : Option TlsMaterial :=
  s.leaf.map fun leaf => { cas := s.caPems, cert := leaf.cert, key := leaf.key }

/-- The snapshot of a state, for a service with this name and id. -/
def snapshot? (s : State) (serviceName serviceId : String) : Option Snapshot :=
  s.tls?.map fun tls =>
    { serviceName := serviceName
      serviceId := serviceId
      caPool := s.caPool
      downstream := s.downstream.downstream tls
      upstreams := s.upstreams.values.map (·.upstream tls) }

end State

end MeshSync.Watch
