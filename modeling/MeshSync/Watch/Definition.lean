import MeshSync.Watch.State

/-! # What replies change

    How the content of a reply is written into the state.  The definition of
    the sidecar also decides which upstreams are watched: an upstream keeps
    its record and its watch as long as it is declared in the same datacenter,
    and gets new ones otherwise. -/

namespace MeshSync.Watch

namespace State

/-- Take in the authorities one by one, so that one that cannot be read does
    not hide the others. -/
def takeRoots (roots : List Mesh.CaRoot) : List Bytes × CaPool :=
  roots.foldl (fun (pems, pool) root =>
    let pem := Bytes.ofText root.pem
    let (pool, accepted) := pool.appendPem pem
    (if accepted then pems ++ [pem] else pems, pool)) ([], .empty)

/-- The authorities have changed. -/
def setRoots (s : State) (roots : Mesh.CaRoots) : State :=
  let (pems, pool) := takeRoots roots.roots
  { s with caPems := pems, caPool := pool }

/-- The certificate has changed. -/
def setLeaf (s : State) (leaf : Mesh.Leaf) : State :=
  { s with leaf := some ⟨Bytes.ofText leaf.certPem, Bytes.ofText leaf.keyPem⟩ }

/-- The service's registration has changed. -/
def setService (s : State) (service : Mesh.Service) : State :=
  { s with downstream := { s.downstream with targetPort := service.port } }

/-- The instances of an upstream have changed. -/
def setInstances (s : State) (name : String) (record : UpstreamRecord)
    (instances : List Mesh.Instance) : State :=
  { s with upstreams := s.upstreams.insert name { record with instances := instances } }

end State

/-! ## The definition of the sidecar -/

/-- The key of the address that the downstream is bound to. -/
def bindAddressKey : String := "bind_address"

/-- The key of the address of the application. -/
def targetAddressKey : String := "local_service_address"

/-- The address the downstream is bound to where none is configured. -/
def standardBindAddress : String := "0.0.0.0"

/-- The address of the application where none is configured. -/
def standardTargetAddress : String := "127.0.0.1"

/-- The definition of a service that has none. -/
def blankSidecar : Mesh.Sidecar := ⟨"", "", ∅, []⟩

/-- The upstreams that a definition declares, by their names; of two with one
    name the later counts. -/
def declared (sidecar : Mesh.Sidecar) : SortedMap String Mesh.UpstreamDeclaration :=
  .ofList (sidecar.upstreams.map fun u => (u.destinationName, u))

/-- Whether a record stands for what is declared under its name. -/
def keeps (declared : SortedMap String Mesh.UpstreamDeclaration) (name : String)
    (record : UpstreamRecord) : Bool :=
  match declared.get? name with
  | some d => d.datacenter = record.datacenter
  | none => false

/-- A watch to be started. -/
structure Start where
  id : WatchId
  service : String
  datacenter : String
  deriving DecidableEq, Inhabited

/-- Bring the record of a declared upstream up to date, or make a new one with
    a watch of the given id. -/
def declare (upstreams : SortedMap String UpstreamRecord) (id : WatchId) (name : String)
    (d : Mesh.UpstreamDeclaration) : SortedMap String UpstreamRecord × Option Start :=
  match upstreams.get? name with
  | some record =>
    (upstreams.insert name
      { record with localBindAddress := d.localBindAddress, localBindPort := d.localBindPort }, none)
  | none =>
    (upstreams.insert name
      { service := name
        datacenter := d.datacenter
        localBindAddress := d.localBindAddress
        localBindPort := d.localBindPort
        instances := []
        watch := id }, some ⟨id, name, d.datacenter⟩)

/-- Bring the records of all declared upstreams up to date; ids are given out
    from `next` on. -/
def declareAll (upstreams : SortedMap String UpstreamRecord) (next : WatchId) :
    List (String × Mesh.UpstreamDeclaration) → SortedMap String UpstreamRecord × List Start
  | [] => (upstreams, [])
  | (name, d) :: rest =>
    match declare upstreams next name d with
    | (upstreams, none) => declareAll upstreams next rest
    | (upstreams, some start) =>
      let (upstreams, starts) := declareAll upstreams (next + 1) rest
      (upstreams, start :: starts)

/-- What a new definition of the sidecar brings about. -/
structure Redefinition where
  state : State
  /-- The watches that are no longer needed. -/
  cancelled : List WatchId
  started : List Start

/-- The sidecar's definition has changed; ids of new watches are given out from
    `next` on. -/
def State.define (s : State) (next : WatchId) (service : Mesh.Service) : Redefinition :=
  let sidecar := service.sidecar.getD blankSidecar
  let declared := declared sidecar
  let downstream : DownstreamRecord :=
    { s.downstream with
      localBindAddress := (sidecar.configText? bindAddressKey).getD standardBindAddress
      localBindPort := service.port
      targetAddress := (sidecar.configText? targetAddressKey).getD standardTargetAddress }
  let dropped := s.upstreams.filter fun name record => !keeps declared name record
  let (upstreams, started) :=
    declareAll (s.upstreams.filter (keeps declared)) next declared.entries
  { state := { s with downstream := downstream, upstreams := upstreams }
    cancelled := dropped.values.map (·.watch)
    started := started }

end MeshSync.Watch
