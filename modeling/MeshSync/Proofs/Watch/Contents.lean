import Mathlib.Data.List.Nodup
import MeshSync.Proofs.Watch.Ledger
import MeshSync.Proofs.Watch.Trusting

/-! # What a snapshot says

    Field by field, what answers put into a snapshot, told from the answers
    themselves and not from the state that they pass through.

    * `holdsCertificate` - the PEM texts that are handed on as authorities.
    * `configured` - an address that a sidecar may configure.
    * **`Says`** - what a snapshot says, given the answers.
    * `says_assembly` - the assembly says it.
    * `Says.unique` - and no other snapshot does. -/

namespace MeshSync.Watch

/-- Whether a PEM text is well formed and holds a certificate. -/
def holdsCertificate (pem : Bytes) : Bool :=
  (Pem.certificates pem).2 && !(Pem.certificates pem).1.isEmpty

/-- The text that a sidecar's configuration has under a key, or the standard one
    where it has none. -/
def configured (proxy : Mesh.Service) (key standard : String) : String :=
  match proxy.sidecar.bind (·.config.get? key) with
  | some (.string text) => text
  | _ => standard

/-- **What a snapshot says** where these are the latest answers. -/
structure Says (identity : Identity) (caRoots : Mesh.CaRoots) (leaf : Mesh.Leaf)
    (proxy service : Mesh.Service) (reported : String → List Mesh.Instance) (s : Snapshot) :
    Prop where
  serviceName : s.serviceName = identity.serviceName
  serviceId : s.serviceId = identity.serviceId
  /-- The authorities are the texts that hold a certificate and nothing
      malformed, in the order of the answer. -/
  authorities : s.downstream.tls.cas = (caRoots.roots.map pemOf).filter holdsCertificate
  /-- The pool has the certificates of all texts, up to the fault of each. -/
  pool : s.caPool.certificates =
    (caRoots.roots.map pemOf).flatMap fun pem => (Pem.certificates pem).1
  certificate : s.downstream.tls.cert = Bytes.ofText leaf.certPem
  key : s.downstream.tls.key = Bytes.ofText leaf.keyPem
  bindAddress : s.downstream.localBindAddress = configured proxy "bind_address" "0.0.0.0"
  bindPort : s.downstream.localBindPort = proxy.port
  targetAddress : s.downstream.targetAddress =
    configured proxy "local_service_address" "127.0.0.1"
  targetPort : s.downstream.targetPort = service.port
  /-- No upstream stands twice. -/
  ascending : (s.upstreams.map (·.service)).Pairwise (· < ·)
  /-- The upstreams are those that the sidecar declares, each as its last
      declaration says, with the material of the downstream and the endpoints
      selected from what is reported for it. -/
  upstreams : ∀ u, u ∈ s.upstreams ↔ ∃ d, declaration? proxy u.service = some d ∧
    u = ⟨u.service, d.localBindAddress, d.localBindPort, s.downstream.tls,
      Mesh.selectEndpoints (reported u.service)⟩

namespace Ledger

/-- **The snapshot that the latest answers determine**: each of the four tracks
    has had an answer, the snapshot says what the latest ones say, and no other
    snapshot says that. -/
def Determines (l : Ledger) (identity : Identity) (s : Snapshot) : Prop :=
  ∃ caRoots leaf proxy service, l.caRoots = some caRoots ∧ l.leaf = some leaf ∧
    l.proxy = some proxy ∧ l.service = some service ∧
    Says identity caRoots.1 leaf.1 proxy.1 service.1 l.reported s ∧
    ∀ s', Says identity caRoots.1 leaf.1 proxy.1 service.1 l.reported s' → s' = s

end Ledger

/-! ## The fields of the assembly -/

section Fields

variable (identity : Identity) (caRoots : Mesh.CaRoots) (leaf : Mesh.Leaf)
  (proxy service : Mesh.Service) (reported : String → List Mesh.Instance)

/-- The texts that are taken of authorities are those that hold a certificate. -/
theorem takeRoots_texts (roots : List Mesh.CaRoot) :
    (State.takeRoots roots).1 = (roots.map pemOf).filter holdsCertificate := by
  rw [takeRoots_eq, List.filter_map]
  rfl

/-- The pool taken of authorities has the certificates of all their texts. -/
theorem takeRoots_certificates (roots : List Mesh.CaRoot) :
    (State.takeRoots roots).2.certificates =
      (roots.map pemOf).flatMap fun pem => (Pem.certificates pem).1 := by
  rw [takeRoots_eq, List.flatMap_map]
  rfl

/-- What is configured is looked up in the sidecar, which may be missing. -/
theorem configText?_getD (key standard : String) :
    ((proxy.sidecar.getD blankSidecar).configText? key).getD standard =
      configured proxy key standard := by
  rw [configured, Mesh.Sidecar.configText?]
  cases proxy.sidecar with
  | none => rfl
  | some sidecar =>
      rw [Option.getD_some, Option.bind_some]
      cases sidecar.config.get? key with
      | none => rfl
      | some value => cases value <;> rfl

/-- The upstreams of the assembly by their names. -/
theorem mem_upstreams_assembly (u : Upstream) :
    u ∈ (Ledger.assembly identity caRoots leaf proxy service reported).upstreams ↔
      ∃ d, declaration? proxy u.service = some d ∧
        u = ⟨u.service, d.localBindAddress, d.localBindPort,
          (Ledger.assembly identity caRoots leaf proxy service reported).downstream.tls,
          Mesh.selectEndpoints (reported u.service)⟩ := by
  constructor
  · intro hu
    obtain ⟨⟨name, d⟩, hmem, rfl⟩ := List.mem_map.1 hu
    have hget := (SortedMap.mem_entries _ _ _).1 hmem
    rw [get?_upstreamsOf] at hget
    exact ⟨d, hget, rfl⟩
  · rintro ⟨d, hget, hu⟩
    rw [← get?_upstreamsOf] at hget
    rw [hu]
    exact List.mem_map.2 ⟨(u.service, d), (SortedMap.mem_entries _ _ _).2 hget, rfl⟩

/-- The upstreams of the assembly stand in the order of their names. -/
theorem ascending_assembly :
    ((Ledger.assembly identity caRoots leaf proxy service reported).upstreams.map
      (·.service)).Pairwise (· < ·) := by
  have hnames : (Ledger.assembly identity caRoots leaf proxy service reported).upstreams.map
      (·.service) = (upstreamsOf proxy).keys := List.map_map
  rw [hnames]
  exact (upstreamsOf proxy).pairwise_keys

/-- **The assembly says what the answers say.** -/
theorem says_assembly : Says identity caRoots leaf proxy service reported
    (Ledger.assembly identity caRoots leaf proxy service reported) where
  serviceName := rfl
  serviceId := rfl
  authorities := takeRoots_texts caRoots.roots
  pool := takeRoots_certificates caRoots.roots
  certificate := rfl
  key := rfl
  bindAddress := configText?_getD proxy _ _
  bindPort := rfl
  targetAddress := configText?_getD proxy _ _
  targetPort := rfl
  ascending := ascending_assembly identity caRoots leaf proxy service reported
  upstreams := mem_upstreams_assembly identity caRoots leaf proxy service reported

end Fields

/-! ## No other snapshot says the same -/

/-- Upstreams with ascending names are given by which ones they are. -/
theorem upstreams_ext {us vs : List Upstream} (hus : (us.map (·.service)).Pairwise (· < ·))
    (hvs : (vs.map (·.service)).Pairwise (· < ·)) (h : ∀ u, u ∈ us ↔ u ∈ vs) : us = vs := by
  have hbefore {ws : List Upstream} (hws : (ws.map (·.service)).Pairwise (· < ·)) :
      ws.Pairwise (·.service < ·.service) := List.pairwise_map.1 hws
  have hnodup {ws : List Upstream} (hws : (ws.map (·.service)).Pairwise (· < ·)) : ws.Nodup := by
    refine (hbefore hws).imp fun hlt heq => ?_
    rw [heq] at hlt
    exact String.lt_irrefl _ hlt
  have hperm : us.Perm vs := (List.perm_ext_iff_of_nodup (hnodup hus) (hnodup hvs)).2 h
  exact hperm.eq_of_pairwise (fun u v _ _ huv hvu => absurd hvu (String.lt_asymm huv)) (hbefore hus)
    (hbefore hvs)

/-- **What a snapshot says leaves nothing open.** -/
theorem Says.unique {identity : Identity} {caRoots : Mesh.CaRoots} {leaf : Mesh.Leaf}
    {proxy service : Mesh.Service} {reported : String → List Mesh.Instance} {s s' : Snapshot}
    (h : Says identity caRoots leaf proxy service reported s)
    (h' : Says identity caRoots leaf proxy service reported s') : s = s' := by
  have htls : s.downstream.tls = s'.downstream.tls :=
    TlsMaterial.ext (h.authorities.trans h'.authorities.symm)
      (h.certificate.trans h'.certificate.symm) (h.key.trans h'.key.symm)
  have hdownstream : s.downstream = s'.downstream :=
    Downstream.ext (h.bindAddress.trans h'.bindAddress.symm) (h.bindPort.trans h'.bindPort.symm)
      (h.targetAddress.trans h'.targetAddress.symm) (h.targetPort.trans h'.targetPort.symm) htls
  have hupstreams : s.upstreams = s'.upstreams := by
    refine upstreams_ext h.ascending h'.ascending fun u => ?_
    rw [h.upstreams, h'.upstreams, htls]
  exact Snapshot.ext (h.serviceName.trans h'.serviceName.symm)
    (h.serviceId.trans h'.serviceId.symm) (CaPool.ext (h.pool.trans h'.pool.symm)) hdownstream
    hupstreams

/-- The snapshot that answers make is the one that they determine. -/
theorem Ledger.Assembles.determines {l : Ledger} {identity : Identity} {s : Snapshot}
    (h : l.Assembles identity s) : l.Determines identity s := by
  obtain ⟨caRoots, leaf, proxy, service, hcaRoots, hleaf, hproxy, hservice, rfl⟩ := h
  have hsays := says_assembly identity caRoots.1 leaf.1 proxy.1 service.1 l.reported
  exact ⟨caRoots, leaf, proxy, service, hcaRoots, hleaf, hproxy, hservice, hsays,
    fun s' hs' => hs'.unique hsays⟩

end MeshSync.Watch
