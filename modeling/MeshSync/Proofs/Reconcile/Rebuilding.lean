import Mathlib.Data.Multiset.MapFold
import MeshSync.Proofs.Reconcile.Likeness

/-! # What equal upstreams build

    Upstreams are equal if their endpoints are the same as a set, while building
    one walks the list of its endpoints.  So everything but the servers comes out
    the same, and with the names left out the servers are the endpoints, each
    with the settings of the upstream (`serversIn_upstream`, and
    `storedServers_perm` for what a store holds of them).  How often a server is
    there is then how often its endpoint is in the list: leaving an upstream in
    place instead of building an equal one keeps every server, and keeps their
    numbers exactly if the two lists are permutations of each other
    (`equal_upstreams_build`). -/

namespace MeshSync.Reconcile

open Dataplane

variable {paths : TlsMaterial → Certificates.Paths} {options : Options} {a b u : Upstream}
  {files : Certificates.Paths} {objects : Objects} {e e' : Endpoint}

/-- What is made of elements alone does not depend on their places. -/
theorem map_zipIdx_fst {α β : Type} (f : α → β) (l : List α) :
    l.zipIdx.map (fun x => f x.1) = l.map f := by
  conv_rhs => rw [← List.zipIdx_map_fst 0 l, List.map_map]
  rfl

/-- A map that tells elements apart tells lists apart up to permutation. -/
theorem map_perm_iff {α β : Type} {f : α → β} (hf : Function.Injective f) {l l' : List α} :
    (l.map f).Perm (l'.map f) ↔ l.Perm l' :=
  ⟨fun h => Multiset.coe_eq_coe.1 (Multiset.map_injective hf (Multiset.coe_eq_coe.2 h)),
    fun h => h.map f⟩

/-! ## What is staged -/

/-- The server that an operation creates, without its name, and its backend. -/
def serverOf? : Operation → Option (String × Server)
  | .createServer backend s => some (backend, { s with name := "" })
  | _ => none

/-- The servers that operations create, as often as they create them. -/
def serversIn (ops : List Operation) : List (String × Server) := ops.filterMap serverOf?

/-- What operations do besides. -/
def restOf (ops : List Operation) : List Operation := ops.filter fun op => (serverOf? op).isNone

/-- The server for an endpoint of an upstream. -/
def serverFor (u : Upstream) (files : Certificates.Paths) (e : Endpoint) : String × Server :=
  ((Listener.upstream u.service).backend, { Upstream.server u files e 0 with name := "" })

/-- Endpoints are told apart by their servers. -/
theorem serverFor_inj (h : serverFor u files e = serverFor u files e') : e = e' := by
  obtain ⟨-, hhost, hport, hweight, -⟩ := Server.mk.inj (congrArg Prod.snd h)
  cases e
  cases e'
  exact Endpoint.mk.injEq .. ▸ ⟨hhost, Option.some.inj hport, Option.some.inj hweight⟩

/-- The servers of an upstream are its endpoints. -/
theorem serversIn_upstream (u : Upstream) : serversIn (upstreamOps paths options u) =
    u.endpoints.map (serverFor u (paths u.tls)) := by
  have hframe : (Upstream.frame u options).filterMap serverOf? = [] := rfl
  have hserver : (serverOf? ∘ fun x : Endpoint × Nat => Operation.createServer
      (Listener.upstream u.service).backend (Upstream.server u (paths u.tls) x.1 x.2)) =
      some ∘ fun x => serverFor u (paths u.tls) x.1 := rfl
  rw [serversIn, upstreamOps_eq, List.filterMap_append, hframe, Upstream.servers,
    List.mapIdx_eq_zipIdx_map, List.filterMap_map, hserver, List.filterMap_eq_map, List.nil_append,
    map_zipIdx_fst]

/-- Besides its servers, an upstream is built by its frame. -/
theorem restOf_upstream (u : Upstream) :
    restOf (upstreamOps paths options u) = Upstream.frame u options := by
  have hservers : (Upstream.servers u (paths u.tls)).filter
      (fun op => (serverOf? op).isNone) = [] := by
    refine List.filter_eq_nil_iff.2 fun op hop => ?_
    obtain ⟨i, hi, rfl⟩ := List.mem_mapIdx.1 hop
    exact Bool.noConfusion
  rw [restOf, upstreamOps_eq, List.filter_append, hservers, List.append_nil]
  rfl

/-- Equal upstreams have the same server for an endpoint. -/
theorem serverFor_of_same (h : a.same b = true) : serverFor a files = serverFor b files := by
  funext e
  rw [serverFor, serverFor, Plan.service_of_same h]
  rfl

/-! ## What is stored -/

instance (service : String) (k : ObjectKey) : Decidable (IsServer service k) :=
  inferInstanceAs (Decidable (_ ∧ _))

/-- A body without the name in it. -/
def unnamed : Json → Json
  | .object fields => .object (fields.filter fun f => f.1 ≠ "name")
  | j => j

/-- The servers of an upstream that are stored, without their names. -/
def storedServers (service : String) (objects : Objects) : List Json :=
  (objects.entries.filter fun x => IsServer service x.1).map fun x => unnamed x.2

/-- The body of the server for an endpoint, without its name. -/
def bodyFor (files : Certificates.Paths) (e : Endpoint) : Json :=
  .object [("address", .string e.host), ("port", word16Json e.port), ("ssl", named Toggle.enabled),
    ("ssl_cafile", .string files.caFile), ("ssl_certificate", .string files.certificate),
    ("verify", named Verify.required), ("weight", word32Json e.weight)]

/-- Endpoints are told apart by the bodies of their servers. -/
theorem bodyFor_inj (h : bodyFor files e = bodyFor files e') : e = e' := by
  cases e
  cases e'
  simp only [bodyFor, word16Json, word32Json, Json.ofNat, Json.object.injEq, List.cons.injEq,
    Prod.mk.injEq, Json.string.injEq, Json.number.injEq, Number.natural.injEq, UInt16.toNat_inj,
    UInt32.toNat_inj, true_and, and_true] at h
  rw [h.1, h.2.1, h.2.2]

/-- The servers of an upstream as they are stored, in the order of its
    endpoints. -/
def storedFor (u : Upstream) (files : Certificates.Paths) : List (ObjectKey × Json) :=
  u.endpoints.mapIdx fun i e =>
    ((Owner.backend (Listener.upstream u.service).backend).child "servers"
      (Upstream.server u files e i).name, (Upstream.server u files e i).json)

theorem nodup_storedFor (u : Upstream) (files : Certificates.Paths) : (storedFor u files).Nodup := by
  refine List.Nodup.of_map Prod.fst ?_
  have hkeys : (storedFor u files).map Prod.fst =
      (Upstream.servers u files).map fun op => key op.change := by
    rw [storedFor, Upstream.servers, List.mapIdx_eq_zipIdx_map, List.mapIdx_eq_zipIdx_map,
      List.map_map, List.map_map]
    rfl
  rw [hkeys]
  exact nodup_servers u files

theorem mem_storedFor {k : ObjectKey} {v : Json} : (k, v) ∈ storedFor u files ↔
    Change.create k v ∈ (Upstream.servers u files).map (·.change) := by
  rw [mem_servers_iff, storedFor, List.mem_mapIdx]
  constructor
  · rintro ⟨i, hi, heq⟩
    obtain ⟨rfl, rfl⟩ := Prod.mk.inj heq
    exact ⟨i, _, List.getElem?_eq_getElem hi, rfl, rfl⟩
  · rintro ⟨i, e, hi, rfl, rfl⟩
    obtain ⟨hlt, rfl⟩ := List.getElem?_eq_some_iff.1 hi
    exact ⟨i, hlt, rfl⟩

/-- **What is stored of an upstream that stands are the servers of its
    endpoints.** -/
theorem storedServers_perm (h : Stands (.upstream u.service) (upstreamOps paths options u) objects) :
    (storedServers u.service objects).Perm (u.endpoints.map (bodyFor (paths u.tls))) := by
  have hcreates : Creates (.upstream u.service) (upstreamOps paths options u) :=
    creates_upstream u options
  have hentries : (objects.entries.filter fun x => IsServer u.service x.1).Perm
      (storedFor u (paths u.tls)) := by
    refine (List.perm_ext_iff_of_nodup ?_ (nodup_storedFor u _)).2 fun ⟨k, v⟩ => ?_
    · exact (List.Nodup.of_map Prod.fst objects.nodup_keys).filter _
    · rw [List.mem_filter, SortedMap.mem_entries, decide_eq_true_eq, mem_storedFor]
      constructor
      · rintro ⟨hv, hk⟩
        rw [h.get?_iff hcreates hk.owns, upstreamOps_eq, List.map_append,
          List.mem_append] at hv
        exact hv.resolve_left fun hframe => not_isServer_of_frame _ hframe hk
      · intro hserver
        obtain ⟨i, e, -, rfl, -⟩ := mem_servers_iff.1 hserver
        have hk : IsServer u.service ((Owner.backend (Listener.upstream u.service).backend).child
            "servers" (Upstream.server u (paths u.tls) e i).name) := ⟨rfl, rfl⟩
        refine ⟨(h.get?_iff hcreates hk.owns).2 ?_, hk⟩
        rw [upstreamOps_eq, List.map_append]
        exact List.mem_append_right _ hserver
  have hbodies : (storedFor u (paths u.tls)).map (fun x => unnamed x.2) =
      u.endpoints.map (bodyFor (paths u.tls)) := by
    rw [storedFor, List.mapIdx_eq_zipIdx_map, List.map_map]
    exact map_zipIdx_fst (bodyFor (paths u.tls)) u.endpoints
  rw [← hbodies]
  exact hentries.map _

/-! ## Equal upstreams -/

/-- **Equal upstreams build equal listeners but for the numbers of their
    servers.**  Everything else is staged alike.  A server that one of them stages
    the other one stages too, under some name, and as often exactly if the lists
    of endpoints are permutations of each other, as they are if neither has an
    endpoint twice.  The same holds of what a store has where one of them stands,
    against a store where the other one stands. -/
theorem equal_upstreams_build (paths : TlsMaterial → Certificates.Paths) (options : Options)
    {a b : Upstream} (h : a.same b = true) :
    restOf (upstreamOps paths options a) = restOf (upstreamOps paths options b) ∧
    (∀ x, x ∈ serversIn (upstreamOps paths options a) ↔
      x ∈ serversIn (upstreamOps paths options b)) ∧
    ((serversIn (upstreamOps paths options a)).Perm (serversIn (upstreamOps paths options b)) ↔
      a.endpoints.Perm b.endpoints) ∧
    (∀ left rebuilt, Stands (.upstream a.service) (upstreamOps paths options a) left →
      Stands (.upstream b.service) (upstreamOps paths options b) rebuilt →
      (∀ x, x ∈ storedServers a.service left ↔ x ∈ storedServers b.service rebuilt) ∧
      ((storedServers a.service left).Perm (storedServers b.service rebuilt) ↔
        a.endpoints.Perm b.endpoints)) ∧
    (a.endpoints.Nodup → b.endpoints.Nodup → a.endpoints.Perm b.endpoints) := by
  have hmem := Upstream.mem_endpoints_of_same h
  have htls := tls_of_same h
  rw [serversIn_upstream, serversIn_upstream, restOf_upstream, restOf_upstream,
    serverFor_of_same h, htls]
  refine ⟨frame_of_same h options, fun x => ?_,
    map_perm_iff fun _ _ => serverFor_inj, fun left rebuilt hleft hrebuilt => ?_,
    fun ha hb => (List.perm_ext_iff_of_nodup ha hb).2 hmem⟩
  · simp only [List.mem_map, hmem]
  · have hl := storedServers_perm hleft
    have hr := storedServers_perm hrebuilt
    rw [htls] at hl
    refine ⟨fun x => ?_, ?_⟩
    · rw [hl.mem_iff, hr.mem_iff]
      simp only [List.mem_map, hmem]
    · have hbodies : Function.Injective (bodyFor (paths b.tls)) := fun _ _ => bodyFor_inj
      rw [← map_perm_iff hbodies]
      exact ⟨fun hp => hl.symm.trans (hp.trans hr), fun hp => hl.trans (hp.trans hr.symm)⟩

/-- An upstream with these endpoints. -/
def dbAt (endpoints : List Endpoint) : Upstream :=
  ⟨"db", "127.0.0.1", 5432, ⟨[], [], []⟩, endpoints⟩

theorem same_swapped : (dbAt [⟨"10.0.0.2", 5432, 5⟩, ⟨"10.0.0.1", 5432, 1⟩]).same
    (dbAt [⟨"10.0.0.1", 5432, 1⟩, ⟨"10.0.0.2", 5432, 5⟩]) = true := by
  have hle : Endpoint.le ⟨"10.0.0.2", 5432, 5⟩ ⟨"10.0.0.1", 5432, 1⟩ = false := by decide
  have hge : Endpoint.le ⟨"10.0.0.1", 5432, 1⟩ ⟨"10.0.0.2", 5432, 5⟩ = true := by decide
  simp [dbAt, Upstream.same, Upstream.endpointSet, Endpoint.toSet, Endpoint.sort, List.mergeSort,
    hle, hge]

/-- Endpoints in another order give the same servers, however often. -/
theorem swapped_servers : (serversIn (upstreamOps oneFile .standard
      (dbAt [⟨"10.0.0.2", 5432, 5⟩, ⟨"10.0.0.1", 5432, 1⟩]))).Perm
    (serversIn (upstreamOps oneFile .standard
      (dbAt [⟨"10.0.0.1", 5432, 1⟩, ⟨"10.0.0.2", 5432, 5⟩]))) :=
  (equal_upstreams_build oneFile .standard same_swapped).2.2.1.2 (List.Perm.swap _ _ _)

/-- An endpoint that is found twice gets two servers, though the upstream is
    equal to the one where it is found once. -/
theorem repeated_endpoint_counts :
    (dbAt [⟨"10.0.0.1", 5432, 1⟩]).same
        (dbAt [⟨"10.0.0.1", 5432, 1⟩, ⟨"10.0.0.1", 5432, 1⟩]) = true ∧
      ¬ (serversIn (upstreamOps oneFile .standard (dbAt [⟨"10.0.0.1", 5432, 1⟩]))).Perm
        (serversIn (upstreamOps oneFile .standard
          (dbAt [⟨"10.0.0.1", 5432, 1⟩, ⟨"10.0.0.1", 5432, 1⟩]))) := by
  refine ⟨?_, fun h => ?_⟩
  · simp [dbAt, Upstream.same, Upstream.endpointSet, Endpoint.toSet, Endpoint.sort,
      List.mergeSort, List.cons_merge_cons, Endpoint.dedupSorted]
  · have hlength := h.length_eq
    rw [serversIn_upstream, serversIn_upstream, List.length_map, List.length_map] at hlength
    exact absurd hlength (by decide)

end MeshSync.Reconcile
