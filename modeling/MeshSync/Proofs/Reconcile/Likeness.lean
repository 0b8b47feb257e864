import MeshSync.Proofs.Reconcile.Tidy

/-! # Stores that are alike

    Upstreams that differ in the order and repetition of their endpoints ask
    for the same, so a snapshot does not say under which names the servers of
    an upstream are stored, or how often.  This is all that it leaves open: two
    stores that a snapshot `Shows` are `Alike` (`alike_of_shows`), and the
    servers of an upstream are its endpoints as a set (`Shows.populated`). -/

namespace MeshSync

/-! ## Endpoints as a set -/

namespace Endpoint

theorem mem_dedupSorted {e : Endpoint} {es : List Endpoint} : e ∈ dedupSorted es ↔ e ∈ es := by
  induction es with
  | nil => exact Iff.rfl
  | cons a es ih =>
      cases es with
      | nil => exact Iff.rfl
      | cons b rest =>
          rw [dedupSorted]
          split
          · rename_i hab
            rw [ih, hab]
            simp
          · rw [List.mem_cons, ih, List.mem_cons (a := e) (b := a)]

/-- The set has the endpoints of the list. -/
theorem mem_toSet {e : Endpoint} {es : List Endpoint} : e ∈ toSet es ↔ e ∈ es := by
  rw [toSet, mem_dedupSorted, sort, List.mem_mergeSort]

end Endpoint

theorem Upstream.mem_endpoints_of_same {a b : Upstream} (h : a.same b = true) (e : Endpoint) :
    e ∈ a.endpoints ↔ e ∈ b.endpoints := by
  simp only [same, Bool.and_eq_true, decide_eq_true_eq] at h
  have hsets : e ∈ Endpoint.toSet a.endpoints ↔ e ∈ Endpoint.toSet b.endpoints :=
    Iff.of_eq (congrArg (e ∈ ·) h.2)
  rwa [Endpoint.mem_toSet, Endpoint.mem_toSet] at hsets

namespace Reconcile

open Dataplane

variable {paths : TlsMaterial → Certificates.Paths} {options : Options} {x : Snapshot}
  {a b objects objects' : Objects} {k : ObjectKey} {v : Json}

/-! ## What was created -/

/-- After objects were created, they are there with those that were there. -/
theorem get?_applyAll_creates {cs : List Change} (hcreates : ∀ c ∈ cs, ∃ k v, c = .create k v)
    (h : objects.applyAll cs = .ok objects') :
    objects'.get? k = some v ↔ Change.create k v ∈ cs ∨ objects.get? k = some v := by
  induction cs generalizing objects with
  | nil =>
      cases h
      simp
  | cons c cs ih =>
      obtain ⟨j, w, rfl⟩ := hcreates c List.mem_cons_self
      obtain ⟨o, hc, hrest⟩ := Objects.applyAll_cons_iff.1 h
      obtain ⟨hnone, rfl⟩ := Objects.apply_create_iff.1 hc
      rw [ih (fun d hd => hcreates d (List.mem_cons_of_mem _ hd)) hrest, List.mem_cons]
      by_cases hkj : k = j
      · subst hkj
        rw [SortedMap.get?_insert_self, hnone]
        simp [or_comm, eq_comm]
      · rw [SortedMap.get?_insert_of_ne _ hkj]
        simp [hkj]

/-- Of a listener that stands, exactly what builds it is there. -/
theorem Stands.get?_iff {l : Listener} {ops : List Operation} (hb : Creates l ops)
    (h : Stands l ops objects) (hk : l.Owns k) :
    objects.get? k = some v ↔ Change.create k v ∈ ops.map (·.change) := by
  obtain ⟨o, ho, hagree⟩ := h
  rw [hagree k hk, get?_applyAll_creates hb.creates_changes ho]
  exact or_iff_left fun hnone => nomatch hnone

/-! ## Upstreams -/

/-- Whether a key is that of a server of an upstream. -/
def IsServer (service : String) (k : ObjectKey) : Prop :=
  k.kind = "servers" ∧ k.parent = some (Listener.upstream service).back.owner

theorem IsServer.owns {service : String} (h : IsServer service k) :
    (Listener.upstream service).Owns k := .inr (.inr (.inr h.2))

/-- Whether two bodies differ in their name at most. -/
def Renamed (v w : Json) : Prop := ∀ field, field ≠ "name" → v.field? field = w.field? field

/-- An upstream is built by its frame and its servers. -/
theorem upstreamOps_eq (u : Upstream) :
    upstreamOps paths options u = Upstream.frame u options ++ Upstream.servers u (paths u.tls) := by
  rw [upstreamOps, Upstream.build, operations_append, operations_plain]
  split
  · rename_i hempty
    rw [Upstream.servers, List.isEmpty_iff.1 hempty]
    rfl
  · exact congrArg (Upstream.frame u options ++ ·) (List.append_nil _)

/-- No object of the frame is a server. -/
theorem not_isServer_of_frame {u : Upstream} (service : String)
    (h : Change.create k v ∈ (Upstream.frame u options).map (·.change)) : ¬ IsServer service k := by
  rintro ⟨hkind, -⟩
  have hkinds : k.kind ∈ ((Upstream.frame u options).map (·.change)).map fun c => (key c).kind :=
    List.mem_map.2 ⟨_, h, rfl⟩
  rw [hkind] at hkinds
  exact absurd hkinds
    (by decide : "servers" ∉ ["frontends", "binds", "log_targets", "backends", "log_targets"])

/-- The servers are those of the endpoints. -/
theorem mem_servers_iff {u : Upstream} {files : Certificates.Paths} :
    Change.create k v ∈ (Upstream.servers u files).map (·.change) ↔
      ∃ (i : Nat) (e : Endpoint), u.endpoints[i]? = some e ∧
        k = (Owner.backend (Listener.upstream u.service).backend).child "servers"
          (Upstream.server u files e i).name ∧
        v = (Upstream.server u files e i).json := by
  constructor
  · intro h
    obtain ⟨op, hop, hchange⟩ := List.mem_map.1 h
    obtain ⟨i, hi, rfl⟩ := List.mem_mapIdx.1 hop
    obtain ⟨rfl, rfl⟩ := Change.create.inj hchange
    exact ⟨i, _, List.getElem?_eq_getElem hi, rfl, rfl⟩
  · rintro ⟨i, e, hi, rfl, rfl⟩
    obtain ⟨hlt, rfl⟩ := List.getElem?_eq_some_iff.1 hi
    exact List.mem_map.2 ⟨_, List.mem_mapIdx.2 ⟨i, hlt, rfl⟩, rfl⟩

/-- What the body of a server says. -/
theorem field?_server (s : Server) (field : String) :
    s.json.field? field =
      (List.lookup field [("address", some (.string s.address)), ("name", some (.string s.name)),
        ("port", s.port.map word16Json), ("ssl", s.ssl.map named),
        ("ssl_cafile", s.sslCafile.map .string), ("ssl_certificate", s.sslCertificate.map .string),
        ("verify", s.verify.map named), ("weight", s.weight.map word32Json)]).join :=
  field?_present field (by simp [List.nodup_cons])

/-- A server of an endpoint is the same at every place but for its name. -/
theorem renamed_server (u u' : Upstream) (files : Certificates.Paths) (e : Endpoint) (i j : Nat) :
    Renamed (Upstream.server u files e i).json (Upstream.server u' files e j).json := by
  intro field hfield
  have hne : (field == "name") = false := by simpa using hfield
  rw [field?_server, field?_server]
  simp only [List.lookup_cons, hne]
  rfl

/-- Whether a body has the address, the port and the weight of an endpoint. -/
structure DirectedTo (e : Endpoint) (v : Json) : Prop where
  address : v.field? "address" = some (.string e.host)
  port : v.field? "port" = some (.ofNat e.port.toNat)
  weight : v.field? "weight" = some (.ofNat e.weight.toNat)

theorem directed_server (u : Upstream) (files : Certificates.Paths) (e : Endpoint) (i : Nat) :
    DirectedTo e (Upstream.server u files e i).json := by
  refine ⟨?_, ?_, ?_⟩
  · rw [field?_server]
    rfl
  · rw [field?_server]
    rfl
  · rw [field?_server]
    rfl

theorem frame_of_same {u w : Upstream} (h : u.same w = true) (options : Options) :
    Upstream.frame u options = Upstream.frame w options := by
  simp only [Upstream.same, Bool.and_eq_true, decide_eq_true_eq] at h
  obtain ⟨⟨⟨⟨hservice, haddress⟩, hport⟩, -⟩, -⟩ := h
  simp only [Upstream.frame, Upstream.bind, hservice, haddress, hport]

theorem tls_of_same {u w : Upstream} (h : u.same w = true) : u.tls = w.tls := by
  simp only [Upstream.same, Bool.and_eq_true, decide_eq_true_eq] at h
  exact h.1.2

/-! ## Likeness -/

/-- Whether two stores hold the same objects of reconcilers, except that the
    servers of an upstream may be named and repeated differently. -/
structure Alike (a b : Objects) : Prop where
  rest : ∀ k, Owned k → (∀ service, ¬ IsServer service k) → a.get? k = b.get? k
  left : ∀ service k v, IsServer service k → a.get? k = some v →
    ∃ k' v', IsServer service k' ∧ b.get? k' = some v' ∧ Renamed v v'
  right : ∀ service k v, IsServer service k → b.get? k = some v →
    ∃ k' v', IsServer service k' ∧ a.get? k' = some v' ∧ Renamed v v'

/-- Whether a snapshot is served, each upstream as it asks for it or as another
    one does that asks for the same. -/
structure Shows (paths : TlsMaterial → Certificates.Paths) (options : Options) (x : Snapshot)
    (objects : Objects) : Prop where
  downstream : Stands .downstream (downstreamOps paths options x) objects
  upstreams : ∀ u ∈ x.upstreams, ∃ w, w.same u = true ∧
    Stands (.upstream u.service) (upstreamOps paths options w) objects
  others : ∀ service, (∀ u ∈ x.upstreams, u.service ≠ service) →
    objects.AgreeOn (Listener.upstream service).Owns ∅

theorem Converged.shows (h : Converged paths options x objects) :
    Shows paths options x objects := by
  obtain ⟨served, hsame, hserves⟩ := h
  refine ⟨?_, fun u hu => Plan.stands_of_committed hsame hserves hu,
    fun service hservice => Plan.nothing_of_committed hsame hserves hservice⟩
  have hstands := hserves.downstream
  rwa [downstreamOps, Plan.downstream_of_same hsame] at hstands

/-- Of the downstream the same is there. -/
theorem Shows.agree_downstream (h : Shows paths options x a) (h' : Shows paths options x b) :
    a.AgreeOn Listener.downstream.Owns b := by
  obtain ⟨o, ho, hagree⟩ := h.downstream
  obtain ⟨o', ho', hagree'⟩ := h'.downstream
  rw [ho'] at ho
  obtain rfl := Except.ok.inj ho
  exact hagree.trans hagree'.symm

section Upstreams

variable {u w w' : Upstream} (hu : Url.Unreserved u.service) (hw : w.same u = true)
  (hw' : w'.same u = true) (h : Stands (.upstream u.service) (upstreamOps paths options w) a)
  (h' : Stands (.upstream u.service) (upstreamOps paths options w') b)

include hu hw

theorem builds_of_same : Builds (.upstream u.service) (upstreamOps paths options w) := by
  have hservice : w.service = u.service := Plan.service_of_same hw
  rw [← hservice] at hu ⊢
  exact builds_upstream hu options

include h

theorem get?_of_stands (hk : (Listener.upstream u.service).Owns k) :
    a.get? k = some v ↔ Change.create k v ∈ (Upstream.frame u options).map (·.change) ∨
      Change.create k v ∈ (Upstream.servers w (paths u.tls)).map (·.change) := by
  rw [h.get?_iff (builds_of_same hu hw).toCreates hk, upstreamOps_eq, List.map_append, List.mem_append,
    frame_of_same hw, tls_of_same hw]

/-- A server of an upstream that stands is that of an endpoint. -/
theorem endpoint_of_server (hk : IsServer u.service k) (hv : a.get? k = some v) :
    ∃ e ∈ u.endpoints, ∃ i, v = (Upstream.server w (paths u.tls) e i).json := by
  rcases (get?_of_stands hu hw h hk.owns).1 hv with hframe | hserver
  · exact absurd hk (not_isServer_of_frame _ hframe)
  · obtain ⟨i, e, hi, -, hv⟩ := mem_servers_iff.1 hserver
    exact ⟨e, (Upstream.mem_endpoints_of_same hw e).1 (List.mem_of_getElem? hi), i, hv⟩

/-- An endpoint of an upstream that stands has a server. -/
theorem server_of_endpoint {e : Endpoint} (he : e ∈ u.endpoints) :
    ∃ k i, IsServer u.service k ∧
      a.get? k = some (Upstream.server w (paths u.tls) e i).json := by
  obtain ⟨i, hi⟩ := List.mem_iff_getElem?.1 ((Upstream.mem_endpoints_of_same hw e).2 he)
  have hk : IsServer u.service ((Owner.backend (Listener.upstream w.service).backend).child
      "servers" (Upstream.server w (paths u.tls) e i).name) := by
    rw [Plan.service_of_same hw]
    exact ⟨rfl, rfl⟩
  refine ⟨_, i, hk, (get?_of_stands hu hw h hk.owns).2 (.inr ?_)⟩
  exact mem_servers_iff.2 ⟨i, e, hi, rfl, rfl⟩

include hw' h'

/-- Every server has one like it where the same upstream stands. -/
theorem renamed_of_stands (hk : IsServer u.service k) (hv : a.get? k = some v) :
    ∃ k' v', IsServer u.service k' ∧ b.get? k' = some v' ∧ Renamed v v' := by
  obtain ⟨e, he, i, rfl⟩ := endpoint_of_server hu hw h hk hv
  obtain ⟨k', j, hk', hv'⟩ := server_of_endpoint hu hw' h' he
  exact ⟨k', _, hk', hv', renamed_server w w' (paths u.tls) e i j⟩

/-- All but the servers is the same where the same upstream stands. -/
theorem agree_of_stands (hk : (Listener.upstream u.service).Owns k)
    (hserver : ¬ IsServer u.service k) : a.get? k = b.get? k := by
  have notServer : ∀ (z : Upstream) (v : Json), z.same u = true →
      Change.create k v ∉ (Upstream.servers z (paths u.tls)).map (·.change) := by
    intro z v hz hmem
    obtain ⟨i, e, -, rfl, -⟩ := mem_servers_iff.1 hmem
    refine hserver ?_
    rw [Plan.service_of_same hz]
    exact ⟨rfl, rfl⟩
  refine Option.ext fun v => ?_
  rw [get?_of_stands hu hw h hk, get?_of_stands hu hw' h' hk, or_iff_left (notServer w v hw),
    or_iff_left (notServer w' v hw')]

end Upstreams

/-- Whether the servers of an upstream are its endpoints, as a set of addresses,
    ports and weights. -/
structure Populated (u : Upstream) (objects : Objects) : Prop where
  present : ∀ e ∈ u.endpoints, ∃ k v,
    IsServer u.service k ∧ objects.get? k = some v ∧ DirectedTo e v
  only : ∀ k v, IsServer u.service k → objects.get? k = some v → ∃ e ∈ u.endpoints, DirectedTo e v

/-- The servers of an upstream that is shown are its endpoints. -/
theorem Shows.populated (hx : x.Valid) (h : Shows paths options x objects) {u : Upstream}
    (hu : u ∈ x.upstreams) : Populated u objects := by
  obtain ⟨w, hw, hstands⟩ := h.upstreams u hu
  constructor
  · intro e he
    obtain ⟨k, i, hk, hv⟩ := server_of_endpoint (hx.unreserved u hu) hw hstands he
    exact ⟨k, _, hk, hv, directed_server w (paths u.tls) e i⟩
  · intro k v hk hv
    obtain ⟨e, he, i, rfl⟩ := endpoint_of_server (hx.unreserved u hu) hw hstands hk hv
    exact ⟨e, he, directed_server w (paths u.tls) e i⟩

/-- **Two stores that a snapshot shows are alike.** -/
theorem alike_of_shows (hx : x.Valid) (h : Shows paths options x a) (h' : Shows paths options x b) :
    Alike a b := by
  -- the servers of one store, and as much again for the other
  have servers : ∀ {a b : Objects}, Shows paths options x a → Shows paths options x b →
      ∀ service k v, IsServer service k → a.get? k = some v →
        ∃ k' v', IsServer service k' ∧ b.get? k' = some v' ∧ Renamed v v' := by
    intro a b h h' service k v hk hv
    by_cases hservice : ∃ u ∈ x.upstreams, u.service = service
    · obtain ⟨u, hu, rfl⟩ := hservice
      obtain ⟨w, hw, hstands⟩ := h.upstreams u hu
      obtain ⟨w', hw', hstands'⟩ := h'.upstreams u hu
      exact renamed_of_stands (hx.unreserved u hu) hw hw' hstands hstands' hk hv
    · rw [h.others service (fun u hu heq => hservice ⟨u, hu, heq⟩) k hk.owns] at hv
      exact nomatch hv
  refine ⟨fun k hk hserver => ?_, servers h h', servers h' h⟩
  obtain ⟨l, rfl | ⟨service, rfl⟩, hl⟩ := hk
  · exact h.agree_downstream h' k hl
  · by_cases hservice : ∃ u ∈ x.upstreams, u.service = service
    · obtain ⟨u, hu, rfl⟩ := hservice
      obtain ⟨w, hw, hstands⟩ := h.upstreams u hu
      obtain ⟨w', hw', hstands'⟩ := h'.upstreams u hu
      exact agree_of_stands (hx.unreserved u hu) hw hw' hstands hstands' hl (hserver u.service)
    · have hnone : ∀ u ∈ x.upstreams, u.service ≠ service := fun u hu heq => hservice ⟨u, hu, heq⟩
      rw [h.others service hnone k hl, h'.others service hnone k hl]

/-! ## What a snapshot builds -/

/-- The operations that build everything that a snapshot asks for. -/
def buildOps (paths : TlsMaterial → Certificates.Paths) (options : Options) (x : Snapshot) :
    List Operation :=
  downstreamOps paths options x ++ x.upstreams.flatMap (upstreamOps paths options)

/-- A plan that starts from nothing builds, and deletes nothing. -/
theorem Plan.changes_between_none (hx : x.Valid) :
    (between none x).changes paths options x = (buildOps paths options x).map (·.change) := by
  have hrebuilt : (between none x).rebuilt = x.upstreams.map fun u => (u.service, .neither) :=
    congrFun (List.filterMap_eq_map (f := fun u : Upstream => (u.service, Existing.neither))) _
  have hblock : ∀ u ∈ x.upstreams, (rebuiltBlock paths options x (u.service, .neither)).2 =
      (upstreamOps paths options u).map (·.change) := by
    intro u hu
    rw [rebuiltBlock, (Snapshot.upstream?_eq_some_iff hx).2 ⟨hu, rfl⟩]
    rfl
  have hupstreams : (x.upstreams.map fun u =>
      rebuiltBlock paths options x (u.service, .neither)).flatMap (·.2) =
      (x.upstreams.flatMap (upstreamOps paths options)).map (·.change) := by
    rw [List.flatMap_map, List.map_flatMap]
    exact List.flatMap_congr hblock
  rw [changes_eq_blocks, blocks, hrebuilt, List.map_map, List.flatMap_append, List.flatMap_append,
    buildOps, List.map_append, ← hupstreams]
  refine congrArg₂ (· ++ ·) ?_ rfl
  exact List.append_nil _

/-- **Where nothing is, everything that a snapshot asks for can be built**, and
    then it is shown. -/
theorem exists_built (paths : TlsMaterial → Certificates.Paths) (options : Options)
    (hx : x.Valid) : ∃ o : Objects,
    (∅ : Objects).applyAll ((buildOps paths options x).map (·.change)) = .ok o ∧
      Shows paths options x o := by
  have hclear : Clear (∅ : Objects) := fun _ _ => rfl
  have hsound : (Plan.between none x).Sound x := Plan.between_sound nofun hx
  have haccurate : (Plan.between none x).Accurate paths options x ∅ :=
    Plan.between_none_accurate hclear
  obtain ⟨o, ho⟩ := Free.empty.tidy.exists_applyAll_plan hsound hx haccurate
  obtain ⟨hconverged, -, -⟩ := Free.empty.tidy.carried_out hsound hx haccurate ho
  rw [Plan.changes_between_none hx] at ho
  exact ⟨o, ho, hconverged.shows⟩

end Reconcile

end MeshSync
