import MeshSync.Proofs.Reconcile.Likeness

/-! # Keys that listeners do not share

    What the store keeps under which key is read from requests.  Where names
    stand for themselves in URLs, every operation that builds a listener is read
    as the creation of an object, and the keys that are then in use and were not
    before are those of `storedKeys` (`stored_of_builds`).  The keys of one
    listener are disjoint from those of any other (`disjoint_storedKeys`), and so
    it is for the listeners of a valid snapshot (`apart_of_valid`). -/

namespace MeshSync.Reconcile

open Dataplane
open Url (Unreserved)

variable {l m : Listener} {ops ops' : List Operation} {op : Operation} {k : ObjectKey}
variable {id id' : String} {v : Json} {objects objects' : Objects}

/-! ## What the store reads -/

/-- The change that the store reads from the request of an operation. -/
def read? (id : String) (op : Operation) : Option Change :=
  match Command.ofRequest (op.request id) with
  | .ok (.stage _ change) => some change
  | _ => none

/-- The changes that the store stages at the requests of operations. -/
def staged (id : String) (ops : List Operation) : List Change := ops.filterMap (read? id)

/-- The key of an object that a change creates. -/
def created? : Change → Option ObjectKey
  | .create k _ => some k
  | _ => none

/-- The keys under which the store keeps what operations create. -/
def storedKeys (id : String) (ops : List Operation) : List ObjectKey :=
  (staged id ops).filterMap created?

theorem read?_of_legible (hid : Unreserved id) (h : op.Legible) :
    read? id op = some op.change := by
  have hread := ofRequest_request hid h
  unfold read?
  rw [hread]

theorem staged_of_builds (h : Builds l ops) (hid : Unreserved id) :
    staged id ops = ops.map (·.change) := by
  rw [staged, ← List.filterMap_eq_map]
  exact List.filterMap_congr fun op hop => read?_of_legible hid (h.plain op hop).legible

theorem mem_storedKeys_iff (h : Builds l ops) (hid : Unreserved id) :
    k ∈ storedKeys id ops ↔ ∃ v, Change.create k v ∈ ops.map (·.change) := by
  rw [storedKeys, staged_of_builds h hid, List.mem_filterMap]
  constructor
  · rintro ⟨c, hc, hk⟩
    cases c with
    | create j v =>
        obtain rfl : j = k := Option.some.inj hk
        exact ⟨v, hc⟩
    | replace j v => exact absurd hk.symm (Option.some_ne_none k)
    | delete j => exact absurd hk.symm (Option.some_ne_none k)
  · rintro ⟨v, hv⟩
    exact ⟨_, hv, rfl⟩

/-! ## What it files -/

/-- Whether all that operations ask for is created, and under the keys that are
    said to be theirs. -/
structure Stored (id : String) (ops : List Operation) : Prop where
  /-- Every request is read as a creation. -/
  whole : ∀ op ∈ ops, ∃ k v, read? id op = some (.create k v)
  /-- What is staged can be committed to a store without objects. -/
  made : ∃ objects, (∅ : Objects).applyAll (staged id ops) = .ok objects
  /-- The keys are those that come into use when it is committed to any store. -/
  keys : ∀ objects objects' : Objects, objects.applyAll (staged id ops) = .ok objects' →
    ∀ k, k ∈ storedKeys id ops ↔ objects.get? k = none ∧ ∃ v, objects'.get? k = some v

/-- **What builds a listener is stored** as it was asked for. -/
theorem stored_of_builds (h : Builds l ops) (hid : Unreserved id) : Stored id ops := by
  refine ⟨fun op hop => ?_, ?_, fun objects objects' happly k => ?_⟩
  · obtain ⟨k, v, hchange, -⟩ := h.creates op hop
    refine ⟨k, v, ?_⟩
    rw [read?_of_legible hid (h.plain op hop).legible, hchange]
  · rw [staged_of_builds h hid]
    exact h.exists_applyAll fun k _ => rfl
  · rw [staged_of_builds h hid] at happly
    rw [mem_storedKeys_iff h hid]
    constructor
    · rintro ⟨v, hv⟩
      refine ⟨absent_of_applyAll_creates h.creates_changes happly _ hv, v, ?_⟩
      exact (get?_applyAll_creates h.creates_changes happly).2 (.inl hv)
    · rintro ⟨hnone, v, hv⟩
      rcases (get?_applyAll_creates h.creates_changes happly).1 hv with hcreated | hbefore
      · exact ⟨v, hcreated⟩
      · exact absurd (hnone.symm.trans hbefore).symm (Option.some_ne_none v)

theorem owns_of_mem_storedKeys (h : Builds l ops) (hid : Unreserved id) (hk : k ∈ storedKeys id ops) :
    l.Owns k := by
  obtain ⟨v, hv⟩ := (mem_storedKeys_iff h hid).1 hk
  obtain ⟨op, hop, hchange⟩ := List.mem_map.1 hv
  obtain ⟨j, w, hcreate, howns⟩ := h.creates op hop
  obtain ⟨rfl, -⟩ := Change.create.inj (hcreate.symm.trans hchange)
  exact howns

/-- **Two listeners are stored apart.** -/
theorem disjoint_storedKeys (hl : l.Ours) (hm : m.Ours) (hne : l ≠ m) (h : Builds l ops)
    (h' : Builds m ops') (hid : Unreserved id) (hid' : Unreserved id') :
    (storedKeys id ops).Disjoint (storedKeys id' ops') := by
  intro k hk hk'
  have howns := owns_of_mem_storedKeys h hid hk
  have howns' := owns_of_mem_storedKeys h' hid' hk'
  exact hne (Listener.owns_inj hl hm howns howns')

/-! ## The listeners of a snapshot -/

/-- Whether the listeners of a snapshot are stored, and apart from each other. -/
structure Apart (x : Snapshot) (options : Options) (paths : TlsMaterial → Certificates.Paths)
    (id : String) : Prop where
  downstream : Stored id (operations paths (Downstream.build x.downstream options))
  upstream : ∀ u ∈ x.upstreams, Stored id (operations paths (Upstream.build u options))
  upstreams : x.upstreams.Pairwise fun u v =>
    (storedKeys id (operations paths (Upstream.build u options))).Disjoint
      (storedKeys id (operations paths (Upstream.build v options)))
  others : ∀ u ∈ x.upstreams,
    (storedKeys id (operations paths (Upstream.build u options))).Disjoint
      (storedKeys id (operations paths (Downstream.build x.downstream options)))

/-- **The listeners of a valid snapshot are stored apart.** -/
theorem apart_of_valid {x : Snapshot} (h : x.Valid) (options : Options)
    (paths : TlsMaterial → Certificates.Paths) (hid : Unreserved id) :
    Apart x options paths id := by
  have hdownstream : Builds .downstream
      (operations paths (Downstream.build x.downstream options)) := builds_downstream _ options
  have hupstream : ∀ u ∈ x.upstreams,
      Builds (.upstream u.service) (operations paths (Upstream.build u options)) :=
    fun u hu => builds_upstream (h.unreserved u hu) options
  refine ⟨stored_of_builds hdownstream hid, fun u hu => stored_of_builds (hupstream u hu) hid, ?_,
    fun u hu => ?_⟩
  · refine (List.pairwise_map.1 h.distinct).imp_of_mem fun {u v} hu hv hne => ?_
    exact disjoint_storedKeys (Listener.ours_upstream _) (Listener.ours_upstream _)
      (fun heq => hne (Listener.upstream_inj heq)) (hupstream u hu) (hupstream v hv) hid hid
  · exact disjoint_storedKeys (Listener.ours_upstream _) Listener.ours_downstream
      (Listener.downstream_ne_upstream _).symm (hupstream u hu) hdownstream hid hid

end MeshSync.Reconcile
