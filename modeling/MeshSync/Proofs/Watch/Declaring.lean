import MeshSync.Proofs.Watch.Ledger

/-! # What a definition of the sidecar brings about

    Upstreams are declared one after another, each in the state that the ones
    before it left.  The main statements say what comes of them all at once:

    * `get?_declareAll` - a record that was there keeps what was learned, and
      any other starts from nothing.
    * `started_declareAll` - the watches to be started, numbered in order. -/

namespace MeshSync.Watch

variable {upstreams : SortedMap String UpstreamRecord} {next : WatchId} {name : String}
  {u : Mesh.UpstreamDeclaration} {es : List (String × Mesh.UpstreamDeclaration)}

/-- The record of an upstream that is declared where there was none. -/
def newRecord (id : WatchId) (name : String) (u : Mesh.UpstreamDeclaration) : UpstreamRecord :=
  { service := name
    datacenter := u.datacenter
    localBindAddress := u.localBindAddress
    localBindPort := u.localBindPort
    instances := []
    watch := id }

/-- A record at the address that a declaration gives it. -/
def UpstreamRecord.rebound (r : UpstreamRecord) (u : Mesh.UpstreamDeclaration) : UpstreamRecord :=
  { r with localBindAddress := u.localBindAddress, localBindPort := u.localBindPort }

/-- The declarations for which there is no record. -/
def unrecorded (upstreams : SortedMap String UpstreamRecord)
    (es : List (String × Mesh.UpstreamDeclaration)) : List (String × Mesh.UpstreamDeclaration) :=
  es.filter fun e => !upstreams.contains e.1

theorem declareAll_cons_of_some {r : UpstreamRecord} (h : upstreams.get? name = some r) :
    declareAll upstreams next ((name, u) :: es) =
      declareAll (upstreams.insert name (r.rebound u)) next es := by
  rw [declareAll, declare, h]
  rfl

theorem declareAll_cons_of_none (h : upstreams.get? name = none) :
    declareAll upstreams next ((name, u) :: es) =
      ((declareAll (upstreams.insert name (newRecord next name u)) (next + 1) es).1,
        ⟨next, name, u.datacenter⟩ ::
          (declareAll (upstreams.insert name (newRecord next name u)) (next + 1) es).2) := by
  rw [declareAll, declare, h]
  rfl

theorem unrecorded_cons_of_some {r : UpstreamRecord} (h : upstreams.get? name = some r) :
    unrecorded upstreams ((name, u) :: es) = unrecorded upstreams es := by
  rw [unrecorded, List.filter_cons_of_neg, unrecorded]
  simp [SortedMap.contains, h]

theorem unrecorded_cons_of_none (h : upstreams.get? name = none) :
    unrecorded upstreams ((name, u) :: es) = (name, u) :: unrecorded upstreams es := by
  rw [unrecorded, List.filter_cons_of_pos, unrecorded]
  simp [SortedMap.contains, h]

/-- A record for one name does not count for others. -/
theorem unrecorded_insert {r : UpstreamRecord} (h : name ∉ es.map (·.1)) :
    unrecorded (upstreams.insert name r) es = unrecorded upstreams es := by
  refine List.filter_congr fun e he => ?_
  have hne : e.1 ≠ name := fun heq => h (heq ▸ List.mem_map_of_mem he)
  rw [SortedMap.contains, SortedMap.contains, SortedMap.get?_insert_of_ne _ hne]

theorem get?_declareAll_of_not_mem (h : name ∉ es.map (·.1)) :
    (declareAll upstreams next es).1.get? name = upstreams.get? name := by
  induction es generalizing upstreams next with
  | nil => rfl
  | cons e es ih =>
      obtain ⟨name', u⟩ := e
      rw [List.map_cons, List.mem_cons, not_or] at h
      cases hr : upstreams.get? name' with
      | some r => rw [declareAll_cons_of_some hr, ih h.2, SortedMap.get?_insert_of_ne _ h.1]
      | none =>
          rw [declareAll_cons_of_none hr]
          exact (ih h.2).trans (SortedMap.get?_insert_of_ne _ h.1 _)

/-- **The record of a declared upstream** is the one that was there, or a new
    one with the next number in order. -/
theorem get?_declareAll (hd : (es.map (·.1)).Nodup) (h : (name, u) ∈ es) :
    (declareAll upstreams next es).1.get? name = some
      ((upstreams.get? name).elim
        (newRecord (next + ((unrecorded upstreams es).map (·.1)).idxOf name) name u)
        (·.rebound u)) := by
  induction es generalizing upstreams next with
  | nil => exact nomatch h
  | cons e es ih =>
      obtain ⟨name', u'⟩ := e
      obtain ⟨hnot, hd⟩ := List.nodup_cons.1 hd
      rcases List.mem_cons.1 h with heq | hmem
      · -- the entries after it have other names, and leave its record alone
        obtain ⟨rfl, rfl⟩ := Prod.mk.inj heq
        cases hr : upstreams.get? name with
        | some r =>
            rw [declareAll_cons_of_some hr, get?_declareAll_of_not_mem hnot,
              SortedMap.get?_insert_self]
            rfl
        | none =>
            rw [declareAll_cons_of_none hr, unrecorded_cons_of_none hr, List.map_cons,
              List.idxOf_cons_self]
            exact (get?_declareAll_of_not_mem hnot).trans (SortedMap.get?_insert_self _ _ _)
      · have hne : name ≠ name' := by
          rintro rfl
          exact hnot (List.mem_map.2 ⟨_, hmem, rfl⟩)
        cases hr : upstreams.get? name' with
        | some r =>
            rw [declareAll_cons_of_some hr, ih hd hmem, SortedMap.get?_insert_of_ne _ hne,
              unrecorded_insert hnot, unrecorded_cons_of_some hr]
        | none =>
            rw [declareAll_cons_of_none hr, unrecorded_cons_of_none hr, List.map_cons,
              List.idxOf_cons_ne _ hne.symm]
            refine (ih hd hmem).trans ?_
            rw [SortedMap.get?_insert_of_ne _ hne, unrecorded_insert hnot, Nat.add_assoc,
              Nat.add_comm 1]

/-- **The watches to be started** follow the declarations without a record,
    numbered in order. -/
theorem started_declareAll (hd : (es.map (·.1)).Nodup) :
    (declareAll upstreams next es).2 =
      ((unrecorded upstreams es).zipIdx next).map fun e => ⟨e.2, e.1.1, e.1.2.datacenter⟩ := by
  induction es generalizing upstreams next with
  | nil => rfl
  | cons e es ih =>
      obtain ⟨name, u⟩ := e
      obtain ⟨hnot, hd⟩ := List.nodup_cons.1 hd
      cases hr : upstreams.get? name with
      | some r =>
          rw [declareAll_cons_of_some hr, ih hd, unrecorded_insert hnot,
            unrecorded_cons_of_some hr]
      | none =>
          rw [declareAll_cons_of_none hr, unrecorded_cons_of_none hr, List.zipIdx_cons,
            List.map_cons]
          show _ :: _ = _ :: _
          rw [ih hd, unrecorded_insert hnot]

end MeshSync.Watch
