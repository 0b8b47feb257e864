import MeshSync.Proofs.Watch.Declaring

/-! # The state that answers make

    What the tracks have learned is a function of the ledger.

    * `Ledger.Sound` - the upstreams followed are the ones declared.
    * **`Ledger.state`** - the state that answers make; `state_hear_*` say that
      writing an answer into the state makes the next one.
    * **`state_define`** - the same for a definition of the sidecar, with the
      watches that it cancels and starts.
    * `snapshot?_state` - the snapshot of that state is the assembly. -/

namespace MeshSync.Watch

/-- A report does not change the datacenter that is looked in. -/
@[simp] theorem Followed.datacenter_report (f : Followed) (id : WatchId)
    (a : Answer (List Mesh.Instance)) : (f.report id a).datacenter = f.datacenter := by
  rw [report]
  split <;> rfl

/-- Nor does it change the watch. -/
@[simp] theorem Followed.watch_report (f : Followed) (id : WatchId)
    (a : Answer (List Mesh.Instance)) : (f.report id a).watch = f.watch := by
  rw [report]
  split <;> rfl

namespace Ledger

variable {l : Ledger} {name : String}

/-- The upstreams that are declared. -/
def declarations (l : Ledger) : SortedMap String Mesh.UpstreamDeclaration :=
  (l.proxy.map fun a => upstreamsOf a.1).getD ∅

/-- The record of a declared upstream. -/
def record (l : Ledger) (name : String) (u : Mesh.UpstreamDeclaration) : UpstreamRecord :=
  { service := name
    datacenter := u.datacenter
    localBindAddress := u.localBindAddress
    localBindPort := u.localBindPort
    instances := l.reported name
    watch := ((l.followed name).map (·.watch)).getD 0 }

/-- The state that answers make. -/
def state (l : Ledger) : State :=
  { upstreams := l.declarations.mapValues l.record
    downstream :=
      { localBindAddress := (l.proxy.map fun a => bindAddress a.1).getD ""
        localBindPort := (l.proxy.map (·.1.port)).getD 0
        targetAddress := (l.proxy.map fun a => targetAddress a.1).getD ""
        targetPort := (l.service.map (·.1.port)).getD 0 }
    caPems := (State.takeRoots ((l.caRoots.map (·.1.roots)).getD [])).1
    caPool := (State.takeRoots ((l.caRoots.map (·.1.roots)).getD [])).2
    leaf := l.leaf.map fun a => ⟨Bytes.ofText a.1.certPem, Bytes.ofText a.1.keyPem⟩ }

/-- The record under a name is that of what is declared there. -/
theorem get?_upstreams (l : Ledger) (name : String) :
    l.state.upstreams.get? name = (l.declarations.get? name).map (l.record name) :=
  SortedMap.get?_mapValues _ _ _

/-- The upstreams followed are the ones declared, each in its datacenter. -/
def Sound (l : Ledger) : Prop :=
  ∀ name, (l.followed name).map (·.datacenter) = (l.declarations.get? name).map (·.datacenter)

/-- What is declared is what is followed, datacenters included. -/
theorem Sound.follows_iff (h : l.Sound) {datacenter : String} :
    l.follows name datacenter = true ↔
      ∃ u, l.declarations.get? name = some u ∧ u.datacenter = datacenter := by
  have hname := h name
  rw [follows]
  cases hf : l.followed name with
  | none =>
      rw [hf, Option.map_none] at hname
      rw [Option.map_eq_none_iff.1 hname.symm]
      simp
  | some f =>
      rw [hf, Option.map_some] at hname
      obtain ⟨u, hu, hdatacenter⟩ := Option.map_eq_some_iff.1 hname.symm
      simp [hu, hdatacenter]

/-- Every upstream that is declared is followed. -/
theorem Sound.followed_of_declared (h : l.Sound) {u : Mesh.UpstreamDeclaration}
    (hu : l.declarations.get? name = some u) :
    ∃ f, l.followed name = some f ∧ f.datacenter = u.datacenter := by
  have hname := h name
  rw [hu] at hname
  exact Option.map_eq_some_iff.1 hname

/-- Every upstream that is followed is declared. -/
theorem Sound.declared_of_followed (h : l.Sound) {f : Followed} (hf : l.followed name = some f) :
    ∃ u, l.declarations.get? name = some u ∧ u.datacenter = f.datacenter := by
  have hname := h name
  rw [hf] at hname
  exact Option.map_eq_some_iff.1 hname.symm

/-- Nothing is declared before the first answer, and nothing followed. -/
theorem sound_blank : blank.Sound := fun _ => rfl

/-- A declared upstream is followed in its datacenter. -/
theorem datacenter_refollow {service : Mesh.Service} {u : Mesh.UpstreamDeclaration} :
    (l.refollow service name u).map (·.datacenter) = some u.datacenter := by
  rw [refollow]
  cases hf : l.followed name with
  | none =>
      rw [follows, hf]
      rfl
  | some f =>
      rw [follows, hf]
      by_cases hdatacenter : f.datacenter = u.datacenter
      · simp [hdatacenter]
      · simp [hdatacenter]

/-- A report goes to the watches that it is for. -/
theorem followed_hear_instances (l : Ledger) (id : WatchId) (a : Answer (List Mesh.Instance))
    (name : String) :
    (l.hear (.instances id a)).followed name = (l.followed name).map (·.report id a) := rfl

/-- **Every answer keeps the two together.** -/
theorem Sound.hear (h : l.Sound) (x : Heard) : (l.hear x).Sound := by
  intro name
  cases x with
  | caRoots a => exact h name
  | leaf a => exact h name
  | service a => exact h name
  | proxy a =>
      show (((upstreamsOf a.1).get? name).bind (l.refollow a.1 name)).map _ =
        ((upstreamsOf a.1).get? name).map _
      cases (upstreamsOf a.1).get? name with
      | none => rfl
      | some u => exact datacenter_refollow
  | instances id a =>
      refine Eq.trans ?_ (h name)
      rw [followed_hear_instances, Option.map_map]
      exact congrFun (congrArg _ (funext fun f => f.datacenter_report id a)) _

/-! ## Answers that are written into the state -/

/-- The authorities of an answer are those of the state. -/
theorem state_hear_caRoots (l : Ledger) (a : Answer Mesh.CaRoots) :
    (l.hear (.caRoots a)).state = l.state.setRoots a.1 := rfl

/-- The leaf of an answer is that of the state. -/
theorem state_hear_leaf (l : Ledger) (a : Answer Mesh.Leaf) :
    (l.hear (.leaf a)).state = l.state.setLeaf a.1 := rfl

/-- The service of an answer gives the state its port. -/
theorem state_hear_service (l : Ledger) (a : Answer Mesh.Service) :
    (l.hear (.service a)).state = l.state.setService a.1 := rfl

/-- A report to a watch that is not current changes nothing. -/
theorem hear_instances_of_unfollowed {id : WatchId} {a : Answer (List Mesh.Instance)}
    (h : ∀ name f, l.followed name = some f → f.watch ≠ id) : l.hear (.instances id a) = l := by
  have hfollowed : (l.hear (.instances id a)).followed = l.followed := by
    funext name
    rw [followed_hear_instances]
    cases hf : l.followed name with
    | none => rfl
    | some f => rw [Option.map_some, Followed.report, if_neg (h name f hf)]
  show { l with followed := (l.hear (.instances id a)).followed } = l
  rw [hfollowed]

/-- What is reported under a name is the last report to its watch. -/
theorem reported_hear_instances {id : WatchId} {a : Answer (List Mesh.Instance)} {f : Followed}
    (h : l.followed name = some f) :
    (l.hear (.instances id a)).reported name = if f.watch = id then a.1 else l.reported name := by
  rw [reported, followed_hear_instances, h, reported, h]
  by_cases hid : f.watch = id <;> simp [Followed.report, hid]

/-- A report leaves the watches as they are. -/
theorem watch_hear_instances (l : Ledger) (id : WatchId) (a : Answer (List Mesh.Instance))
    (name : String) :
    ((l.hear (.instances id a)).followed name).map (·.watch) = (l.followed name).map (·.watch) := by
  rw [followed_hear_instances, Option.map_map]
  exact congrFun (congrArg _ (funext fun f => f.watch_report id a)) _

/-- What a report to a watch makes of a record. -/
theorem record_hear_instances {id : WatchId} {a : Answer (List Mesh.Instance)}
    {u : Mesh.UpstreamDeclaration} {f : Followed} (hf : l.followed name = some f) :
    (l.hear (.instances id a)).record name u =
      if f.watch = id then { l.record name u with instances := a.1 } else l.record name u := by
  rw [record, record, watch_hear_instances, reported_hear_instances hf]
  split <;> rfl

/-- A report to a watch is written into its one record. -/
theorem state_hear_instances (h : l.Sound) {id : WatchId} {a : Answer (List Mesh.Instance)}
    {f : Followed} (hf : l.followed name = some f) (hid : f.watch = id)
    (honly : ∀ name' f', l.followed name' = some f' → f'.watch = id → name' = name)
    {r : UpstreamRecord} (hr : l.state.upstreams.get? name = some r) :
    (l.hear (.instances id a)).state = l.state.setInstances name r a.1 := by
  have hupstreams : (l.hear (.instances id a)).state.upstreams =
      l.state.upstreams.insert name { r with instances := a.1 } := by
    refine SortedMap.ext_get? fun name' => ?_
    rw [get?_upstreams]
    show (l.declarations.get? name').map _ = _
    by_cases hname : name' = name
    · subst hname
      rw [get?_upstreams] at hr
      obtain ⟨u, hu, rfl⟩ := Option.map_eq_some_iff.1 hr
      rw [SortedMap.get?_insert_self, hu, Option.map_some, record_hear_instances hf, if_pos hid]
    · rw [SortedMap.get?_insert_of_ne _ hname, get?_upstreams]
      cases hu : l.declarations.get? name' with
      | none => rfl
      | some u =>
          obtain ⟨f', hf', -⟩ := h.followed_of_declared hu
          -- only one name has the watch that the report is for
          have hne : f'.watch ≠ id := fun heq => hname (honly name' f' hf' heq)
          rw [Option.map_some, Option.map_some, record_hear_instances hf', if_neg hne]
  rw [State.setInstances, ← hupstreams]
  rfl

/-! ## Answers that repeat the latest one -/

/-- The same authorities again change nothing. -/
theorem state_hear_caRoots_same {a b : Answer Mesh.CaRoots} (hb : l.caRoots = some b)
    (hab : b.1 = a.1) : (l.hear (.caRoots a)).state = l.state := by
  rw [state, state, Ledger.hear, hb, Option.map_some, Option.map_some, hab]
  rfl

/-- The same leaf again changes nothing. -/
theorem state_hear_leaf_same {a b : Answer Mesh.Leaf} (hb : l.leaf = some b)
    (hab : b.1 = a.1) : (l.hear (.leaf a)).state = l.state := by
  rw [state, state, Ledger.hear, hb, Option.map_some, Option.map_some, hab]
  rfl

/-- The same service again changes nothing. -/
theorem state_hear_service_same {a b : Answer Mesh.Service} (hb : l.service = some b)
    (hab : b.1 = a.1) : (l.hear (.service a)).state = l.state := by
  rw [state, state, Ledger.hear, hb, Option.map_some, Option.map_some, hab]
  rfl

/-- The same report again changes nothing. -/
theorem state_hear_instances_same (h : l.Sound) {id : WatchId} {a : Answer (List Mesh.Instance)}
    (hsame : ∀ name f, l.followed name = some f → f.watch = id →
      ∃ b, f.latest = some b ∧ b.1 = a.1) : (l.hear (.instances id a)).state = l.state := by
  have hupstreams : (l.hear (.instances id a)).state.upstreams = l.state.upstreams := by
    refine SortedMap.ext_get? fun name => ?_
    rw [get?_upstreams, get?_upstreams]
    show (l.declarations.get? name).map _ = _
    cases hu : l.declarations.get? name with
    | none => rfl
    | some u =>
        obtain ⟨f, hf, -⟩ := h.followed_of_declared hu
        rw [Option.map_some, Option.map_some, record_hear_instances hf]
        split
        · next hid =>
            obtain ⟨b, hb, hab⟩ := hsame name f hf hid
            have hreported : l.reported name = a.1 := by simp [reported, hf, hb, hab]
            rw [← hreported]
            rfl
        · rfl
  show ({ l.state with upstreams := (l.hear (.instances id a)).state.upstreams } : State) = l.state
  rw [hupstreams]

/-! ## A definition of the sidecar -/

variable {a : Answer Mesh.Service}

/-- No upstream is declared under two entries. -/
theorem nodup_names (service : Mesh.Service) :
    ((upstreamsOf service).entries.map (·.1)).Nodup :=
  SortedMap.nodup_keys _

/-- A definition keeps no record of what it does not declare. -/
theorem get?_kept_of_none {service : Mesh.Service}
    (hu : (upstreamsOf service).get? name = none) :
    (l.state.upstreams.filter (keeps (upstreamsOf service))).get? name = none := by
  rw [SortedMap.get?_filter, Option.filter_eq_none_iff]
  intro r _
  rw [keeps, hu]
  exact Bool.noConfusion

/-- It keeps the record of what is followed in the datacenter that it declares. -/
theorem get?_kept_of_some (h : l.Sound) {service : Mesh.Service} {u : Mesh.UpstreamDeclaration}
    (hu : (upstreamsOf service).get? name = some u) :
    (l.state.upstreams.filter (keeps (upstreamsOf service))).get? name =
      if l.follows name u.datacenter then (l.declarations.get? name).map (l.record name)
      else none := by
  rw [SortedMap.get?_filter, get?_upstreams]
  cases hv : l.declarations.get? name with
  | none => simp
  | some v =>
      -- the watch and the record of an upstream name the same datacenter
      have hfollows : l.follows name u.datacenter = decide (u.datacenter = v.datacenter) := by
        rw [Bool.eq_iff_iff, h.follows_iff, hv, decide_eq_true_eq]
        constructor
        · rintro ⟨v', hv', hdatacenter⟩
          rw [← hdatacenter, Option.some.inj hv']
        · exact fun heq => ⟨v, rfl, heq.symm⟩
      have hkeeps : keeps (upstreamsOf service) name (l.record name v) =
          decide (u.datacenter = v.datacenter) := by
        rw [keeps, hu]
        rfl
      rw [Option.map_some, Option.filter_some, hkeeps, hfollows]

/-- The declarations without a record are those that need a new watch. -/
theorem unrecorded_kept (h : l.Sound) (service : Mesh.Service) :
    unrecorded (l.state.upstreams.filter (keeps (upstreamsOf service)))
      (upstreamsOf service).entries = l.unfollowed service := by
  refine List.filter_congr fun e he => ?_
  obtain ⟨name, u⟩ := e
  have hu : (upstreamsOf service).get? name = some u := (SortedMap.mem_entries _ _ _).1 he
  rw [SortedMap.contains, get?_kept_of_some h hu]
  cases hfollows : l.follows name u.datacenter with
  | false => simp
  | true =>
      obtain ⟨v, hv, -⟩ := h.follows_iff.1 hfollows
      simp [hv]

/-- What a definition declares is declared from then on. -/
theorem declarations_hear_proxy (l : Ledger) (a : Answer Mesh.Service) :
    (l.hear (.proxy a)).declarations = upstreamsOf a.1 := rfl

/-- What is followed after a definition is what it declares. -/
theorem followed_hear_proxy (l : Ledger) (a : Answer Mesh.Service) (name : String) :
    (l.hear (.proxy a)).followed name = ((upstreamsOf a.1).get? name).bind (l.refollow a.1 name) :=
  rfl

/-- The record of a declared upstream after a definition. -/
theorem record_hear_proxy (h : l.Sound) {u : Mesh.UpstreamDeclaration}
    (hu : (upstreamsOf a.1).get? name = some u) :
    (l.hear (.proxy a)).record name u =
      ((l.state.upstreams.filter (keeps (upstreamsOf a.1))).get? name).elim
        (newRecord (l.started + ((l.unfollowed a.1).map (·.1)).idxOf name) name u)
        (·.rebound u) := by
  have hfollowed : (l.hear (.proxy a)).followed name = l.refollow a.1 name u := by
    rw [followed_hear_proxy, hu]
    rfl
  -- a watch that goes on has its record kept; for a new one the record is new
  rw [get?_kept_of_some h hu]
  cases hfollows : l.follows name u.datacenter with
  | false =>
      rw [refollow, hfollows, if_neg Bool.noConfusion] at hfollowed
      rw [record, reported, hfollowed]
      simp [newRecord]
  | true =>
      obtain ⟨v, hv, hdatacenter⟩ := h.follows_iff.1 hfollows
      rw [refollow, if_pos hfollows] at hfollowed
      rw [record, reported, hfollowed]
      simp [hv, UpstreamRecord.rebound, record, reported, hdatacenter]

/-- **A definition makes the state of the next ledger.** -/
theorem state_define (h : l.Sound) (a : Answer Mesh.Service) :
    (l.state.define l.started a.1).state = (l.hear (.proxy a)).state := by
  have hupstreams : (l.state.define l.started a.1).state.upstreams =
      (l.hear (.proxy a)).state.upstreams := by
    -- name by name: one that is not declared has no record on either side
    refine SortedMap.ext_get? fun name => ?_
    rw [get?_upstreams, declarations_hear_proxy]
    show (declareAll (l.state.upstreams.filter (keeps (upstreamsOf a.1))) l.started
      (upstreamsOf a.1).entries).1.get? name = _
    cases hu : (upstreamsOf a.1).get? name with
    | none =>
        have hnot : name ∉ (upstreamsOf a.1).entries.map (·.1) := by
          intro hmem
          obtain ⟨u, hu'⟩ := (SortedMap.mem_keys _ _).1 hmem
          exact nomatch hu.symm.trans hu'
        rw [get?_declareAll_of_not_mem hnot, get?_kept_of_none hu]
        rfl
    | some u =>
        rw [get?_declareAll (nodup_names a.1) ((SortedMap.mem_entries _ _ _).2 hu),
          unrecorded_kept h, Option.map_some, record_hear_proxy h hu]
  show ({ (l.hear (.proxy a)).state with
    upstreams := (l.state.define l.started a.1).state.upstreams } : State) = _
  rw [hupstreams]

/-- The watches that a definition starts. -/
theorem started_define (h : l.Sound) (service : Mesh.Service) :
    (l.state.define l.started service).started = ((l.unfollowed service).zipIdx l.started).map
      fun e => ⟨e.2, e.1.1, e.1.2.datacenter⟩ := by
  rw [← unrecorded_kept h]
  exact started_declareAll (nodup_names service)

/-- Whether a definition keeps what is followed under a name. -/
def Kept (service : Mesh.Service) (name : String) (f : Followed) : Prop :=
  ∃ u, (upstreamsOf service).get? name = some u ∧ u.datacenter = f.datacenter

/-- The watches that a definition cancels. -/
theorem mem_cancelled_define (h : l.Sound) {service : Mesh.Service} {next id : WatchId} :
    id ∈ (l.state.define next service).cancelled ↔
      ∃ name f, l.followed name = some f ∧ f.watch = id ∧ ¬ Kept service name f := by
  have hrecord {name : String} {f : Followed} {u : Mesh.UpstreamDeclaration}
      (hf : l.followed name = some f) : (l.record name u).watch = f.watch := by
    rw [record, hf]
    rfl
  -- what the state records of a service and what the ledger follows agree on its datacenter
  have hkeeps {name : String} {f : Followed} {u : Mesh.UpstreamDeclaration}
      (hdatacenter : f.datacenter = u.datacenter) :
      keeps (upstreamsOf service) name (l.record name u) = true ↔ Kept service name f := by
    rw [keeps, Kept, hdatacenter]
    cases (upstreamsOf service).get? name with
    | none => simp
    | some v =>
        constructor
        · exact fun h => ⟨v, rfl, of_decide_eq_true h⟩
        · rintro ⟨v', hv', h⟩
          obtain rfl := Option.some.inj hv'
          exact decide_eq_true h
  show id ∈ (SortedMap.values (l.state.upstreams.filter fun name r =>
    !keeps (upstreamsOf service) name r)).map (·.watch) ↔ _
  rw [List.mem_map]
  constructor
  · rintro ⟨r, hr, rfl⟩
    obtain ⟨⟨name, r⟩, hmem, rfl⟩ := List.mem_map.1 hr
    rw [SortedMap.mem_entries, SortedMap.get?_filter, Option.filter_eq_some_iff, get?_upstreams,
      Option.map_eq_some_iff] at hmem
    obtain ⟨⟨u, hu, rfl⟩, hdropped⟩ := hmem
    obtain ⟨f, hf, hdatacenter⟩ := h.followed_of_declared hu
    refine ⟨name, f, hf, (hrecord hf).symm, fun hkept => ?_⟩
    rw [(hkeeps hdatacenter).2 hkept] at hdropped
    exact nomatch hdropped
  · rintro ⟨name, f, hf, rfl, hnot⟩
    obtain ⟨u, hu, hdatacenter⟩ := h.declared_of_followed hf
    refine ⟨l.record name u, List.mem_map.2 ⟨(name, l.record name u), ?_, rfl⟩, hrecord hf⟩
    rw [SortedMap.mem_entries, SortedMap.get?_filter, Option.filter_eq_some_iff, get?_upstreams, hu]
    refine ⟨rfl, ?_⟩
    rw [Bool.not_eq_true', Bool.eq_false_iff]
    exact fun hkept => hnot ((hkeeps hdatacenter.symm).1 hkept)

/-- What is kept is followed as before. -/
theorem followed_of_kept {f : Followed} (hf : l.followed name = some f) (h : Kept a.1 name f) :
    (l.hear (.proxy a)).followed name = some f := by
  obtain ⟨u, hu, hdatacenter⟩ := h
  have hfollows : l.follows name u.datacenter = true := by
    rw [follows, hf]
    exact decide_eq_true hdatacenter.symm
  rw [followed_hear_proxy, hu, Option.bind_some, refollow, if_pos hfollows, hf]

/-- A numbered entry is one of the entries, at the number of its name. -/
theorem mem_zipIdx_iff {es : List (String × Mesh.UpstreamDeclaration)}
    (hd : (es.map (·.1)).Nodup) {u : Mesh.UpstreamDeclaration} {i n : Nat} :
    ((name, u), i) ∈ es.zipIdx n ↔ (name, u) ∈ es ∧ i = n + (es.map (·.1)).idxOf name := by
  induction es generalizing n with
  | nil => simp
  | cons e es ih =>
      obtain ⟨name', u'⟩ := e
      obtain ⟨hnot, hd⟩ := List.nodup_cons.1 hd
      have hne (hmem : (name, u) ∈ es) : name' ≠ name := by
        rintro rfl
        exact hnot (List.mem_map.2 ⟨_, hmem, rfl⟩)
      rw [List.zipIdx_cons, List.mem_cons, List.mem_cons, ih hd, List.map_cons]
      constructor
      · rintro (heq | ⟨hmem, hi⟩)
        · obtain ⟨hentry, hi⟩ := Prod.mk.inj heq
          obtain ⟨rfl, rfl⟩ := Prod.mk.inj hentry
          subst hi
          exact ⟨.inl rfl, by rw [List.idxOf_cons_self, Nat.add_zero]⟩
        · exact ⟨.inr hmem, by rw [List.idxOf_cons_ne _ (hne hmem)]; omega⟩
      · rintro ⟨heq | hmem, hi⟩
        · obtain ⟨rfl, rfl⟩ := Prod.mk.inj heq
          rw [List.idxOf_cons_self, Nat.add_zero] at hi
          exact .inl (by rw [hi])
        · rw [List.idxOf_cons_ne _ (hne hmem)] at hi
          exact .inr ⟨hmem, by omega⟩

/-- No upstream gets two new watches. -/
theorem nodup_unfollowed (l : Ledger) (service : Mesh.Service) :
    ((l.unfollowed service).map (·.1)).Nodup :=
  (nodup_names service).sublist (List.filter_sublist.map _)

/-- What is followed after a definition is kept or new. -/
theorem followed_cases {f : Followed} (hf : (l.hear (.proxy a)).followed name = some f) :
    (l.followed name = some f ∧ Kept a.1 name f) ∨
      ∃ u, ((name, u), f.watch) ∈ (l.unfollowed a.1).zipIdx l.started ∧ f.latest = none := by
  rw [followed_hear_proxy] at hf
  obtain ⟨u, hu, hrefollow⟩ := Option.bind_eq_some_iff.1 hf
  rw [refollow] at hrefollow
  cases hfollows : l.follows name u.datacenter with
  | true =>
      rw [hfollows, if_pos rfl] at hrefollow
      rw [follows, hrefollow] at hfollows
      exact .inl ⟨hrefollow, u, hu, (of_decide_eq_true hfollows).symm⟩
  | false =>
      rw [hfollows, if_neg Bool.noConfusion] at hrefollow
      have hmem : (name, u) ∈ l.unfollowed a.1 := by
        refine List.mem_filter.2 ⟨(SortedMap.mem_entries _ _ _).2 hu, ?_⟩
        rw [hfollows]
        rfl
      obtain rfl := Option.some.inj hrefollow
      exact .inr ⟨u, (mem_zipIdx_iff (l.nodup_unfollowed a.1)).2 ⟨hmem, rfl⟩, rfl⟩

/-- Every new watch is followed. -/
theorem followed_of_started {u : Mesh.UpstreamDeclaration} {id : WatchId}
    (h : ((name, u), id) ∈ (l.unfollowed a.1).zipIdx l.started) :
    (l.hear (.proxy a)).followed name = some ⟨u.datacenter, id, none⟩ := by
  obtain ⟨hmem, rfl⟩ := (mem_zipIdx_iff (l.nodup_unfollowed a.1)).1 h
  obtain ⟨hentry, hfollows⟩ := List.mem_filter.1 hmem
  have hnot : ¬ l.follows name u.datacenter = true := by
    rw [Bool.not_eq_true, ← Bool.not_eq_true']
    exact hfollows
  rw [followed_hear_proxy, (SortedMap.mem_entries _ _ _).1 hentry, Option.bind_some, refollow,
    if_neg hnot]

/-- A definition that repeats the latest one changes nothing. -/
theorem hear_proxy_same (h : l.Sound) {b : Answer Mesh.Service} (hb : l.proxy = some b)
    (hab : b.1 = a.1) : l.hear (.proxy a) = { l with proxy := some a } := by
  have hdeclared : upstreamsOf a.1 = l.declarations := by
    rw [declarations, hb, ← hab]
    rfl
  have hfollows {name : String} {u : Mesh.UpstreamDeclaration}
      (hu : l.declarations.get? name = some u) : l.follows name u.datacenter = true :=
    h.follows_iff.2 ⟨u, hu, rfl⟩
  -- everything declared is followed already, so no watch starts and none ends
  have hfollowed : (l.hear (.proxy a)).followed = l.followed := by
    funext name
    rw [followed_hear_proxy, hdeclared]
    cases hu : l.declarations.get? name with
    | none =>
        cases hf : l.followed name with
        | none => rfl
        | some f =>
            obtain ⟨u, hu', -⟩ := h.declared_of_followed hf
            exact nomatch hu.symm.trans hu'
    | some u => rw [Option.bind_some, refollow, if_pos (hfollows hu)]
  have hunfollowed : l.unfollowed a.1 = [] := by
    rw [unfollowed, List.filter_eq_nil_iff, hdeclared]
    rintro ⟨name, u⟩ hmem
    rw [hfollows ((SortedMap.mem_entries _ _ _).1 hmem)]
    exact Bool.noConfusion
  show { l with
    proxy := some a
    followed := (l.hear (.proxy a)).followed
    started := l.started + (l.unfollowed a.1).length } = _
  rw [hfollowed, hunfollowed]
  rfl

/-- The same definition again changes nothing, for all that it declares is
    followed already. -/
theorem state_hear_proxy_same (h : l.Sound) {b : Answer Mesh.Service} (hb : l.proxy = some b)
    (hab : b.1 = a.1) : (l.hear (.proxy a)).state = l.state := by
  rw [hear_proxy_same h hb hab]
  have hdeclared : ({ l with proxy := some a } : Ledger).declarations = l.declarations := by
    rw [declarations, declarations, hb, Option.map_some, Option.map_some, hab]
  rw [state, hdeclared, state, hb, Option.map_some, Option.map_some, Option.map_some,
    Option.map_some, Option.map_some, Option.map_some, hab]
  rfl

/-! ## The snapshot -/

/-- **The snapshot of the state that answers make** is their assembly. -/
theorem snapshot?_state {identity : Identity} {caRoots : Answer Mesh.CaRoots}
    {leaf : Answer Mesh.Leaf} {proxy service : Answer Mesh.Service}
    (hcaRoots : l.caRoots = some caRoots) (hleaf : l.leaf = some leaf)
    (hproxy : l.proxy = some proxy) (hservice : l.service = some service) :
    l.state.snapshot? identity.serviceName identity.serviceId =
      some (assembly identity caRoots.1 leaf.1 proxy.1 service.1 l.reported) := by
  have hupstreams (tls : TlsMaterial) : l.state.upstreams.values.map (·.upstream tls) =
      (upstreamsOf proxy.1).entries.map fun e =>
        { service := e.1
          localBindAddress := e.2.localBindAddress
          localBindPort := e.2.localBindPort
          tls := tls
          endpoints := Mesh.selectEndpoints (l.reported e.1) } := by
    rw [state, declarations, hproxy, SortedMap.values, SortedMap.entries_mapValues, List.map_map,
      List.map_map]
    rfl
  rw [State.snapshot?, State.tls?]
  simp only [hupstreams]
  rw [state, hcaRoots, hleaf, hproxy, hservice]
  rfl

end Ledger

end MeshSync.Watch
