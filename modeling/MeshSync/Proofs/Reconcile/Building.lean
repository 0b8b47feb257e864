import MeshSync.Proofs.Reconcile.Ownership

/-! # How listeners are built

    The operations that build a listener create its frontend, what belongs to
    the frontend, its backend, and what belongs to the backend.  `Builds` says
    what follows from this: each object is created once and after the one it
    belongs to, and the listener owns all of them.  Both kinds of listeners are
    built in this way (`builds_downstream`, `builds_upstream`). -/

namespace MeshSync.Reconcile

open Dataplane
open Url (Unreserved)

/-- The key that a change is about. -/
def key : Change → ObjectKey
  | .create k _ => k
  | .replace k _ => k
  | .delete k => k

/-- A change within a set of keys is about one of them. -/
theorem key_of_within {P : ObjectKey → Prop} {c : Change} (h : c.Within P) : P (key c) := by
  cases c with
  | create k value => exact h
  | replace k value => exact h
  | delete k => exact h.1

/-! ## Objects that belong to another one -/

/-- Whether an operation creates an object that belongs to an owner. -/
def Belongs (o : Owner) (op : Operation) : Prop :=
  ∃ kind name value, op.change = .create (o.child kind name) value

/-- An object that belongs to an owner has it for a parent. -/
theorem Belongs.parent {o : Owner} {op : Operation} (h : Belongs o op) :
    (key op.change).parent = some o.key.owner := by
  obtain ⟨kind, name, value, hchange⟩ := h
  rw [hchange]
  rfl

/-- Whether it does so with names that stand for themselves. -/
structure Child (o : Owner) (op : Operation) : Prop where
  plain : op.Plain
  creates : ∃ kind name value, op.change = .create (o.child kind name) value ∧
    (kind ≠ "frontends" ∧ kind ≠ "backends") ∧ Unreserved name ∧
    Command.objectName? value = some name

namespace Child

/-- A bind belongs to its frontend. -/
theorem bind {frontend : String} {b : Bind} (h : Unreserved frontend) (hname : Unreserved b.name) :
    Child (.frontend frontend) (.createBind frontend b) :=
  ⟨h, _, _, _, rfl, by decide, hname, objectName?_bind b⟩

/-- A server belongs to its backend. -/
theorem server {backend : String} {s : Server} (h : Unreserved backend)
    (hname : Unreserved s.name) : Child (.backend backend) (.createServer backend s) :=
  ⟨h, _, _, _, rfl, by decide, hname, objectName?_server s⟩

/-- Numbers stand for themselves in a URL. -/
theorem unreserved_text (n : Nat) : Unreserved (Decimal.text n) := by
  intro c hc
  rw [Decimal.text, String.toList_ofList] at hc
  exact isUnreserved_of_isDigit (Decimal.isDigit_of_mem_digits c hc)

/-- A log target belongs to its owner. -/
theorem logTarget {o : Owner} {t : LogTarget} (h : Unreserved o.name) :
    Child o (.createLogTarget o t) :=
  ⟨h, _, _, _, rfl, by decide, unreserved_text _, objectName?_logTarget t⟩

/-- So does a filter. -/
theorem filter {o : Owner} {f : Filter} (h : Unreserved o.name) : Child o (.createFilter o f) :=
  ⟨h, _, _, _, rfl, by decide, unreserved_text _, objectName?_filter f⟩

/-- So does a rule. -/
theorem rule {o : Owner} {r : TcpRequestRule} (h : Unreserved o.name) :
    Child o (.createTcpRequestRule o r) :=
  ⟨h, _, _, _, rfl, by decide, unreserved_text _, objectName?_tcpRequestRule r⟩

variable {o : Owner} {op : Operation} {known : List ObjectKey}

/-- What creates a child creates what belongs to its owner. -/
theorem belongs (h : Child o op) : Belongs o op := by
  obtain ⟨kind, name, value, hchange, -⟩ := h.creates
  exact ⟨kind, name, value, hchange⟩

/-- It may be created once its owner was. -/
theorem fits (h : Child o op) (ho : o.key ∈ known) : op.change.Fits known := by
  obtain ⟨kind, name, value, hchange, hkind, hname, hvalue⟩ := h.creates
  have hroot : o.key.IsRoot := by
    cases o with
    | frontend name => exact ObjectKey.isRoot_frontend name
    | backend name => exact ObjectKey.isRoot_backend name
  rw [hchange]
  refine ⟨⟨hname, hvalue, fun hr => ?_⟩, fun _ => ⟨o.key, ho, hroot, rfl⟩⟩
  exact (hr.elim hkind.1 hkind.2).elim

/-- A child makes no owner unknown. -/
theorem known_subset (h : Child o op) : known ⊆ op.change.known known := by
  obtain ⟨kind, name, value, hchange, -⟩ := h.creates
  rw [hchange]
  exact List.subset_cons_self _ known

end Child

/-- Objects that belong to one that was created may be created in any order. -/
theorem orderly_children {o : Owner} {known : List ObjectKey} {ops : List Operation}
    {cs : List Change} (h : ∀ op ∈ ops, Child o op) (ho : o.key ∈ known)
    (hcs : ∀ known', known ⊆ known' → Orderly known' cs) :
    Orderly known (ops.map (·.change) ++ cs) := by
  induction ops generalizing known with
  | nil => exact hcs known (List.Subset.refl known)
  | cons op ops ih =>
      have hop := h op (by simp)
      refine ⟨hop.fits ho, ih (fun p hp => h p (List.mem_cons_of_mem _ hp))
        (hop.known_subset ho) fun known' hsub => ?_⟩
      exact hcs known' (List.Subset.trans hop.known_subset hsub)

/-! ## The shape of what builds a listener -/

/-- Whether operations create objects of a listener, each of them once, its
    frontend and backend among them. -/
structure Creates (l : Listener) (ops : List Operation) : Prop where
  creates : ∀ op ∈ ops, ∃ k v, op.change = .create k v ∧ l.Owns k
  distinct : (ops.map fun op => key op.change).Nodup
  front : ∃ op ∈ ops, key op.change = l.front
  back : ∃ op ∈ ops, key op.change = l.back

/-- Whether operations build a listener where nothing of it is there. -/
structure Builds (l : Listener) (ops : List Operation) : Prop extends Creates l ops where
  plain : ∀ op ∈ ops, op.Plain
  orderly : Orderly [] (ops.map (·.change))

section

variable {l : Listener} {f : Frontend} {b : Backend} {fs bs : List Operation}

/-- The operations of a listener are its frontend, what belongs to that, its
    backend, and what belongs to that. -/
theorem cases_of_mem {op : Operation}
    (h : op ∈ Operation.createFrontend f :: (fs ++ .createBackend b :: bs)) :
    op = .createFrontend f ∨ op ∈ fs ∨ op = .createBackend b ∨ op ∈ bs := by
  simpa [or_assoc] using h

/-- **A frontend with what belongs to it, and a backend with what belongs to
    it, are a listener's objects.** -/
theorem Creates.of_belongs (hf : f.name = l.frontend) (hb : b.name = l.backend)
    (hfs : ∀ op ∈ fs, Belongs (.frontend l.frontend) op)
    (hbs : ∀ op ∈ bs, Belongs (.backend l.backend) op)
    (hfd : (fs.map fun op => key op.change).Nodup) (hbd : (bs.map fun op => key op.change).Nodup) :
    Creates l (.createFrontend f :: (fs ++ .createBackend b :: bs)) := by
  have hfront : key (Operation.createFrontend f).change = l.front := congrArg ObjectKey.frontend hf
  have hback : key (Operation.createBackend b).change = l.back := congrArg ObjectKey.backend hb
  refine ⟨?_, ?_, ⟨_, by simp, hfront⟩, ⟨.createBackend b, by simp, hback⟩⟩
  · intro op hop
    rcases cases_of_mem hop with rfl | hop | rfl | hop
    · exact ⟨_, _, rfl, .inl hfront⟩
    · obtain ⟨kind, name, value, hchange⟩ := hfs op hop
      exact ⟨_, _, hchange, .inr (.inr (.inl rfl))⟩
    · exact ⟨_, _, rfl, .inr (.inl hback)⟩
    · obtain ⟨kind, name, value, hchange⟩ := hbs op hop
      exact ⟨_, _, hchange, .inr (.inr (.inr rfl))⟩
  · -- keys differ by the owners of their objects, or are those of the owners themselves
    have hfp : ∀ k ∈ fs.map fun op => key op.change, k.parent = some l.front.owner := by
      intro k hk
      obtain ⟨op, hop, rfl⟩ := List.mem_map.1 hk
      exact (hfs op hop).parent
    have hbp : ∀ k ∈ bs.map fun op => key op.change, k.parent = some l.back.owner := by
      intro k hk
      obtain ⟨op, hop, rfl⟩ := List.mem_map.1 hk
      exact (hbs op hop).parent
    rw [List.map_cons, List.map_append, List.map_cons, hfront, hback]
    refine List.nodup_cons.2 ⟨fun hmem => ?_, List.nodup_append.2 ⟨hfd,
      List.nodup_cons.2 ⟨fun hmem => ?_, hbd⟩, fun a ha b hb hab => ?_⟩⟩
    · rcases List.mem_append.1 hmem with h | h
      · exact nomatch hfp _ h
      · rcases List.mem_cons.1 h with h | h
        · exact absurd (congrArg ObjectKey.kind h)
            (by decide : ¬ (("frontends" : String) = "backends"))
        · exact nomatch hbp _ h
    · exact nomatch hbp _ hmem
    · subst hab
      rcases List.mem_cons.1 hb with rfl | hb
      · exact nomatch hfp _ ha
      · exact Listener.front_owner_ne_back_owner _ _
          (Option.some.inj ((hfp a ha).symm.trans (hbp a hb)))

/-- **With plain names, they make a listener.** -/
theorem Builds.of_children (hl : l.Plain) (hf : f.name = l.frontend) (hb : b.name = l.backend)
    (hfs : ∀ op ∈ fs, Child (.frontend l.frontend) op)
    (hbs : ∀ op ∈ bs, Child (.backend l.backend) op)
    (hfd : (fs.map fun op => key op.change).Nodup) (hbd : (bs.map fun op => key op.change).Nodup) :
    Builds l (.createFrontend f :: (fs ++ .createBackend b :: bs)) := by
  have hfront : key (Operation.createFrontend f).change = l.front := congrArg ObjectKey.frontend hf
  have hback : key (Operation.createBackend b).change = l.back := congrArg ObjectKey.backend hb
  refine ⟨.of_belongs hf hb (fun op hop => (hfs op hop).belongs)
    (fun op hop => (hbs op hop).belongs) hfd hbd, ?_, ?_⟩
  · intro op hop
    rcases cases_of_mem hop with rfl | hop | rfl | hop
    · trivial
    · exact (hfs op hop).plain
    · trivial
    · exact (hbs op hop).plain
  · have hfits : (Operation.createFrontend f).change.Fits [] :=
      ⟨⟨(show Unreserved f.name from hf ▸ hl.frontend), objectName?_frontend f, fun _ => rfl⟩,
        fun hroot => absurd (ObjectKey.isRoot_frontend _) hroot⟩
    have hbackFits : ∀ known, (Operation.createBackend b).change.Fits known := fun known =>
      ⟨⟨(show Unreserved b.name from hb ▸ hl.backend), objectName?_backend b, fun _ => rfl⟩,
        fun hroot => absurd (ObjectKey.isRoot_backend _) hroot⟩
    rw [List.map_cons, List.map_append, List.map_cons]
    refine ⟨hfits, orderly_children hfs ?_ fun known _ => ⟨hbackFits known, ?_⟩⟩
    · exact List.mem_cons.2 (.inl hfront.symm)
    · rw [← List.append_nil (bs.map _)]
      exact orderly_children hbs (List.mem_cons.2 (.inl hback.symm)) fun _ _ => trivial

end

/-! ## The downstream -/

/-- The operations of a part, given the files of every material. -/
def Part.operations (paths : TlsMaterial → Certificates.Paths) : Part → List Operation
  | plain op => [op]
  | sealed material ops => ops (paths material)

variable {paths : TlsMaterial → Certificates.Paths}

/-- What parts stage, given the files of every material. -/
def operations (paths : TlsMaterial → Certificates.Paths) (parts : List Part) : List Operation :=
  parts.flatMap (·.operations paths)

/-- What parts stage is staged part after part. -/
theorem operations_append (ps qs : List Part) :
    operations paths (ps ++ qs) = operations paths ps ++ operations paths qs :=
  List.flatMap_append

/-- A plain part stages its one operation. -/
theorem operations_plain (ops : List Operation) : operations paths (ops.map .plain) = ops := by
  induction ops with
  | nil => rfl
  | cons op ops ih => exact congrArg (op :: ·) ih

/-- Operations on different kinds of objects are on different objects. -/
theorem nodup_kinds {ops : List Operation}
    (h : (ops.map fun op => (key op.change).kind).Nodup) :
    (ops.map fun op => key op.change).Nodup := by
  refine List.Nodup.of_map ObjectKey.kind ?_
  rwa [List.map_map]

/-- **The downstream is built as listeners are.** -/
theorem builds_downstream (d : Downstream) (options : Options) :
    Builds .downstream (operations paths (Downstream.build d options)) := by
  have hplain := Listener.plain_downstream
  have hfront : Unreserved (Owner.frontend Listener.downstream.frontend).name := hplain.frontend
  have hback : Unreserved (Owner.backend Listener.downstream.backend).name := hplain.backend
  have hbind : Unreserved (Downstream.bind d (paths d.tls)).name :=
    (by decide : Unreserved "front_downstream_bind")
  have hserver : Unreserved (Downstream.server d).name :=
    (by decide : Unreserved "downstream_node")
  -- the operations in the order of creation: a frontend and its children, then a backend and its
  -- own
  have hops : operations paths (Downstream.build d options) =
      Listener.downstream.createFrontend ::
        (([.createBind Listener.downstream.frontend (Downstream.bind d (paths d.tls)),
          Listener.downstream.logFrontend options] ++ Downstream.intentions options) ++
        Listener.downstream.createBackend none ::
          [Listener.downstream.logBackend options,
            .createServer Listener.downstream.backend (Downstream.server d)]) := by
    simp [operations, Downstream.build, Part.operations, Downstream.rest]
  rw [hops]
  refine .of_children hplain rfl rfl (fun op hop => ?_) (fun op hop => ?_) (nodup_kinds ?_)
    (nodup_kinds ?_)
  · rcases List.mem_append.1 hop with hop | hop
    · rcases List.mem_cons.1 hop with rfl | hop
      · exact .bind hfront hbind
      · rw [List.mem_singleton.1 hop]
        exact .logTarget hfront
    · rw [Downstream.intentions] at hop
      split at hop
      · rcases List.mem_cons.1 hop with rfl | hop
        · exact .filter hfront
        · rw [List.mem_singleton.1 hop]
          exact .rule hfront
      · exact absurd hop List.not_mem_nil
  · rcases List.mem_cons.1 hop with rfl | hop
    · exact .logTarget hback
    · rw [List.mem_singleton.1 hop]
      exact .server hback hserver
  · rw [List.map_append, Downstream.intentions]
    split
    · exact (by decide : ["binds", "log_targets", "filters", "tcp_request_rules"].Nodup)
    · exact (by decide : ["binds", "log_targets"].Nodup)
  · exact (by decide : ["log_targets", "servers"].Nodup)

/-! ## Upstreams -/

/-- The names of an upstream's servers stand for themselves where its own
    does. -/
theorem unreserved_server {u : Upstream} (h : Unreserved u.service) (files : Certificates.Paths)
    (e : Endpoint) (place : Nat) : Unreserved (Upstream.server u files e place).name :=
  .append (.append h (by decide : Unreserved "_")) (unreserved_toString place)

/-- The servers of an upstream have different names. -/
theorem nodup_servers (u : Upstream) (files : Certificates.Paths) :
    ((Upstream.servers u files).map fun op => key op.change).Nodup := by
  have hkeys : (Upstream.servers u files).map (fun op => (key op.change).name) =
      (List.range u.endpoints.length).map fun i => u.service ++ "_" ++ toString i := by
    refine List.ext_getElem? fun i => ?_
    rw [Upstream.servers, List.getElem?_map, List.getElem?_mapIdx, List.getElem?_map]
    by_cases hi : i < u.endpoints.length
    · rw [List.getElem?_eq_getElem hi, List.getElem?_range hi]
      rfl
    · have hle : u.endpoints.length ≤ i := Nat.le_of_not_lt hi
      rw [List.getElem?_eq_none hle, List.getElem?_eq_none (by simpa using hle)]
      rfl
  refine List.Nodup.of_map ObjectKey.name ?_
  rw [List.map_map]
  show ((Upstream.servers u files).map fun op => (key op.change).name).Nodup
  rw [hkeys]
  refine List.nodup_range.map fun i j hij => ?_
  have hij := congrArg String.toList hij
  rw [String.toList_append, String.toList_append (t := toString j)] at hij
  exact Decimal.toString_inj (String.toList_inj.1 (List.append_cancel_left hij))

/-- The operations that build an upstream. -/
theorem operations_upstream (u : Upstream) (options : Options) :
    operations paths (Upstream.build u options) =
      (Listener.upstream u.service).createFrontend ::
        ([.createBind (Listener.upstream u.service).frontend (Upstream.bind u),
          (Listener.upstream u.service).logFrontend options] ++
        (Listener.upstream u.service).createBackend (some ⟨"roundrobin"⟩) ::
          ((Listener.upstream u.service).logBackend options ::
            Upstream.servers u (paths u.tls))) := by
  rw [Upstream.build, operations_append, operations_plain]
  by_cases he : u.endpoints.isEmpty = true
  · rw [if_pos he, Upstream.servers, List.isEmpty_iff.1 he]
    rfl
  · rw [if_neg he]
    simp [operations, Part.operations, Upstream.frame]

/-- What belongs to the backend of an upstream has different keys. -/
theorem nodup_back (u : Upstream) (options : Options) (files : Certificates.Paths) :
    (((Listener.upstream u.service).logBackend options :: Upstream.servers u files).map
      fun op => key op.change).Nodup := by
  refine List.nodup_cons.2 ⟨fun hmem => ?_, nodup_servers u files⟩
  obtain ⟨op, hop, hkey⟩ := List.mem_map.1 hmem
  obtain ⟨i, hi, rfl⟩ := List.mem_mapIdx.1 hop
  exact absurd (congrArg ObjectKey.kind hkey)
    (by decide : ¬ (("servers" : String) = "log_targets"))

/-- Whatever its name is, what builds an upstream creates its objects. -/
theorem creates_upstream (u : Upstream) (options : Options) :
    Creates (.upstream u.service) (operations paths (Upstream.build u options)) := by
  rw [operations_upstream]
  refine .of_belongs rfl rfl (fun op hop => ?_) (fun op hop => ?_) (nodup_kinds ?_)
    (nodup_back u options _)
  · rcases List.mem_cons.1 hop with rfl | hop
    · exact ⟨_, _, _, rfl⟩
    · rw [List.mem_singleton.1 hop]
      exact ⟨_, _, _, rfl⟩
  · rcases List.mem_cons.1 hop with rfl | hop
    · exact ⟨_, _, _, rfl⟩
    · obtain ⟨i, hi, rfl⟩ := List.mem_mapIdx.1 hop
      exact ⟨_, _, _, rfl⟩
  · exact (by decide : ["binds", "log_targets"].Nodup)

/-- **An upstream is built as listeners are.** -/
theorem builds_upstream {u : Upstream} (h : Unreserved u.service) (options : Options) :
    Builds (.upstream u.service) (operations paths (Upstream.build u options)) := by
  have hplain := Listener.plain_upstream h
  have hbind : Unreserved (Upstream.bind u).name :=
    .append hplain.frontend (by decide : Unreserved "_bind")
  rw [operations_upstream]
  refine .of_children hplain rfl rfl (fun op hop => ?_) (fun op hop => ?_) (nodup_kinds ?_)
    (nodup_back u options _)
  · rcases List.mem_cons.1 hop with rfl | hop
    · exact .bind hplain.frontend hbind
    · rw [List.mem_singleton.1 hop]
      exact .logTarget hplain.frontend
  · rcases List.mem_cons.1 hop with rfl | hop
    · exact .logTarget hplain.backend
    · obtain ⟨i, hi, rfl⟩ := List.mem_mapIdx.1 hop
      exact .server hplain.backend (unreserved_server h _ _ i)
  · exact (by decide : ["binds", "log_targets"].Nodup)

end MeshSync.Reconcile
