import MeshSync.Dataplane.Client
import MeshSync.Dataplane.Store
import MeshSync.Proofs.Decimal
import MeshSync.Proofs.Url.Query

/-! # From requests to commands

    A client writes a request as text and the store reads a command from the
    text.  `Operation.change` says which change an operation means; the main
    statements say that the store reads just that, `ofRequest_request` for
    operations and `ofRequest_begin`, `ofRequest_commit`, `ofRequest_abort` and
    `ofRequest_list` for the rest of what a client sends.  The names in the
    text are not encoded, so they have to be ones that come out as they went in
    (`Operation.Legible`); unreserved names do. -/

namespace MeshSync.Dataplane

open Url

/-! ## What operations mean -/

/-- The key of a frontend. -/
def ObjectKey.frontend (name : String) : ObjectKey := ⟨"frontends", none, name⟩

/-- The key of a backend. -/
def ObjectKey.backend (name : String) : ObjectKey := ⟨"backends", none, name⟩

/-- The key of the object that an owner is. -/
def Owner.key : Owner → ObjectKey
  | .frontend name => .frontend name
  | .backend name => .backend name

/-- The key of an object in a collection that belongs to an owner. -/
def Owner.child (o : Owner) (kind name : String) : ObjectKey := ⟨kind, some o.key.owner, name⟩

/-- The change that an operation means. -/
def Operation.change : Operation → Change
  | createFrontend f => .create (.frontend f.name) f.json
  | createBind frontend b => .create ((Owner.frontend frontend).child "binds" b.name) b.json
  | createBackend b => .create (.backend b.name) b.json
  | createServer backend s => .create ((Owner.backend backend).child "servers" s.name) s.json
  | replaceServer backend s => .replace ((Owner.backend backend).child "servers" s.name) s.json
  | deleteServer backend name => .delete ((Owner.backend backend).child "servers" name)
  | deleteFrontend name => .delete (.frontend name)
  | deleteBackend name => .delete (.backend name)
  | createLogTarget owner t =>
    .create (owner.child "log_targets" (Decimal.text t.id.toNat)) t.json
  | createFilter owner f => .create (owner.child "filters" (Decimal.text f.id.toNat)) f.json
  | createTcpRequestRule owner r =>
    .create (owner.child "tcp_request_rules" (Decimal.text r.id.toNat)) r.json

/-- The name of an owner. -/
def Owner.name : Owner → String
  | .frontend name => name
  | .backend name => name

/-- Whether the names that an operation puts into the text of its request
    stand there for themselves. -/
def Operation.Plain : Operation → Prop
  | createFrontend _ => True
  | createBind frontend _ => Unreserved frontend
  | createBackend _ => True
  | createServer backend _ => Unreserved backend
  | replaceServer backend s => Unreserved backend ∧ PlainSegment s.name.toList
  | deleteServer backend name => Unreserved backend ∧ PlainSegment name.toList
  | deleteFrontend name => PlainSegment name.toList
  | deleteBackend name => PlainSegment name.toList
  | createLogTarget owner _ => Unreserved owner.name
  | createFilter owner _ => Unreserved owner.name
  | createTcpRequestRule owner _ => Unreserved owner.name

/-- Whether the names that an operation puts into the text of its request
    come out of it as they went in: out of its path or out of its query. -/
def Operation.Legible : Operation → Prop
  | createFrontend _ => True
  | createBind frontend _ => Form.Literal frontend
  | createBackend _ => True
  | createServer backend _ => Form.Literal backend
  | replaceServer backend s => Form.Literal backend ∧ Stretch s.name.toList
  | deleteServer backend name => Form.Literal backend ∧ Stretch name.toList
  | deleteFrontend name => Stretch name.toList
  | deleteBackend name => Stretch name.toList
  | createLogTarget owner _ => Form.Literal owner.name
  | createFilter owner _ => Form.Literal owner.name
  | createTcpRequestRule owner _ => Form.Literal owner.name

/-- Names that stand for themselves come out of a request. -/
theorem Operation.Plain.legible {op : Operation} (h : op.Plain) : op.Legible := by
  cases op with
  | createFrontend f => trivial
  | createBind frontend b => exact Form.Literal.of_unreserved h
  | createBackend b => trivial
  | createServer backend s => exact Form.Literal.of_unreserved h
  | replaceServer backend s => exact ⟨.of_unreserved h.1, h.2.stretch⟩
  | deleteServer backend name => exact ⟨.of_unreserved h.1, h.2.stretch⟩
  | deleteFrontend name => exact PlainSegment.stretch h
  | deleteBackend name => exact PlainSegment.stretch h
  | createLogTarget owner t => exact Form.Literal.of_unreserved h
  | createFilter owner f => exact Form.Literal.of_unreserved h
  | createTcpRequestRule owner r => exact Form.Literal.of_unreserved h

/-! ## Names in bodies -/

/-- A field that is not among those of a body is not found in it. -/
theorem find_present_of_not_mem {fields : List (String × Option Json)} {name : String}
    (h : name ∉ fields.map (·.1)) :
    SortedMap.find name (fields.filterMap fun (key, value) => value.map (key, ·)) = none := by
  induction fields with
  | nil => rfl
  | cons f fields ih =>
      obtain ⟨key, value⟩ := f
      obtain ⟨hne, hmem⟩ := not_or.1 (mt List.mem_cons.2 h)
      have ih := ih hmem
      cases value with
      | none => exact ih
      | some j =>
          show (if compare name key = .eq then some j else SortedMap.find name _) = none
          rw [if_neg fun h => hne (Std.LawfulEqCmp.eq_of_compare h), ih]

/-- Looking a field up among those that have a value. -/
theorem field?_present {fields : List (String × Option Json)} (name : String)
    (hd : (fields.map (·.1)).Nodup) :
    (Json.present fields).field? name = (fields.lookup name).join := by
  show SortedMap.find name (fields.filterMap _) = _
  induction fields with
  | nil => rfl
  | cons f fields ih =>
      obtain ⟨key, value⟩ := f
      obtain ⟨hkey, hd⟩ := List.nodup_cons.1 hd
      have ih := ih hd
      by_cases hn : name = key
      · subst hn
        rw [List.lookup_cons_self]
        cases value with
        | some j => simp [SortedMap.find]
        | none =>
            show SortedMap.find name (fields.filterMap _) = none
            exact find_present_of_not_mem hkey
      · have hb : (name == key) = false := by simpa using hn
        rw [List.lookup_cons, hb]
        cases value with
        | some j => simpa [SortedMap.find, hn] using ih
        | none => simpa using ih

/-- The name of an object that has one. -/
theorem objectName?_named {fields : List (String × Option Json)} {name : String}
    (hd : (fields.map (·.1)).Nodup) (hname : fields.lookup "name" = some (some (.string name))) :
    Command.objectName? (.present fields) = some name := by
  rw [Command.objectName?, field?_present "name" hd, hname]
  rfl

/-- The name of an object that has a number instead. -/
theorem objectName?_numbered {fields : List (String × Option Json)} {n : Nat}
    (hd : (fields.map (·.1)).Nodup) (hname : fields.lookup "name" = none)
    (hid : fields.lookup "id" = some (some (.ofNat n))) :
    Command.objectName? (.present fields) = some (Decimal.text n) := by
  have htext : (Number.natural n).text = Decimal.text n := by
    simp [Number.text, Number.numeral, Numeral.chars, Numeral.ofNat, Decimal.text]
  rw [Command.objectName?, field?_present "name" hd, field?_present "id" hd, hname, hid, ← htext]
  rfl

/-- A frontend is filed under its name. -/
@[simp] theorem objectName?_frontend (f : Frontend) :
    Command.objectName? f.json = some f.name :=
  objectName?_named (by simp [List.nodup_cons]) rfl

/-- A bind is filed under its name. -/
@[simp] theorem objectName?_bind (b : Bind) : Command.objectName? b.json = some b.name :=
  objectName?_named (by simp [List.nodup_cons]) rfl

/-- A backend is filed under its name. -/
@[simp] theorem objectName?_backend (b : Backend) : Command.objectName? b.json = some b.name :=
  objectName?_named (by simp [List.nodup_cons]) rfl

/-- A server is filed under its name. -/
@[simp] theorem objectName?_server (s : Server) : Command.objectName? s.json = some s.name :=
  objectName?_named (by simp [List.nodup_cons]) rfl

/-- A log target is filed under its number. -/
@[simp] theorem objectName?_logTarget (t : LogTarget) :
    Command.objectName? t.json = some (Decimal.text t.id.toNat) :=
  objectName?_numbered (by simp [List.nodup_cons]) rfl rfl

/-- A filter is filed under its number. -/
@[simp] theorem objectName?_filter (f : Filter) :
    Command.objectName? f.json = some (Decimal.text f.id.toNat) :=
  objectName?_numbered (by simp [List.nodup_cons]) rfl rfl

/-- A rule is filed under its number. -/
@[simp] theorem objectName?_tcpRequestRule (r : TcpRequestRule) :
    Command.objectName? r.json = some (Decimal.text r.id.toNat) :=
  objectName?_numbered (by simp [List.nodup_cons]) rfl rfl

/-! ## Routes -/

/-- A path of segments. -/
def route (segments : List String) : String :=
  String.ofList (segments.flatMap fun s => '/' :: s.toList)

/-- A route begins with a slash and its first segment. -/
theorem route_cons (s : String) (rest : List String) :
    (route (s :: rest)).toList = '/' :: (s ++ route rest).toList := by
  simp [route]

/-- The text of a request whose parts stand for themselves falls into these
    parts. -/
theorem ofRequest_stretch {method : Method} {segments : List String} {path : String}
    {body : Option Json} (query : Option (List (String × String)))
    (hne : segments ≠ []) (hs : ∀ s ∈ segments, Stretch s.toList)
    (hq : ∀ ps, query = some ps → Form.PlainPairs ps)
    (hpath : path.toList = (route segments).toList ++ marked (query.map Form.plainQuery)) :
    Command.ofRequest ⟨method, path, body⟩ =
      Command.ofRoute method (route segments) (query.getD []) body := by
  obtain ⟨s, rest, rfl⟩ := List.exists_cons_of_ne_nil hne
  have hfront : (s ++ route rest).toList =
      s.toList ++ (rest.map String.toList).flatMap ('/' :: ·) := by
    rw [String.toList_append, route, String.toList_ofList, List.flatMap_map]
  have hstretch : Stretch (s ++ route rest).toList := by
    rw [hfront]
    refine Stretch.join (hs s (by simp)) fun t ht => ?_
    obtain ⟨name, hname, rfl⟩ := List.mem_map.1 ht
    exact hs name (List.mem_cons_of_mem _ hname)
  have hchars : ∀ q, query.map Form.plainQuery = some q → ∀ c ∈ q, isQueryChar c = true := by
    intro q hquery
    obtain ⟨ps, hps, rfl⟩ := Option.map_eq_some_iff.1 hquery
    exact Form.plainQuery_isQueryChar (hq ps hps)
  have hpairs : Form.pairs ((query.map Form.plainQuery).getD []) = query.getD [] := by
    cases query with
    | none => rfl
    | some ps => exact Form.pairs_plainQuery (hq ps rfl)
  rw [route_cons, List.cons_append] at hpath
  rw [Command.ofRequest, parse_stretch hstretch hchars hpath]
  show Command.ofRoute method
    (String.ofList ((Text.splitChars (· = '/') (s ++ route rest).toList).flatMap ('/' :: ·)))
    (Form.pairs ((query.map Form.plainQuery).getD [])) body = _
  rw [hpairs, Text.join_splitChars, ← route_cons, String.ofList_toList]

/-- The segments that the paths of all collections begin with. -/
def configurationRoute : List String := ["v1", "services", "haproxy", "configuration"]

/-- The segments of the place where transactions are opened. -/
def transactionsRoute : List String := ["v1", "services", "haproxy", "transactions"]

/-- Two routes make one. -/
theorem route_append (base segments : List String) :
    (route (base ++ segments)).toList = (route base).toList ++ (route segments).toList := by
  simp [route]

/-- What stands behind the configuration's path. -/
theorem after?_configuration (s : String) (rest : List String) :
    Text.after? s!"{configurationPath}/" (route (configurationRoute ++ s :: rest)) =
      some (s ++ route rest) := by
  have hbase : s!"{configurationPath}/".toList = (route configurationRoute).toList ++ ['/'] := rfl
  rw [Text.after?_eq_some_iff, ← String.toList_inj, route_append, route_cons]
  show _ = (s!"{configurationPath}/" ++ (s ++ route rest)).toList
  rw [String.toList_append (s := s!"{configurationPath}/"), hbase, List.append_assoc]
  rfl

/-- No path in the configuration is that of a transaction. -/
theorem after?_transactions (segments : List String) :
    Text.after? s!"{transactionsPath}/" (route (configurationRoute ++ segments)) = none := by
  rw [Text.after?, route_append]
  rfl

/-- No path below the configuration is that of the transactions. -/
theorem route_ne_transactionsPath (segments : List String) :
    route (configurationRoute ++ segments) ≠ transactionsPath := by
  intro h
  have h := congrArg (fun s : String => s.toList[21]?) h
  rw [route_append] at h
  exact absurd (show some 'c' = some 't' from h) (by decide)

/-- The path of the configuration is kept as it is by a URL. -/
theorem stretch_configurationRoute : ∀ s ∈ configurationRoute, Stretch s.toList := by
  have hplain : ∀ s ∈ configurationRoute, PlainSegment s.toList := by decide
  exact fun s hs => (hplain s hs).stretch

/-- So is that of the transactions. -/
theorem stretch_transactionsRoute : ∀ s ∈ transactionsRoute, Stretch s.toList := by
  have hplain : ∀ s ∈ transactionsRoute, PlainSegment s.toList := by decide
  exact fun s hs => (hplain s hs).stretch

/-! ## Requests for changes -/

/-- One more parameter at the end of a query. -/
theorem plainQuery_append {pairs : List (String × String)} {name value : String} :
    Form.plainQuery (pairs ++ [(name, value)]) =
      pairs.flatMap (fun p => Form.plainPair p.1 p.2 ++ ['&']) ++ Form.plainPair name value := by
  induction pairs with
  | nil => rfl
  | cons p rest ih =>
      obtain ⟨n, v⟩ := p
      rw [List.cons_append, Form.plainQuery, ih]
      · simp
      · simp

/-- How a write is read whose path lies in the configuration. -/
theorem ofRequest_write {method : Method} {collection : String} {names : List String}
    {pairs : List (String × String)} {id path : String} {body : Option Json}
    (hm : method ≠ .get) (hc : PlainSegment collection.toList)
    (hn : ∀ n ∈ names, Stretch n.toList) (hp : Form.PlainPairs pairs) (hid : Unreserved id)
    (hpath : path.toList = (route (configurationRoute ++ collection :: names)).toList ++
      '?' :: (pairs.flatMap (fun p => Form.plainPair p.1 p.2 ++ ['&']) ++
        Form.plainPair "transaction_id" id)) :
    Command.ofRequest ⟨method, path, body⟩ =
      (Command.change method (collection ++ route names)
        (Command.parent? (pairs ++ [("transaction_id", id)])) body).map (.stage id) := by
  have hplain : Form.PlainPairs (pairs ++ [("transaction_id", id)]) := by
    intro p hp'
    rcases List.mem_append.1 hp' with hp' | hp'
    · exact hp p hp'
    · rw [List.mem_singleton.1 hp']
      exact ⟨(by decide : Unreserved "transaction_id"), .of_unreserved hid⟩
  have hsegments : ∀ s ∈ configurationRoute ++ collection :: names, Stretch s.toList := by
    intro s hs
    rcases List.mem_append.1 hs with hs | hs
    · exact stretch_configurationRoute s hs
    · rcases List.mem_cons.1 hs with rfl | hs
      · exact hc.stretch
      · exact hn s hs
  have hid : Command.parameter? (pairs ++ [("transaction_id", id)]) "transaction_id" = some id := by
    rw [Command.parameter?, List.reverse_append]
    rfl
  rw [ofRequest_stretch (some (pairs ++ [("transaction_id", id)])) (by simp) hsegments
    (by rintro ps ⟨rfl⟩; exact hplain) (by rw [hpath, ← plainQuery_append]; rfl)]
  rw [Command.ofRoute, if_neg (by simp [route_ne_transactionsPath]), after?_transactions]
  dsimp only
  rw [if_neg hm, Command.ofWrite, after?_configuration]
  dsimp only [Option.getD_some]
  rw [hid]
  cases Command.change method (collection ++ route names)
    (Command.parent? (pairs ++ [("transaction_id", id)])) body <;> rfl

/-- A plain segment is cut off at the slash behind it. -/
theorem cut_plain {s : String} (hs : PlainSegment s.toList) (names : List String) :
    Text.cut (· = '/') (s ++ route names).toList =
      (s.toList, match names with
        | [] => none
        | n :: rest => some (n ++ route rest).toList) := by
  have hslash : ∀ c ∈ s.toList, decide (c = '/') = false := fun c hc =>
    decide_eq_false (ne_of_class (hs.unreserved c hc) (by decide))
  cases names with
  | nil =>
      rw [show s ++ route [] = s by simp [route]]
      exact Text.cut_of_forall_not hslash
  | cons n rest =>
      rw [String.toList_append, route_cons]
      exact Text.cut_append hslash (decide_eq_true rfl)

/-- A body that is posted is created under the name in it. -/
theorem change_post {collection name : String} (hc : PlainSegment collection.toList)
    {parent : Option String} {body : Json} (hname : Command.objectName? body = some name) :
    Command.change .post (collection ++ route []) parent (some body) =
      .ok (.create ⟨collection, parent, name⟩ body) := by
  rw [Command.change, cut_plain hc]
  dsimp only
  rw [hname, show collection ++ route [] = collection by simp [route]]

/-- A body that is put replaces what has the name in the path. -/
theorem change_put {collection name : String} (hc : PlainSegment collection.toList)
    {parent : Option String} {body : Json} :
    Command.change .put (collection ++ route [name]) parent (some body) =
      .ok (.replace ⟨collection, parent, name⟩ body) := by
  rw [Command.change, cut_plain hc]
  dsimp only
  rw [String.ofList_toList, String.ofList_toList, show name ++ route [] = name by simp [route]]

/-- A name in a path is that of what is deleted. -/
theorem change_delete {collection name : String} (hc : PlainSegment collection.toList)
    {parent : Option String} :
    Command.change .delete (collection ++ route [name]) parent none =
      .ok (.delete ⟨collection, parent, name⟩) := by
  rw [Command.change, cut_plain hc]
  dsimp only
  rw [String.ofList_toList, String.ofList_toList, show name ++ route [] = name by simp [route]]

/-- A part of a query that names what owns an object: the pairs it consists of,
    and the owner that is read from them. -/
structure Scope (query : String) (parent : Option String) where
  pairs : List (String × String)
  plain : Form.PlainPairs pairs
  text : query.toList = pairs.flatMap fun p => Form.plainPair p.1 p.2 ++ ['&']
  read : ∀ id, Command.parent? (pairs ++ [("transaction_id", id)]) = parent

/-- Frontends and backends are owned by nothing. -/
def Scope.top : Scope "" none := ⟨[], by simp [Form.PlainPairs], rfl, fun _ => rfl⟩

/-- A bind names its frontend. -/
def Scope.frontend {name : String} (h : Form.Literal name) :
    Scope s!"frontend={name}&" (some (Owner.frontend name).key.owner) where
  pairs := [("frontend", name)]
  plain := by simpa [Form.PlainPairs] using ⟨(by decide : Unreserved "frontend"), h⟩
  text := by
    show ("frontend=" ++ name ++ "&").toList = _
    simp [Form.plainPair]
  read id := by
    simp [Command.parent?, Command.parameter?, List.lookup_cons, List.lookup_nil, Owner.key]
    rfl

/-- A server names its backend. -/
def Scope.backend {name : String} (h : Form.Literal name) :
    Scope s!"backend={name}&" (some (Owner.backend name).key.owner) where
  pairs := [("backend", name)]
  plain := by simpa [Form.PlainPairs] using ⟨(by decide : Unreserved "backend"), h⟩
  text := by
    show ("backend=" ++ name ++ "&").toList = _
    simp [Form.plainPair]
  read id := by
    simp [Command.parent?, Command.parameter?, List.lookup_cons, List.lookup_nil, Owner.key]
    rfl

/-- The type of an owner, as a query gives it. -/
def Owner.type : Owner → String
  | .frontend _ => "frontend"
  | .backend _ => "backend"

/-- Other objects name their owner by its type and name. -/
def Scope.owner {owner : Owner} (h : Form.Literal owner.name) :
    Scope owner.query (some owner.key.owner) where
  pairs := [("parent_type", owner.type), ("parent_name", owner.name)]
  plain := by
    have htype : Unreserved owner.type := by
      cases owner
      · exact (by decide : Unreserved "frontend")
      · exact (by decide : Unreserved "backend")
    simpa [Form.PlainPairs] using
      ⟨⟨(by decide : Unreserved "parent_type"), Form.Literal.of_unreserved htype⟩,
        (by decide : Unreserved "parent_name"), h⟩
  text := by
    cases owner with
    | frontend name =>
        show ("parent_type=frontend&parent_name=" ++ name ++ "&").toList = _
        simp [Owner.type, Owner.name, Form.plainPair]
    | backend name =>
        show ("parent_type=backend&parent_name=" ++ name ++ "&").toList = _
        simp [Owner.type, Owner.name, Form.plainPair]
  read id := by
    have hread : Command.parent? [("parent_type", owner.type), ("parent_name", owner.name),
        ("transaction_id", id)] = some s!"{owner.type}s/{owner.name}" := by
      simp [Command.parent?, Command.parameter?, List.lookup_cons, List.lookup_nil]
    refine hread.trans (congrArg some ?_)
    cases owner with
    | frontend name =>
        show "frontend" ++ "s/" ++ name = "frontends" ++ "/" ++ name
        rw [show "frontend" ++ "s/" = "frontends" ++ "/" by decide]
    | backend name =>
        show "backend" ++ "s/" ++ name = "backends" ++ "/" ++ name
        rw [show "backend" ++ "s/" = "backends" ++ "/" by decide]

section

variable {id collection query name : String} {parent : Option String} {body : Json}

/-- **A creating request** stages the creation of its body, under the owner
    that its query names. -/
theorem ofRequest_post (hc : PlainSegment collection.toList) (scope : Scope query parent)
    (hid : Unreserved id) (hname : Command.objectName? body = some name) :
    Command.ofRequest (Operation.post id collection query body) =
      .ok (.stage id (.create ⟨collection, parent, name⟩ body)) := by
  have hpath : (s!"{configurationPath}/{collection}?{query}transaction_id={id}").toList =
      (route (configurationRoute ++ [collection])).toList ++
        '?' :: (scope.pairs.flatMap (fun p => Form.plainPair p.1 p.2 ++ ['&']) ++
          Form.plainPair "transaction_id" id) := by
    rw [← scope.text]
    simp [route, Form.plainPair]
    rfl
  refine (ofRequest_write (by decide) hc (by simp) scope.plain hid hpath).trans ?_
  rw [change_post hc hname, scope.read]
  rfl

/-- The path of a request that names an object, as segments and parameters. -/
theorem path_named (scope : Scope query parent) :
    (s!"{configurationPath}/{collection}/{name}?{query}transaction_id={id}").toList =
      (route (configurationRoute ++ [collection, name])).toList ++
        '?' :: (scope.pairs.flatMap (fun p => Form.plainPair p.1 p.2 ++ ['&']) ++
          Form.plainPair "transaction_id" id) := by
  rw [← scope.text]
  simp [route, Form.plainPair]
  rfl

/-- **A replacing request** stages the replacement of what it names. -/
theorem ofRequest_put (hc : PlainSegment collection.toList) (scope : Scope query parent)
    (hid : Unreserved id) (hn : Stretch name.toList) :
    Command.ofRequest (Operation.put id collection name query body) =
      .ok (.stage id (.replace ⟨collection, parent, name⟩ body)) := by
  refine (ofRequest_write (by decide) hc (by simpa using hn) scope.plain hid
    (path_named scope)).trans ?_
  rw [change_put hc, scope.read]
  rfl

/-- **A deleting request** stages the deletion of what it names. -/
theorem ofRequest_remove (hc : PlainSegment collection.toList) (scope : Scope query parent)
    (hid : Unreserved id) (hn : Stretch name.toList) :
    Command.ofRequest (Operation.remove id collection name query) =
      .ok (.stage id (.delete ⟨collection, parent, name⟩)) := by
  refine (ofRequest_write (by decide) hc (by simpa using hn) scope.plain hid
    (path_named scope)).trans ?_
  rw [change_delete hc, scope.read]
  rfl

end

/-- **The store reads the change that an operation means.** -/
theorem ofRequest_request {id : String} {op : Operation} (hid : Unreserved id) (h : op.Legible) :
    Command.ofRequest (op.request id) = .ok (.stage id op.change) := by
  cases op with
  | createFrontend f => exact ofRequest_post (by decide) .top hid (by simp)
  | createBind frontend b => exact ofRequest_post (by decide) (.frontend h) hid (by simp)
  | createBackend b => exact ofRequest_post (by decide) .top hid (by simp)
  | createServer backend s => exact ofRequest_post (by decide) (.backend h) hid (by simp)
  | replaceServer backend s => exact ofRequest_put (by decide) (.backend h.1) hid h.2
  | deleteServer backend name => exact ofRequest_remove (by decide) (.backend h.1) hid h.2
  | deleteFrontend name => exact ofRequest_remove (by decide) .top hid h
  | deleteBackend name => exact ofRequest_remove (by decide) .top hid h
  | createLogTarget owner t => exact ofRequest_post (by decide) (.owner h) hid (by simp)
  | createFilter owner f => exact ofRequest_post (by decide) (.owner h) hid (by simp)
  | createTcpRequestRule owner r => exact ofRequest_post (by decide) (.owner h) hid (by simp)

/-! ## Everything else that a client sends -/

/-- Digits stand for themselves in a URL. -/
theorem isUnreserved_of_isDigit {c : Char} (h : Decimal.isDigit c = true) :
    isUnreserved c = true := by
  simp only [Decimal.isDigit, Bool.and_eq_true, decide_eq_true_eq] at h
  have hc : c.isDigit = true := by
    simp only [Char.isDigit, Bool.and_eq_true, decide_eq_true_eq]
    exact h
  simp [isUnreserved, Char.isAlphanum, hc]

/-- So do numbers. -/
theorem unreserved_toString (n : Nat) : Unreserved (toString n) := by
  intro c hc
  rw [Decimal.toList_toString] at hc
  exact isUnreserved_of_isDigit (Decimal.isDigit_of_mem_digits c hc)

/-- The names of transactions stand for themselves. -/
theorem plain_transactionId (n : Nat) : PlainSegment (transactionId n).toList := by
  have htext : (transactionId n).toList =
      "74780000-0000-4000-8000-".toList ++ Identifier.serial n := by
    show ("74780000" ++ "-0000-4000-8000-" ++ String.ofList (Identifier.serial n)).toList = _
    rw [String.toList_append, String.toList_ofList]
    rfl
  rw [htext]
  refine PlainSegment.of_head (c := '7') rfl (by decide) (by decide) fun c hc => ?_
  rcases List.mem_append.1 hc with hc | hc
  · exact (by decide : Unreserved "74780000-0000-4000-8000-") c hc
  · rcases List.mem_append.1 hc with hc | hc
    · rw [List.eq_of_mem_replicate hc]
      decide
    · exact isUnreserved_of_isDigit (Decimal.isDigit_of_mem_digits c hc)

/-- Opening a transaction at a version. -/
theorem ofRequest_begin (v : UInt64) :
    Command.ofRequest ⟨.post, s!"{transactionsPath}?version={v}", none⟩ = .ok (.begin v) := by
  have hpath : (s!"{transactionsPath}?version={v}").toList = (route transactionsRoute).toList ++
      marked ((some [("version", toString v)]).map Form.plainQuery) := by
    simp [route, Form.plainQuery, Form.plainPair, marked]
    rfl
  have hplain : Form.PlainPairs [("version", toString v)] := by
    simpa [Form.PlainPairs] using
      ⟨(by decide : Unreserved "version"), Form.Literal.of_unreserved (unreserved_toString v.toNat)⟩
  have hquery ps (hps : some [("version", s!"{v}")] = some ps) : Form.PlainPairs ps :=
    Option.some.inj hps ▸ hplain
  rw [ofRequest_stretch (some _) (by decide) stretch_transactionsRoute hquery hpath, Command.ofRoute,
    if_pos (by decide), Command.ofOpening]
  have hread : (Command.parameter? ((some [("version", s!"{v}")]).getD []) "version").bind
      (fun v => Decimal.natural? Decimal.max64 v.toList) =
      Decimal.natural? Decimal.max64 (toString v).toList := rfl
  rw [hread, Decimal.natural?_toString]
  simp

/-- How a request for a transaction is read. -/
theorem ofRequest_transaction {method : Method} {id : String} (hid : PlainSegment id.toList) :
    Command.ofRequest ⟨method, Client.transactionPath id, none⟩ =
      Command.ofTransaction method id := by
  have hpath : (Client.transactionPath id).toList =
      (route (transactionsRoute ++ [id])).toList ++ marked none := by
    show (s!"{transactionsPath}/{id}").toList = _
    simp [route, marked]
    rfl
  have hsegments : ∀ s ∈ transactionsRoute ++ [id], Stretch s.toList := by
    intro s hs
    rcases List.mem_append.1 hs with hs | hs
    · exact stretch_transactionsRoute s hs
    · rw [List.mem_singleton.1 hs]
      exact hid.stretch
  have hroute : route (transactionsRoute ++ [id]) = s!"{transactionsPath}/" ++ id := by
    rw [← String.toList_inj, route_append, String.toList_append]
    simp [route]
    rfl
  have hne : route (transactionsRoute ++ [id]) ≠ transactionsPath := by
    intro h
    have h := congrArg (fun s : String => s.toList[33]?) h
    rw [route_append, route_cons] at h
    exact absurd (show some '/' = none from h) (by decide)
  rw [ofRequest_stretch none (by simp) hsegments (by simp) hpath, Command.ofRoute,
    if_neg (by simp [hne]), hroute, Text.after?_append]

/-- A request to commit is read as one. -/
theorem ofRequest_commit {id : String} (hid : PlainSegment id.toList) :
    Command.ofRequest ⟨.put, Client.transactionPath id, none⟩ = .ok (.commit id) :=
  ofRequest_transaction hid

/-- A request to abort is read as one. -/
theorem ofRequest_abort {id : String} (hid : PlainSegment id.toList) :
    Command.ofRequest ⟨.delete, Client.transactionPath id, none⟩ = .ok (.abort id) :=
  ofRequest_transaction hid

/-- Listing a collection. -/
theorem ofRequest_list {kind : String} (hkind : PlainSegment kind.toList) :
    Command.ofRequest ⟨.get, s!"{configurationPath}/{kind}", none⟩ = .ok (.list kind) := by
  have hpath : (s!"{configurationPath}/{kind}").toList =
      (route (configurationRoute ++ [kind])).toList ++ marked none := by
    simp [route, marked]
    rfl
  have hsegments : ∀ s ∈ configurationRoute ++ [kind], Stretch s.toList := by
    intro s hs
    rcases List.mem_append.1 hs with hs | hs
    · exact stretch_configurationRoute s hs
    · rw [List.mem_singleton.1 hs]
      exact hkind.stretch
  have hspecification : route (configurationRoute ++ [kind]) ≠ specificationPath := by
    intro h
    have h := congrArg (fun s : String => s.toList[5]?) h
    rw [route_append] at h
    exact absurd (show some 'e' = some 'p' from h) (by decide)
  have hinfo : route (configurationRoute ++ [kind]) ≠ infoPath := by
    intro h
    have h := congrArg (fun s : String => s.toList[4]?) h
    rw [route_append] at h
    exact absurd (show some 's' = some 'i' from h) (by decide)
  rw [ofRequest_stretch none (by simp) hsegments (by simp) hpath, Command.ofRoute,
    if_neg (by simp), after?_transactions]
  dsimp only
  rw [if_pos rfl, Command.ofRead, if_neg hspecification, if_neg hinfo, after?_configuration]
  simp [route]

/-- The version is read off the listing of the frontends. -/
theorem ofRequest_frontends :
    Command.ofRequest ⟨.get, s!"{configurationPath}/frontends", none⟩ =
      .ok (.list "frontends") := by
  have hpath : s!"{configurationPath}/frontends" = s!"{configurationPath}/" ++ "frontends" := by
    decide
  rw [hpath]
  exact ofRequest_list (by decide)

end MeshSync.Dataplane
