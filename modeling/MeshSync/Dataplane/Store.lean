import MeshSync.Dataplane.Error
import MeshSync.Dataplane.Object
import MeshSync.Dataplane.Request
import MeshSync.Identifier
import MeshSync.Json.Source
import MeshSync.Url.Parser

/-! # Configuration store

    A store answers requests.  A transaction is opened at the current version,
    changes are staged in it, and committing it makes all of them or none: it
    is refused if the version has moved or a change does not apply, and is
    gone in any case.

    What a request asks for is read from it first, as a `Command`, without
    looking at the store; then the command is performed. -/

namespace MeshSync.Dataplane

/-! ## Refusals -/

/-- Why a request is refused. -/
inductive Refusal where
  | badPath (cause : Url.Error)
  | noVersion
  | noTransaction (id : String)
  | noMethod
  | noResource
  | notStaged
  | noBody
  | noName
  /-- A transaction asked for at another version than the current one. -/
  | mismatch (current : UInt64)
  /-- A commit of a transaction that was opened at another version. -/
  | stale (opened current : UInt64)
  | conflict (cause : Conflict)
  /-- A failure that was asked for. -/
  | injected
  deriving DecidableEq

namespace Refusal

/-- The status code of a refusal. -/
def code : Refusal → Nat
  | badPath _ => 400
  | noVersion => 400
  | noTransaction _ => 404
  | noMethod => 405
  | noResource => 404
  | notStaged => 400
  | noBody => 400
  | noName => 400
  | mismatch _ => 409
  | stale _ _ => 409
  | conflict (.present _) => 409
  | conflict (.absent _) => 404
  | injected => 500

/-- The wording of a refusal. -/
def message : Refusal → String
  | badPath cause => s!"bad path: {cause.message}"
  | noVersion => "missing version"
  | noTransaction id => s!"transaction {id} not found"
  | noMethod => "method not allowed"
  | noResource => "not found"
  | notStaged => "only transactional writes are supported"
  | noBody => "missing body"
  | noName => "object has no name or id"
  | mismatch current => s!"version mismatch: store at {current}"
  | stale opened current => s!"transaction opened at version {opened}, store at {current}"
  | conflict (.present key) => s!"{key.kind} {key.name} already exists"
  | conflict (.absent key) => s!"{key.kind} {key.name} not found"
  | injected => "injected failure"

/-- The error that a refused request gives. -/
def error (refusal : Refusal) (r : Request) : Error :=
  .status r.method.text r.path refusal.code refusal.message

end Refusal

/-! ## Commands -/

/-- What a request asks for. -/
inductive Command where
  /-- Open a transaction at a version. -/
  | begin (version : UInt64)
  | commit (id : String)
  | abort (id : String)
  /-- The description of the interface. -/
  | specification
  | info
  /-- The objects of a collection. -/
  | list (kind : String)
  /-- Add a change to a transaction. -/
  | stage (id : String) (change : Change)

namespace Command

/-- The value of a parameter; of a repeated one the last counts. -/
def parameter? (query : List (String × String)) (name : String) : Option String :=
  query.reverse.lookup name

/-- The owner that a query names. -/
def parent? (query : List (String × String)) : Option String :=
  match parameter? query "frontend", parameter? query "backend" with
  | some name, _ => some s!"frontends/{name}"
  | none, some name => some s!"backends/{name}"
  | none, none =>
    match parameter? query "parent_type", parameter? query "parent_name" with
    | some type, some name => some s!"{type}s/{name}"
    | _, _ => none

/-- The name of an object: its name, or else its number. -/
def objectName? (body : Json) : Option String :=
  match body.field? "name", body.field? "id" with
  | some (.string name), _ => some name
  | _, some (.number id) => some id.text
  | _, _ => none

/-- The change that a write asks for; `rest` is its path behind that of the
    configuration. -/
def change (method : Method) (rest : String) (parent : Option String) (body : Option Json) :
    Except Refusal Change :=
  let (kind, name) := Text.cut (· = '/') rest.toList
  match method, name with
  | .post, none =>
    match body with
    | none => .error .noBody
    | some value =>
      match objectName? value with
      | none => .error .noName
      | some name => .ok (.create ⟨rest, parent, name⟩ value)
  | .put, some name =>
    match body with
    | none => .error .noBody
    | some value => .ok (.replace ⟨String.ofList kind, parent, String.ofList name⟩ value)
  | .delete, some name => .ok (.delete ⟨String.ofList kind, parent, String.ofList name⟩)
  | _, _ => .error .noMethod

/-- What a read asks for. -/
def ofRead (route : String) : Except Refusal Command :=
  if route = specificationPath then .ok .specification
  else if route = infoPath then .ok .info
  else
    match Text.after? s!"{configurationPath}/" route with
    | some kind => .ok (.list kind)
    | none => .error .noResource

/-- What a write asks for. -/
def ofWrite (method : Method) (route : String) (query : List (String × String))
    (body : Option Json) : Except Refusal Command := do
  match Text.after? s!"{configurationPath}/" route with
  | none => throw .noResource
  | some rest =>
    match parameter? query "transaction_id" with
    | none => throw .notStaged
    | some id => return .stage id (← change method rest (parent? query) body)

/-- What a request for a transaction asks for. -/
def ofTransaction (method : Method) (id : String) : Except Refusal Command :=
  match method with
  | .put => .ok (.commit id)
  | .delete => .ok (.abort id)
  | _ => .error .noMethod

/-- What a request to open a transaction asks for. -/
def ofOpening (query : List (String × String)) : Except Refusal Command :=
  match (parameter? query "version").bind fun v => Decimal.natural? Decimal.max64 v.toList with
  | some version => .ok (.begin (UInt64.ofNat version))
  | none => .error .noVersion

/-- What a method asks for at a path with a query. -/
def ofRoute (method : Method) (route : String) (query : List (String × String))
    (body : Option Json) : Except Refusal Command :=
  if route = transactionsPath && method = .post then ofOpening query
  else
    match Text.after? s!"{transactionsPath}/" route with
    | some id => ofTransaction method id
    | none => if method = .get then ofRead route else ofWrite method route query body

/-- What a request asks for. -/
def ofRequest (r : Request) : Except Refusal Command :=
  match Url.parse s!"memory://store{r.path}" with
  | .error e => .error (.badPath e)
  | .ok url => ofRoute r.method url.pathText url.queryPairs r.body

end Command

/-! ## Performing commands -/

/-- An open transaction. -/
structure Transaction where
  /-- The version it was opened at. -/
  version : UInt64
  /-- The staged changes, in their order. -/
  changes : List Change

/-- The name of the `n`-th transaction. -/
def transactionId (n : Nat) : String := Identifier.text "74780000" n

/-- A configuration with the transactions that are open on it. -/
structure Store where
  version : UInt64
  objects : Objects
  transactions : SortedMap String Transaction
  /-- How many transactions have been opened. -/
  opened : Nat

namespace Store

/-- A store without objects. -/
def new (version : UInt64) : Store := ⟨version, ∅, ∅, 0⟩

/-- Another writer changes the configuration. -/
def bump (s : Store) : Store := { s with version := s.version + 1 }

/-- The objects of a collection, in order. -/
def objectsOf (s : Store) (kind : String) : List (ObjectKey × Json) :=
  s.objects.entries.filter (·.1.kind = kind)

/-- Open a transaction at a version. -/
def begin (s : Store) (version : UInt64) : Store × Except Refusal Json :=
  if version ≠ s.version then (s, .error (.mismatch s.version))
  else
    let id := transactionId (s.opened + 1)
    ({ s with transactions := s.transactions.insert id ⟨version, []⟩, opened := s.opened + 1 },
      .ok (.ofFields [("id", .string id), ("_version", .ofNat version.toNat),
        ("status", .string "in_progress")]))

/-- Close a transaction and make its changes, if they can be made. -/
def commit (s : Store) (id : String) : Store × Except Refusal Json :=
  match s.transactions.get? id with
  | none => (s, .error (.noTransaction id))
  | some t =>
    let closed := { s with transactions := s.transactions.erase id }
    if t.version ≠ s.version then (closed, .error (.stale t.version s.version))
    else
      match s.objects.applyAll t.changes with
      | .error e => (closed, .error (.conflict e))
      | .ok objects =>
        let version := s.version + 1
        ({ closed with objects := objects, version := version },
          .ok (.ofFields [("id", .string id), ("status", .string "success"),
            ("_version", .ofNat version.toNat)]))

/-- Close a transaction without making its changes. -/
def abort (s : Store) (id : String) : Store × Except Refusal Json :=
  match s.transactions.get? id with
  | none => (s, .error (.noTransaction id))
  | some _ => ({ s with transactions := s.transactions.erase id }, .ok .null)

/-- Add a change to a transaction. -/
def stage (s : Store) (id : String) (change : Change) : Store × Except Refusal Json :=
  match s.transactions.get? id with
  | none => (s, .error (.noTransaction id))
  | some t =>
    ({ s with transactions := s.transactions.insert id { t with changes := t.changes ++ [change] } },
      .ok .null)

/-- The listing of a collection. -/
def listing (s : Store) (kind : String) : Json :=
  .ofFields [("_version", .ofNat s.version.toNat), ("data", .array ((s.objectsOf kind).map (·.2)))]

/-- The store after a command, and its answer. -/
def perform (s : Store) : Command → Store × Except Refusal Json
  | .begin version => s.begin version
  | .commit id => s.commit id
  | .abort id => s.abort id
  | .specification => (s, .ok (.object []))
  | .info => (s, .ok (.ofFields [("api", .ofFields [("version", .string "memory")])]))
  | .list kind => (s, .ok (s.listing kind))
  | .stage id change => s.stage id change

/-- The store after a request, and its answer. -/
def handle (s : Store) (r : Request) : Store × Except Refusal Json :=
  match Command.ofRequest r with
  | .error e => (s, .error e)
  | .ok c => s.perform c

end Store

end MeshSync.Dataplane
