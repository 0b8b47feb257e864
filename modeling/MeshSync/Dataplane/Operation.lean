import MeshSync.Dataplane.Model
import MeshSync.Dataplane.Request

/-! # Operations

    The changes that a client can stage in a transaction, and the request by
    which each is staged: an object is created in its collection, or replaced
    or deleted under its name there; the query names its owner and the
    transaction. -/

namespace MeshSync.Dataplane

/-- An object that log targets, filters and rules belong to. -/
inductive Owner where
  | frontend (name : String)
  | backend (name : String)
  deriving DecidableEq, Inhabited

/-- The parameters that name an owner. -/
def Owner.query : Owner → String
  | .frontend name => s!"parent_type=frontend&parent_name={name}&"
  | .backend name => s!"parent_type=backend&parent_name={name}&"

/-- A change that a client can stage. -/
inductive Operation where
  | createFrontend (frontend : Frontend)
  | createBind (frontend : String) (bind : Bind)
  | createBackend (backend : Backend)
  | createServer (backend : String) (server : Server)
  | replaceServer (backend : String) (server : Server)
  | deleteServer (backend : String) (name : String)
  | deleteFrontend (name : String)
  | deleteBackend (name : String)
  | createLogTarget (owner : Owner) (target : LogTarget)
  | createFilter (owner : Owner) (filter : Filter)
  | createTcpRequestRule (owner : Owner) (rule : TcpRequestRule)
  deriving DecidableEq

namespace Operation

/-- The request that creates an object in a collection. -/
def post (id collection query : String) (body : Json) : Request :=
  ⟨.post, s!"{configurationPath}/{collection}?{query}transaction_id={id}", some body⟩

/-- The request that replaces the object with a name in a collection. -/
def put (id collection name query : String) (body : Json) : Request :=
  ⟨.put, s!"{configurationPath}/{collection}/{name}?{query}transaction_id={id}", some body⟩

/-- The request that deletes the object with a name from a collection. -/
def remove (id collection name query : String) : Request :=
  ⟨.delete, s!"{configurationPath}/{collection}/{name}?{query}transaction_id={id}", none⟩

/-- The request that stages an operation in the transaction with an id. -/
def request (id : String) : Operation → Request
  | createFrontend f => post id "frontends" "" f.json
  | createBind frontend b => post id "binds" s!"frontend={frontend}&" b.json
  | createBackend b => post id "backends" "" b.json
  | createServer backend s => post id "servers" s!"backend={backend}&" s.json
  | replaceServer backend s => put id "servers" s.name s!"backend={backend}&" s.json
  | deleteServer backend name => remove id "servers" name s!"backend={backend}&"
  | deleteFrontend name => remove id "frontends" name ""
  | deleteBackend name => remove id "backends" name ""
  | createLogTarget owner t => post id "log_targets" owner.query t.json
  | createFilter owner f => post id "filters" owner.query f.json
  | createTcpRequestRule owner r => post id "tcp_request_rules" owner.query r.json

end Operation

end MeshSync.Dataplane
