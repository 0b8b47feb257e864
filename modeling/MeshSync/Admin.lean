import MeshSync.Bytes
import MeshSync.Http.Message
import MeshSync.Http.Target
import MeshSync.Json.Printer
import MeshSync.Reconcile.Status
import MeshSync.Text.Search

/-! # Admin interface

    Two resources: `/health` says whether a snapshot has been committed and is
    open to everybody, `/status` tells what was and asks for a bearer token
    when one is configured.  The token is asked for before the method is
    looked at. -/

namespace MeshSync.Admin

/-- A request; names of headers are compared without regard to case. -/
structure Request where
  method : String
  target : Http.Target
  headers : List (String × Bytes)

/-- Why something is no request. -/
inductive Fault where
  | method
  | target (fault : Http.TargetFault)
  | headerName
  | headerValue
  deriving DecidableEq

/-- The words for a fault. -/
def Fault.message : Fault → String
  | method => "invalid HTTP method"
  | target fault => fault.message
  | headerName => "invalid HTTP header name"
  | headerValue => "failed to parse header value"

/-- The request of a method, a target and headers, if they make one. -/
def Request.make (method target : String) (headers : List (String × Bytes)) :
    Except Fault Request := do
  if !Http.isToken method then .error .method
  let target ← (Http.Target.parse target).mapError .target
  for (name, value) in headers do
    if !Http.isToken name then .error .headerName
    if !value.all Http.isSendable then .error .headerValue
  return ⟨method, target, headers⟩

/-- A response. -/
structure Response where
  status : Nat
  contentType : Option String
  allow : Option String
  body : String
  deriving DecidableEq

/-- The version that is reported. -/
def version : String := "0.1.0"

/-- A response without a body. -/
def Response.bare (status : Nat) : Response := ⟨status, none, none, ""⟩

/-- A response with a JSON body. -/
def Response.ofJson (status : Nat) (body : Json) : Response :=
  ⟨status, some "application/json", none, body.text⟩

/-- The methods that a resource answers. -/
def methods : String := "GET,HEAD"

/-- The answer to a method on a resource whose content is `response`. -/
def Response.forMethod (method : String) (response : Response) : Response :=
  if method = "GET" then response
  else if method = "HEAD" then { response with body := "" }
  else ⟨405, none, some methods, ""⟩

/-- The content of `/health`. -/
def health (status : Reconcile.Status) : Response :=
  let (code, word) := if status.ready then (200, "ready") else (503, "starting")
  .ofJson code (.ofFields [("version", .string version), ("status", .string word)])

/-- Whether a byte may stand in a header that is read as a text. -/
def isVisible (b : UInt8) : Bool := b = 9 || (32 ≤ b && b < 127)

/-- The first value of a header, if it can be read as a text. -/
def header? (r : Request) (name : String) : Option String :=
  match r.headers.find? fun h => Text.lower h.1 = Text.lower name with
  | none => none
  | some (_, value) => if value.all isVisible then Bytes.text? value else none

/-- Whether a request may see the status. -/
def authorized (apiKey : Option String) (r : Request) : Bool :=
  match apiKey with
  | none => true
  | some key =>
    match header? r "authorization" with
    | none => false
    | some value => Text.after? "Bearer " value = some key

/-- The answer to a request. -/
def respond (apiKey : Option String) (status : Reconcile.Status) (r : Request) : Response :=
  let path := r.target.pathText
  if path = "/health" then .forMethod r.method (health status)
  else if path = "/status" then
    if authorized apiKey r then .forMethod r.method (.ofJson 200 status.json)
    else if r.method = "GET" || r.method = "HEAD" then .bare 401
    else { Response.bare 401 with allow := some methods }
  else .bare 404

end MeshSync.Admin
