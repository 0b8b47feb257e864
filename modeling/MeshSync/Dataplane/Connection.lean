import MeshSync.Base64
import MeshSync.Dataplane.Error
import MeshSync.Dataplane.Request
import MeshSync.Http.Message
import MeshSync.Json.Parser
import MeshSync.Url.Parser

/-! # A connection to the proxy's interface

    Requests travel over HTTP with a name and a password.  The path of a
    request is put behind the address as text, and a reply without a body
    means null. -/

namespace MeshSync.Dataplane

/-- Where the interface is and who asks. -/
structure Connection where
  /-- The address without slashes at its end. -/
  address : String
  username : String
  password : String
  deriving DecidableEq, Inhabited

namespace Connection

/-- A connection to an address. -/
def ofAddress (address username password : String) : Connection :=
  ⟨String.ofList (address.toList.reverse.dropWhile (· = '/')).reverse, username, password⟩

/-- The header that says who asks. -/
def authorization (c : Connection) : String :=
  "Basic " ++ String.ofList (Base64.encode (Bytes.ofText s!"{c.username}:{c.password}"))

/-- A request as it travels, if its path makes a URL. -/
def request? (c : Connection) (r : Request) : Option Http.Request :=
  match Url.parse (c.address ++ r.path) with
  | .error _ => none
  | .ok url => some
    { method := r.method.text
      url := url
      headers := ("authorization", c.authorization) ::
        if r.body.isSome then [("content-type", "application/json")] else []
      body := r.body }

end Connection

/-- What a reply to a request means. -/
def Request.interpret (r : Request) (reply : Http.Reply) : Except Error Json :=
  if 400 ≤ reply.status then
    .error (.status r.method.text r.path reply.status (Bytes.lossyText reply.body))
  else if reply.body.isEmpty then .ok .null
  else
    match (Bytes.text? reply.body).bind Json.parse? with
    | some value => .ok value
    | none => .error (.decode (.badBody r.method.text r.path))

/-- Send a request over a connection. -/
def Connection.send (exchange : Http.Exchange) (c : Connection) (r : Request) : Except Error Json :=
  match (c.request? r).bind exchange.send with
  | some reply => r.interpret reply
  | none => .error .http

end MeshSync.Dataplane
