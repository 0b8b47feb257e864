import MeshSync.Json.Basic

/-! # Requests -/

namespace MeshSync.Dataplane

/-- The method of a request. -/
inductive Method where
  | get
  | post
  | put
  | delete
  | other (name : String)
  deriving DecidableEq, Inhabited

namespace Method

/-- The method with a name. -/
def ofText (s : String) : Method :=
  if s = "GET" then get
  else if s = "POST" then post
  else if s = "PUT" then put
  else if s = "DELETE" then delete
  else other s

/-- The name of a method. -/
def text : Method → String
  | get => "GET"
  | post => "POST"
  | put => "PUT"
  | delete => "DELETE"
  | other name => name

end Method

/-- A request to the proxy's interface. -/
structure Request where
  method : Method
  /-- The path with its query. -/
  path : String
  body : Option Json
  deriving Inhabited

/-- Where transactions are opened. -/
def transactionsPath : String := "/v1/services/haproxy/transactions"

/-- What the paths of all collections of objects begin with. -/
def configurationPath : String := "/v1/services/haproxy/configuration"

/-- Where the interface describes itself. -/
def specificationPath : String := "/v1/specification"

/-- Where the interface tells about the process. -/
def infoPath : String := "/v1/info"

end MeshSync.Dataplane
