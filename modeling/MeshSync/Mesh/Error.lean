import MeshSync.Url.Error

/-! # Errors of the control plane -/

namespace MeshSync.Mesh

/-- Why a reply or a request cannot be used. -/
inductive Malformed where
  | badAddress (address : String) (cause : Url.Error)
  | badPath (path : String) (cause : Url.Error)
  | badHeader (path header : String)
  | noHeader (path header : String)
  | badBody (path : String)
  | severalSidecars (serviceId : String)
  deriving DecidableEq

/-- The wording of a cause. -/
def Malformed.message : Malformed → String
  | .badAddress address cause => s!"invalid consul address '{address}': {cause.message}"
  | .badPath path cause => s!"invalid path '{path}': {cause.message}"
  | .badHeader path header => s!"{path}: bad {header} header"
  | .noHeader path header => s!"{path}: missing {header} header"
  | .badBody path => s!"{path}: error decoding response body"
  | .severalSidecars id => s!"more than one sidecar proxy registered for service {id}"

/-- Why a query failed. -/
inductive Error where
  /-- No reply came. -/
  | http
  /-- The control plane refused the query. -/
  | status (path : String) (code : Nat) (body : String)
  /-- The reply cannot be used. -/
  | decode (cause : Malformed)
  /-- There is no such thing. -/
  | notFound (what : String)
  deriving DecidableEq

/-- The wording of an error. -/
def Error.message : Error → String
  | .http => "HTTP error"
  | .status path code body => s!"control plane returned {code} for {path}: {body}"
  | .decode cause => s!"decode error: {cause.message}"
  | .notFound what => s!"not found: {what}"

end MeshSync.Mesh
