import MeshSync.Json.Record
import MeshSync.Text.Search

/-! # Errors of the proxy's interface

    Why a request for a change of the proxy's configuration failed, and which
    of these failures say that somebody else changed it in the meantime. -/

namespace MeshSync.Dataplane

/-- Why a reply cannot be used. -/
inductive Malformed where
  /-- A listing without the version it was taken at. -/
  | noVersion
  /-- A listing of this collection without its objects. -/
  | noData (collection : String)
  /-- A reply that describes no transaction. -/
  | noTransaction (cause : DecodeError)
  /-- A body that is not JSON. -/
  | badBody (method path : String)
  /-- A cause reported in words. -/
  | reported (text : String)

/-- The wording of a cause. -/
def Malformed.message : Malformed → String
  | .noVersion => "frontend listing carries no _version"
  | .noData collection => s!"{collection} listing carries no data"
  | .noTransaction cause => cause.message
  | .badBody method path => s!"error calling {method} {path}"
  | .reported text => text

/-- Why a request failed. -/
inductive Error where
  /-- No reply came. -/
  | http
  /-- The interface refused the request. -/
  | status (method path : String) (code : Nat) (body : String)
  /-- The reply cannot be used. -/
  | decode (cause : Malformed)
  /-- The tracked version moved since the transaction was opened. -/
  | versionConflict (expected actual : UInt64)

namespace Error

/-- The wording of an error. -/
def message : Error → String
  | .http => "HTTP error"
  | .status method path code body =>
    s!"error calling {method} {path}: response was {code}: \"{body}\""
  | .decode cause => s!"decode error: {cause.message}"
  | .versionConflict expected actual =>
    s!"version conflict: transaction opened at {expected}, client now at {actual}"

/-- Whether the request was refused for a stale version.  A conflict is also
    reported for objects that exist already, so of those only the ones whose
    body speaks of the version count. -/
def isVersionConflict : Error → Bool
  | .versionConflict _ _ => true
  | .status _ _ code body => code = 409 && Text.contains (Text.lower body) "version"
  | .http => false
  | .decode _ => false

end Error

end MeshSync.Dataplane
