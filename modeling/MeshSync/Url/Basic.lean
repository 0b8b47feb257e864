import MeshSync.Url.Form
import MeshSync.Url.Host

/-! # URLs

    A URL in its parts.  A path is either a list of segments, each written
    behind a slash, or a bare text without hierarchy.  Dot segments are gone
    from a list of segments: `Path.settle` carries them out. -/

namespace MeshSync

namespace Url

/-- How a scheme treats the rest of its URLs. -/
inductive Family where
  /-- A host is required and back slashes count as slashes. -/
  | web
  /-- Paths of files. -/
  | file
  /-- Anything else. -/
  | other
  deriving DecidableEq, Inhabited

/-- The schemes of the web with the ports they imply. -/
def webPorts : List (String × UInt16) :=
  [("http", 80), ("https", 443), ("ws", 80), ("wss", 443), ("ftp", 21)]

/-- The family of a scheme. -/
def Family.ofScheme (scheme : String) : Family :=
  if (webPorts.lookup scheme).isSome then .web else if scheme = "file" then .file else .other

/-- Whether a character separates segments. -/
def Family.isSlash (f : Family) (c : Char) : Bool := c = '/' || (c = '\\' && f ≠ .other)

/-- Who is addressed, and where. -/
structure Authority where
  username : List Char
  password : Option (List Char)
  /-- The host, unless it is empty. -/
  host : Option Host
  /-- The port, unless it is the one that the scheme implies. -/
  port : Option UInt16
  deriving DecidableEq, Inhabited

/-! ## Paths -/

/-- A path. -/
inductive Path where
  | bare (text : List Char)
  | segments (parts : List (List Char))
  deriving DecidableEq, Inhabited

namespace Path

/-- Whether a segment stands for the place it is in. -/
def isHere (s : List Char) : Bool := [".", "%2e", "%2E"].contains (String.ofList s)

/-- Whether a segment stands for the place above. -/
def isAbove (s : List Char) : Bool :=
  ["..", "%2e%2e", "%2e%2E", "%2E%2e", "%2E%2E", "%2e.", "%2E.", ".%2e", ".%2E"].contains
    (String.ofList s)

/-- Whether a segment names a drive, which is never left. -/
def isDrive : List Char → Bool
  | [letter, mark] => letter.isAlpha && (mark = ':' || mark = '|')
  | _ => false

/-- Go up from a place, whose last segment comes first. -/
def climb : List (List Char) → List (List Char)
  | [] => []
  | last :: rest => if isDrive last then last :: rest else rest

/-- Carry out dot segments from a place on, whose last segment comes first; one
    at the end leaves an empty segment. -/
def settleFrom : List (List Char) → List (List Char) → List (List Char)
  | place, [] => place.reverse
  | place, [last] =>
    if isAbove last then ([] :: climb place).reverse
    else if isHere last then ([] :: place).reverse
    else (last :: place).reverse
  | place, s :: rest =>
    if isAbove s then settleFrom (climb place) rest
    else if isHere s then settleFrom place rest
    else settleFrom (s :: place) rest

/-- Segments with their dot segments carried out. -/
def settle (segments : List (List Char)) : List (List Char) := settleFrom [] segments

/-- The path of a text behind its first slash. -/
def ofText (f : Family) (cs : List Char) : Path :=
  .segments (settle ((Text.splitChars f.isSlash cs).map (Url.encode EncodeSet.path)))

/-- The text of a path. -/
def text : Path → List Char
  | bare text => text
  | segments parts => parts.flatMap ('/' :: ·)

end Path

end Url

/-- A URL. -/
structure Url where
  scheme : String
  authority : Option Url.Authority
  path : Url.Path
  query : Option (List Char)
  fragment : Option (List Char)
  deriving DecidableEq, Inhabited

namespace Url

/-- The family of a URL. -/
def family (u : Url) : Family := .ofScheme u.scheme

/-- What a query of a family encodes. -/
def Family.querySet (f : Family) : EncodeSet :=
  if f = .other then EncodeSet.query else EncodeSet.specialQuery

/-- The text of the path. -/
def pathText (u : Url) : String := String.ofList u.path.text

/-- The pairs of the query. -/
def queryPairs (u : Url) : List (String × String) := Form.pairs (u.query.getD [])

/-- The URL with these pairs behind its query, which it has from then on. -/
def withPairs (u : Url) (pairs : List (String × String)) : Url :=
  { u with query := some (pairs.foldl (fun q (k, v) => Form.append q k v) (u.query.getD [])) }

/-- What a request for the URL asks for: path and query. -/
def target (u : Url) : String :=
  String.ofList (u.path.text ++ match u.query with
    | none => []
    | some q => '?' :: q)

end Url

end MeshSync
