import MeshSync.Text.Search

/-! # Targets of requests

    What a request is about: a path, a path at a host with a scheme, a host
    alone, or the server as a whole. -/

namespace MeshSync.Http

/-- Why a text is no target. -/
inductive TargetFault where
  | empty
  | tooLong
  | schemeTooLong
  /-- A character that may not stand where it does. -/
  | character
  /-- Something is wrong with the name of the host and what belongs to it. -/
  | authority
  /-- The parts do not make a target. -/
  | format
  deriving DecidableEq, Inhabited

/-- The words for a fault. -/
def TargetFault.message : TargetFault → String
  | empty => "empty string"
  | tooLong => "uri too long"
  | schemeTooLong => "scheme too long"
  | character => "invalid uri character"
  | authority => "invalid authority"
  | format => "invalid format"

/-- A target. -/
inductive Target where
  /-- A path with its query. -/
  | path (path : List Char)
  /-- A path at a host. -/
  | absolute (scheme authority path : List Char)
  | authority (authority : List Char)
  | asterisk
  deriving DecidableEq, Inhabited

namespace Target

/-! ## Paths -/

/-- Whether a character may stand in a path. -/
def isPathChar (c : Char) : Bool := '!' ≤ c && !"#<>?\x60".toList.contains c

/-- Whether a character may stand in a query. -/
def isQueryChar (c : Char) : Bool := '!' ≤ c && !"\"#<>".toList.contains c

/-- A path and its query, without what follows them behind a hash sign. -/
def checkedPath (cs : List Char) : Except TargetFault (List Char) :=
  let whole := cs.takeWhile (· ≠ '#')
  let (front, query) := Text.cut (· = '?') whole
  if front.all isPathChar && (query.getD []).all isQueryChar then .ok whole else .error .character

/-! ## Authorities -/

/-- Whether a character ends an authority. -/
def isEnd (c : Char) : Bool := c = '/' || c = '?' || c = '#'

/-- Whether a character may stand in an authority. -/
def isAuthorityChar (c : Char) : Bool :=
  c.isAlphanum || "!$&'()*+,-.:;=@[]_~%".toList.contains c

/-- The most colons of an authority. -/
def maxColons : Nat := 8

/-- What was seen of an authority. -/
structure Seen where
  colons : Nat
  opened : Bool
  closed : Bool
  /-- Whether there is a percent sign behind the name of a user. -/
  percent : Bool
  deriving Inhabited

/-- See another character of an authority.  Behind the name of a user, and
    behind an address in brackets, colons count anew. -/
def Seen.next (s : Seen) (c : Char) : Except TargetFault Seen :=
  if !isAuthorityChar c then .error .character
  else if c = ':' then
    if maxColons ≤ s.colons then .error .authority else .ok { s with colons := s.colons + 1 }
  else if c = '[' then
    if s.percent || s.opened then .error .authority else .ok { s with opened := true }
  else if c = ']' then
    if !s.opened || s.closed then .error .authority
    else .ok { s with closed := true, colons := 0, percent := false }
  else if c = '@' then .ok { s with colons := 0, percent := false }
  else if c = '%' then .ok { s with percent := true }
  else .ok s

/-- The authority in front, and what follows it. -/
def authority? (cs : List Char) : Except TargetFault (List Char × List Char) := do
  let name := cs.takeWhile (!isEnd ·)
  let seen ← name.foldlM Seen.next ⟨0, false, false, false⟩
  if seen.opened != seen.closed || 1 < seen.colons || name.getLast? = some '@' || seen.percent then
    .error .authority
  else .ok (name, cs.drop name.length)

/-! ## Whole targets -/

/-- Whether a character may stand in a scheme. -/
def isSchemeChar (c : Char) : Bool := c.isAlphanum || c = '+' || c = '-' || c = '.'

/-- The greatest length of a scheme. -/
def maxScheme : Nat := 64

/-- The greatest length of a target, in bytes. -/
def maxLength : Nat := UInt16.size - 2

/-- A target that begins neither with a slash nor is a single character. -/
def parseFull (cs : List Char) : Except TargetFault Target := do
  let scheme := cs.takeWhile isSchemeChar
  match Text.afterChars? "://".toList (cs.drop scheme.length) with
  | none =>
    let (name, rest) ← authority? cs
    if rest.isEmpty then .ok (.authority name) else .error .format
  | some rest =>
    if maxScheme < scheme.length then .error .schemeTooLong
    let (name, rest) ← authority? rest
    if name.isEmpty then .error .format
    return .absolute scheme name (← checkedPath rest)

/-- The target that a text gives. -/
def parse (s : String) : Except TargetFault Target :=
  if maxLength < s.utf8ByteSize then .error .tooLong
  else
    match s.toList with
    | [] => .error .empty
    | '/' :: rest => (checkedPath ('/' :: rest)).map .path
    | ['*'] => .ok .asterisk
    | [c] => do
      let (name, rest) ← authority? [c]
      if rest.isEmpty then .ok (.authority name) else .error .character
    | cs => parseFull cs

/-- What stands before a query. -/
def beforeQuery (cs : List Char) : String := String.ofList (Text.cut (· = '?') cs).1

/-- The path of a target without its query. -/
def pathText : Target → String
  | path p => beforeQuery p
  | absolute _ _ p => if (beforeQuery p).isEmpty then "/" else beforeQuery p
  | authority _ => ""
  | asterisk => "*"

end Target

end MeshSync.Http
