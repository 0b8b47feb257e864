import MeshSync.Url.Basic

/-! # Reading URLs

    A text is cleaned of blanks around it and of tabs and line ends in it, and
    then taken apart from the outside: scheme, fragment, query, authority and
    path. -/

namespace MeshSync.Url

/-- Whether a character vanishes wherever it stands. -/
def isDropped (c : Char) : Bool := c = '\t' || c = '\n' || c = '\x0d'

/-- Whether a character vanishes around a URL. -/
def isMargin (c : Char) : Bool := c.toNat ≤ 0x20

/-- A list without the elements at its ends that `p` picks. -/
def trim (p : Char → Bool) (cs : List Char) : List Char :=
  ((cs.dropWhile p).reverse.dropWhile p).reverse

/-- The characters of a text that count. -/
def clean (text : String) : List Char := (trim isMargin text.toList).filter (!isDropped ·)

/-- Whether a character may stand in a scheme. -/
def isSchemeChar (c : Char) : Bool := c.isAlphanum || c = '+' || c = '-' || c = '.'

/-- The scheme of a text and what follows its colon. -/
def scheme? (cs : List Char) : Option (String × List Char) :=
  match Text.cut (· = ':') cs with
  | (name, some rest) =>
    if name.head?.any Char.isAlpha && name.all isSchemeChar then
      some (Text.lower (String.ofList name), rest)
    else none
  | (_, none) => none

/-- A text without its fragment and query, and these. -/
def takeApart (f : Family) (cs : List Char) : List Char × Option (List Char) × Option (List Char) :=
  let (front, fragment) := Text.cut (· = '#') cs
  let (front, query) := Text.cut (· = '?') front
  (front, query.map (Url.encode f.querySet), fragment.map (Url.encode EncodeSet.fragment))

/-! ## Authorities -/

/-- What stands before and after the last `@`. -/
def cutUser (cs : List Char) : Option (List Char) × List Char :=
  let place := (cs.reverse.takeWhile (· ≠ '@')).reverse
  if place.length = cs.length then (none, cs)
  else (some (cs.take (cs.length - place.length - 1)), place)

/-- The host of a place, and the rest from the colon of the port on, which is
    the first one outside brackets. -/
def cutHost : Bool → List Char → List Char × List Char
  | _, [] => ([], [])
  | inside, c :: cs =>
    if c = ':' && !inside then ([], c :: cs)
    else
      let inside := if c = '[' then true else if c = ']' then false else inside
      let (host, rest) := cutHost inside cs
      (c :: host, rest)

/-- A port behind its colon, and what follows it. -/
def readPort (implied : Option UInt16) (cs : List Char) : Except Error (Option UInt16 × List Char) :=
  let digits := cs.takeWhile Decimal.isDigit
  let rest := cs.dropWhile Decimal.isDigit
  if Decimal.max16 < Decimal.value digits then .error .invalidPort
  else if rest.head?.any (· ≠ '\\') then .error .invalidPort
  else
    let n := UInt16.ofNat (Decimal.value digits)
    .ok (if digits.isEmpty || implied = some n then none else some n, rest)

/-- User name and password, encoded. -/
def credentials : Option (List Char) → List Char × Option (List Char)
  | none => ([], none)
  | some cs =>
    let (name, password) := Text.cut (· = ':') cs
    (Url.encode EncodeSet.userinfo name,
      (password.filter (!·.isEmpty)).map (Url.encode EncodeSet.userinfo))

/-- A host, none where it is empty. -/
def readHost (f : Family) (cs : List Char) : Except Error (Option Host) :=
  if f = .web then
    if cs.isEmpty then .error .emptyHost else (Host.parse cs).map some
  else if cs.isEmpty then .ok none
  else (Host.parseOpaque cs).map some

/-- An authority and what is left behind its port; `followed` says whether
    anything stands behind it in the URL. -/
def readAuthority (f : Family) (scheme : String) (followed : Bool) (cs : List Char) :
    Except Error (Authority × List Char) := do
  let (user, place) := cutUser cs
  if user = some [] && place.isEmpty && followed then throw .emptyHost
  let (username, password) := credentials user
  let (name, rest) := cutHost false place
  let host ← readHost f name
  if host.isNone && !rest.isEmpty then throw .emptyHost
  let (port, rest) ← readPort (webPorts.lookup scheme) (rest.drop 1)
  if host.isNone && (!username.isEmpty || password.isSome) then throw .emptyHost
  return (⟨username, password, host, port⟩, rest)

/-! ## Authority and path by family -/

/-- The part of a text before its first slash, and the rest from it on. -/
def cutPath (f : Family) (cs : List Char) : List Char × List Char :=
  (cs.takeWhile (!f.isSlash ·), cs.dropWhile (!f.isSlash ·))

/-- The path of a text that begins with a slash or is empty. -/
def rootedPath (f : Family) (cs : List Char) : Path := Path.ofText f (cs.drop 1)

/-- The place of a URL of the web: all slashes before it are skipped. -/
def webPlace (scheme : String) (followed : Bool) (cs : List Char) :
    Except Error (Option Authority × Path) := do
  let (front, path) := cutPath .web (cs.dropWhile (Family.isSlash .web))
  let (authority, _) ← readAuthority .web scheme (followed || !path.isEmpty) front
  return (some authority, rootedPath .web path)

/-- The place of a file; the local host counts as none. -/
def filePlace (cs : List Char) : Except Error (Option Authority × Path) :=
  match cs with
  | a :: b :: rest =>
    if Family.isSlash .file a && Family.isSlash .file b then do
      let (name, path) := cutPath .file rest
      if Path.isDrive name then return (none, Path.ofText .file rest)
      if name.isEmpty then return (none, rootedPath .file path)
      let host ← Host.parse name
      if host = .domain "localhost".toList then return (none, rootedPath .file path)
      return (some ⟨[], none, some host, none⟩, rootedPath .file path)
    else .ok (none, Path.ofText .file (cs.dropWhile (Family.isSlash .file)))
  | _ => .ok (none, Path.ofText .file (cs.dropWhile (Family.isSlash .file)))

/-- The place of any other URL. -/
def otherPlace (scheme : String) (followed : Bool) (cs : List Char) :
    Except Error (Option Authority × Path) :=
  match cs with
  | '/' :: '/' :: rest => do
    let (front, path) := cutPath .other rest
    let (authority, behind) ← readAuthority .other scheme (followed || !path.isEmpty) front
    let path := behind ++ path
    if path.isEmpty then return (some authority, .segments [])
    if path.head? = some '/' then return (some authority, rootedPath .other path)
    return (some authority, Path.ofText .other path)
  | '/' :: rest => .ok (none, Path.ofText .other rest)
  | _ => .ok (none, .bare (Url.encode EncodeSet.controls cs))

/-- The place of a URL. -/
def readPlace (f : Family) (scheme : String) (followed : Bool) (cs : List Char) :
    Except Error (Option Authority × Path) :=
  match f with
  | .web => webPlace scheme followed cs
  | .file => filePlace cs
  | .other => otherPlace scheme followed cs

/-! ## URLs -/

/-- The URL that a text gives. -/
def parse (text : String) : Except Error Url :=
  match scheme? (clean text) with
  | none => .error .relativeWithoutBase
  | some (scheme, rest) => do
    let f := Family.ofScheme scheme
    let (front, query, fragment) := takeApart f rest
    let (authority, path) ← readPlace f scheme (query.isSome || fragment.isSome) front
    return { scheme, authority, path, query, fragment }

/-- The URL that a reference, which begins with a single slash, gives beside a
    base: its path stands in the place of the base's. -/
def withReference (base : Url) (reference : String) : Except Error Url :=
  match base.path with
  | .bare _ => .error .baseWithoutHierarchy
  | .segments _ =>
    let (path, query, fragment) := takeApart base.family (clean reference)
    .ok { base with path := rootedPath base.family path, query, fragment }

end MeshSync.Url
