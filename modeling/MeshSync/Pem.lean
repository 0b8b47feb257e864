import MeshSync.Base64

/-! # PEM

    A text is read line by line; a line ends at a line feed or at a carriage
    return and keeps that byte.  A line that begins a section names it and the
    line that ends the section is looked for from then on; a section begun
    inside another one takes over the lines collected so far.  At its end a
    section with a known label is decoded and one with any other label is
    dropped.  What was read before a malformed line, or before a text that
    ends inside a section, stands. -/

namespace MeshSync.Pem

/-- What a section holds, by its label. -/
inductive Label where
  | certificate
  | other
  deriving DecidableEq

/-- The labels whose sections are decoded. -/
def knownLabels : List (Bytes × Label) :=
  [(Bytes.ofText "CERTIFICATE", .certificate),
   (Bytes.ofText "PUBLIC KEY", .other),
   (Bytes.ofText "RSA PRIVATE KEY", .other),
   (Bytes.ofText "PRIVATE KEY", .other),
   (Bytes.ofText "EC PRIVATE KEY", .other),
   (Bytes.ofText "X509 CRL", .other),
   (Bytes.ofText "CERTIFICATE REQUEST", .other),
   (Bytes.ofText "ECHCONFIG", .other)]

/-- A decoded section. -/
structure Item where
  label : Label
  der : Bytes
  deriving DecidableEq

/-- A section that is open: its label and the lines collected for it. -/
structure Section where
  label : Bytes
  collected : Bytes

/-- A line feed. -/
def lineFeed : UInt8 := 10

/-- A carriage return. -/
def carriageReturn : UInt8 := 13

/-- A hyphen. -/
def hyphen : UInt8 := 45

/-- A space. -/
def space : UInt8 := 32

/-- The lines of a text, each with the byte that ends it. -/
def lines : Bytes → List Bytes
  | [] => []
  | b :: rest =>
    if b = lineFeed || b = carriageReturn then [b] :: lines rest
    else
      match lines rest with
      | [] => [[b]]
      | line :: more => (b :: line) :: more

/-- How a line that begins a section starts. -/
def beginMark : Bytes := Bytes.ofText "-----BEGIN "

/-- How a line that ends a section with this label starts. -/
def endMark (label : Bytes) : Bytes :=
  Bytes.ofText "-----END " ++ label ++ Bytes.ofText "-----"

/-- Whether a byte may stand at the end of a line that begins a section. -/
def isTrailer (b : UInt8) : Bool :=
  b = hyphen || b = space || b = lineFeed || b = carriageReturn

/-- The label of a line that begins a section: what stands before the first of
    the hyphens at the end of the line, which must be five. -/
def label? (line : Bytes) : Option Bytes :=
  let trailer := (line.reverse.takeWhile isTrailer).reverse
  if trailer.count hyphen = 5 then
    let blanks := (trailer.takeWhile (· != hyphen)).length
    some ((line.take (line.length - trailer.length + blanks)).drop beginMark.length)
  else none

/-- Decode a section that is complete; a section with an unknown label gives
    no item. -/
def Section.item? (s : Section) : Option (Option Item) :=
  match knownLabels.lookup s.label with
  | none => some none
  | some label => (Base64.decode? s.collected).map fun der => some ⟨label, der⟩

/-- Read a line: the section open after it and the item it completes, or
    nothing where it is malformed. -/
def readLine (open? : Option Section) (line : Bytes) : Option (Option Section × Option Item) :=
  if beginMark.isPrefixOf line then
    (label? line).map fun label =>
      (some ⟨label, (open?.map (·.collected)).getD []⟩, none)
  else
    match open? with
    | none => some (none, none)
    | some s =>
      if (endMark s.label).isPrefixOf line then s.item?.map fun item => (none, item)
      else some (some { s with collected := s.collected ++ line }, none)

/-- Read lines: the items completed before anything malformed, and whether
    nothing was and no section was left open. -/
def readLines : Option Section → List Bytes → List Item × Bool
  | open?, [] => ([], open?.isNone)
  | open?, line :: rest =>
    match readLine open? line with
    | none => ([], false)
    | some (open?, item) =>
      let (items, whole) := readLines open? rest
      (item.toList ++ items, whole)

/-- The certificates of a text, and whether the text is well formed. -/
def certificates (text : Bytes) : List Bytes × Bool :=
  let (items, whole) := readLines none (lines text)
  ((items.filter (·.label = .certificate)).map (·.der), whole)

end MeshSync.Pem
