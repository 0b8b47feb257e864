import MeshSync.LogFilter.Field
import MeshSync.LogFilter.Level
import MeshSync.Text.Blank

/-! # Directives

    A level for the messages of a target, of a span and with certain fields, as
    far as these are named.  Its text is a level alone, or a target or what is
    in brackets, or both, and then the level behind an equals sign. -/

namespace MeshSync.LogFilter

/-- A level for some messages. -/
structure Directive where
  target : Option String
  /-- The name of the span that messages stand in. -/
  span : Option String
  /-- The fields that a span has to have. -/
  fields : List Field
  level : Level
  deriving DecidableEq, Inhabited

namespace Directive

/-- What a directive says of all messages of a target. -/
def ofTarget (target : String) (level : Level) : Directive := ⟨some target, none, [], level⟩

/-- The text of what is in brackets. -/
def bracketed (d : Directive) : String :=
  let fields := ",".intercalate (d.fields.map (·.text))
  let braced := if d.fields.isEmpty then "" else "\x7b" ++ fields ++ "\x7d"
  if d.span.isNone && d.fields.isEmpty then "" else "[" ++ d.span.getD "" ++ braced ++ "]"

/-- The text of a directive. -/
def text (d : Directive) : String :=
  let messages := d.target.getD "" ++ d.bracketed
  if d.target.isNone && messages.isEmpty then d.level.name else s!"{messages}={d.level.name}"

/-- Whether a directive speaks of spans: of one with a name, or of such with
    certain fields. -/
def isOfSpans (d : Directive) : Bool := d.span.isSome || !d.fields.isEmpty

/-- Whether a directive can be decided without looking into spans: it asks for
    no name of a span and for no value of a field. -/
def isPlain (d : Directive) : Bool := d.span.isNone && d.fields.all (·.value.isNone)

/-- Whether two directives speak of the same messages. -/
def alike (d e : Directive) : Bool :=
  d.target = e.target && d.span = e.span && d.fields = e.fields

/-- Put a directive in place of an earlier one for the same messages. -/
def replace (ds : List Directive) (d : Directive) : List Directive :=
  ds.filter (!·.alike d) ++ [d]

/-! ## Reading -/

/-- Where a reader stands, with the places at which what it reads began. -/
inductive Place where
  | start
  | word (first : Nat)
  | span (first : Nat)
  | field (first : Nat)
  /-- Behind the fields. -/
  | fields
  /-- Behind the brackets. -/
  | closed
  | level (first : Nat)

/-- Whether a directive may start with this character, if not with a bracket. -/
def isStart (c : Char) : Bool := c = '-' || c = ':' || c = '_' || Text.isAlphanumeric c

/-- The part of a text between two places, counted in bytes. -/
def part (cs : List Char) (first last : Nat) : List Char :=
  (cs.foldl (fun (kept, n) c =>
    (if first ≤ n && n < last then c :: kept else kept, n + c.utf8Size)) ([], 0)).1.reverse

/-- A directive that lets everything through. -/
def anything : Directive := ⟨none, none, [], .trace⟩

/-- Read a character at a place; the directive is cut out of `cs`. -/
def next? (cs : List Char) (d : Directive) (place : Place) (i : Nat) (c : Char) :
    Option (Directive × Place) :=
  match place, c with
  | .start, '[' => some (d, .span (i + 1))
  | .start, c => if isStart c then some (d, .word i) else none
  | .word first, '=' =>
    some ({ d with target := some (String.ofList (part cs first i)) }, .level (i + 1))
  | .word first, '[' =>
    some ({ d with target := some (String.ofList (part cs first i)) }, .span (i + 1))
  | .word first, _ => some (d, .word first)
  | .span first, ']' => some ({ d with span := some (String.ofList (part cs first i)) }, .closed)
  | .span first, '{' =>
    let name := part cs first i
    some ({ d with span := if name.isEmpty then none else some (String.ofList name) }, .field (i + 1))
  | .span first, _ => some (d, .span first)
  | .field first, '}' =>
    let text := part cs first i
    if text.isEmpty then none
    else (Field.ofText? text).map fun f => ({ d with fields := d.fields ++ [f] }, .fields)
  | .field first, _ => some (d, .field first)
  | .fields, ']' => some (d, .closed)
  | .fields, _ => none
  | .closed, '=' => some (d, .level (i + 1))
  | .closed, _ => none
  | .level first, _ => some (d, .level first)

/-- Read characters from a place on. -/
def readFrom (cs : List Char) (d : Directive) (place : Place) (i : Nat) :
    List Char → Option (Directive × Place)
  | [] => some (d, place)
  | c :: rest =>
    match next? cs d place i c with
    | none => none
    | some (d, place) => readFrom cs d place (i + c.utf8Size) rest

/-- The rest of a text from a place on, counted in bytes. -/
def remainder (cs : List Char) (first : Nat) : String :=
  String.ofList (part cs first (cs.foldl (fun n c => n + c.utf8Size) 0))

/-- A text without the blanks around it. -/
def trimmed (cs : List Char) : List Char :=
  ((cs.dropWhile Text.isBlank).reverse.dropWhile Text.isBlank).reverse

/-- The directive that a text gives.  Blanks around it do not count when it is
    looked at, but do when its parts are taken out of it. -/
def parse? (cs : List Char) : Option Directive :=
  match readFrom cs anything .start 0 (trimmed cs) with
  | some (d, .word first) =>
    let word := remainder cs first
    match Level.ofText? word with
    | some level => some { d with level := level }
    | none => some { d with target := some word }
  | some (d, .level first) =>
    let word := remainder cs first
    if word.isEmpty then some d else (Level.ofText? word).map fun level => { d with level := level }
  | some (d, .closed) => some d
  | _ => none

end Directive

end MeshSync.LogFilter
