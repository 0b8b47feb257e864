import MeshSync.Binary64
import MeshSync.Json.Basic

/-! # JSON as written

    The structure of a JSON text before its meaning is asked for.  What a
    reader skips only has to be well formed, while what it keeps must also
    name characters, stay in range and not be nested too deeply; so a number
    keeps its spelling here, a string that names no text is marked, and an
    object keeps repeated names.  `Source.value?` gives the meaning and
    `Json.source` writes a value down again. -/

namespace MeshSync

/-- A JSON text as written. -/
inductive Source where
  | null
  | bool (b : Bool)
  | number (n : Numeral)
  /-- A string; none where an escape names half a surrogate pair. -/
  | string (s : Option String)
  | array (items : List Source)
  | object (fields : List (Option String × Source))
  deriving Inhabited

/-- The number that a numeral stands for: an integer where it is written as
    one and fits 64 bits, and a binary64 value elsewhere, which also holds the
    negative zero; none where the value would not be finite. -/
def Number.ofNumeral? (n : Numeral) : Option Number :=
  let magnitude := Decimal.value n.whole
  if !n.isInteger || magnitude > Decimal.max64 then (Binary64.ofNumeral? n).map .real
  else if !n.negative then some (.natural magnitude)
  else if magnitude = 0 || magnitude > Nat.pow 2 63 then (Binary64.ofNumeral? n).map .real
  else some (.negative (magnitude - 1))

/-- How a number is written. -/
def Number.numeral : Number → Numeral
  | .natural n => .ofNat n
  | .negative n => ⟨true, Decimal.digits (n + 1), [], none⟩
  | .real bits => Binary64.numeral bits

/-- The text of a number. -/
def Number.text (n : Number) : String := String.ofList n.numeral.chars

namespace Source

/-- Arrays and objects that a value which is kept may lie inside. -/
def maxDepth : Nat := 127

mutual

/-- The value of a text, with room for so many arrays and objects around the
    innermost value. -/
def value? (room : Nat) : Source → Option Json
  | .null => some .null
  | .bool b => some (.bool b)
  | .number n => (Number.ofNumeral? n).map .number
  | .string s => s.map .string
  | .array items =>
    match room with
    | 0 => none
    | room + 1 => (items? room items).map .array
  | .object fields =>
    match room with
    | 0 => none
    | room + 1 => (fields? room fields).map Json.ofFields

/-- The values of an array's items. -/
def items? (room : Nat) : List Source → Option (List Json)
  | [] => some []
  | s :: rest =>
    match value? room s, items? room rest with
    | some j, some js => some (j :: js)
    | _, _ => none

/-- The values of an object's fields. -/
def fields? (room : Nat) : List (Option String × Source) → Option (List (String × Json))
  | [] => some []
  | (name, s) :: rest =>
    match name, value? room s, fields? room rest with
    | some name, some j, some js => some ((name, j) :: js)
    | _, _, _ => none

end

end Source

namespace Json

mutual

/-- How a value is written. -/
def source : Json → Source
  | .null => .null
  | .bool b => .bool b
  | .number n => .number n.numeral
  | .string s => .string (some s)
  | .array items => .array (itemSources items)
  | .object fields => .object (fieldSources fields)

/-- How items are written. -/
def itemSources : List Json → List Source
  | [] => []
  | j :: rest => source j :: itemSources rest

/-- How fields are written. -/
def fieldSources : List (String × Json) → List (Option String × Source)
  | [] => []
  | (name, j) :: rest => (some name, source j) :: fieldSources rest

end

end Json

end MeshSync
