import MeshSync.SortedMap

/-! # JSON values

    The values that bodies and answers carry.  An object keeps its fields in
    ascending order of their names, each name once; `Json.ofFields` brings
    fields into that form.  Numbers are split the way readers tell them
    apart: natural numbers, negative integers, and binary64 values, the last
    by their bits so that equality of numbers is equality of values. -/

namespace MeshSync

/-- A number as a reader classifies it. -/
inductive Number where
  /-- A natural number of at most 64 bits. -/
  | natural (n : Nat)
  /-- The integer `-(n + 1)`, at least `-2^63`. -/
  | negative (n : Nat)
  /-- The binary64 value with these bits. -/
  | real (bits : UInt64)
  deriving DecidableEq, Inhabited

/-- A JSON value. -/
inductive Json where
  | null
  | bool (b : Bool)
  | number (n : Number)
  | string (s : String)
  | array (items : List Json)
  | object (fields : List (String × Json))
  deriving BEq, Inhabited

namespace Json

/-- The object with these fields; of a repeated name the last value stays. -/
def ofFields (fields : List (String × Json)) : Json :=
  .object (SortedMap.ofList fields).entries

/-- A natural number as a value. -/
def ofNat (n : Nat) : Json := .number (.natural n)

/-- A value where there is one, and null elsewhere. -/
def ofOption {α : Type} (f : α → Json) : Option α → Json
  | none => .null
  | some a => f a

/-- The value of an object's field. -/
def field? (name : String) : Json → Option Json
  | .object fields => SortedMap.find name fields
  | _ => none

/-- The text, if the value is a string. -/
def string? : Json → Option String
  | .string s => some s
  | _ => none

/-- The natural number, if the value is one. -/
def natural? : Json → Option Nat
  | .number (.natural n) => some n
  | _ => none

/-- The items, if the value is an array. -/
def array? : Json → Option (List Json)
  | .array items => some items
  | _ => none

/-- The fields, if the value is an object. -/
def object? : Json → Option (List (String × Json))
  | .object fields => some fields
  | _ => none

end Json

end MeshSync
