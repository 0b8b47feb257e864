import MeshSync.Json.Source
import MeshSync.Text.Quoted

/-! # Reading records from JSON

    A record is given by an object, in any order and beside fields nobody
    asked for, or by an array of its fields in their declared order.  What is
    refused, and by which words, is `DecodeError`. -/

namespace MeshSync

/-- Why a text does not give the value asked for. -/
inductive DecodeError where
  /-- The text is not JSON, or a value it gives cannot be kept. -/
  | unreadable
  /-- A value of another kind. -/
  | mismatch (found : Source) (expected : String)
  /-- A number of the right kind that is out of range. -/
  | outside (found : Source) (expected : String)
  /-- A field that an object must have. -/
  | missing (field : String)
  /-- A field given twice. -/
  | repeated (field : String)
  /-- An array that ends before the field at `index`. -/
  | short (index : Nat) (expected : String)
  /-- An array with more items than the record has fields. -/
  | long (length : Nat)
  /-- A name that is none of the choices. -/
  | unknown (name : String)

namespace Source

/-- What a value is called where another one was expected. -/
def describe : Source → String
  | .null => "null"
  | .bool b => s!"boolean `{b}`"
  | .number n =>
    match Number.ofNumeral? n with
    | some (.real bits) => s!"floating point `{String.ofList (Binary64.numeral bits).chars}`"
    | some k => s!"integer `{k.text}`"
    | none => "number"
  | .string s => "string " ++ Text.quoted (s.getD "")
  | .array _ => "sequence"
  | .object _ => "map"

end Source

namespace DecodeError

/-- The wording of an error. -/
def message : DecodeError → String
  | .unreadable => "invalid JSON"
  | .mismatch found expected => s!"invalid type: {found.describe}, expected {expected}"
  | .outside found expected => s!"invalid value: {found.describe}, expected {expected}"
  | .missing field => s!"missing field `{field}`"
  | .repeated field => s!"duplicate field `{field}`"
  | .short index expected => s!"invalid length {index}, expected {expected}"
  | .long length => s!"invalid length {length}, expected fewer elements in array"
  | .unknown name => s!"unknown variant `{name}`"

end DecodeError

/-- A reader of values. -/
abbrev Reader (α : Type) := Source → Except DecodeError α

namespace Reader

/-- A text. -/
def text : Reader String
  | .string (some s) => .ok s
  | .string none => .error .unreadable
  | s => .error (.mismatch s "a string")

/-- A truth value. -/
def flag : Reader Bool
  | .bool b => .ok b
  | s => .error (.mismatch s "a boolean")

/-- A natural number up to a limit, for a type with this name. -/
def natural (limit : Nat) (type : String) : Reader Nat
  | .number n =>
    match Number.ofNumeral? n with
    | none => .error .unreadable
    | some (.natural k) => if k ≤ limit then .ok k else .error (.outside (.number n) type)
    | some (.negative _) => .error (.outside (.number n) type)
    | some (.real _) => .error (.mismatch (.number n) type)
  | s => .error (.mismatch s type)

/-- A 16-bit number. -/
def word16 : Reader UInt16 := fun s => (natural Decimal.max16 "u16" s).map UInt16.ofNat

/-- A 32-bit number. -/
def word32 : Reader UInt32 := fun s => (natural Decimal.max32 "u32" s).map UInt32.ofNat

/-- A 64-bit number. -/
def word64 : Reader UInt64 := fun s => (natural Decimal.max64 "u64" s).map UInt64.ofNat

/-- The readings of items, up to the first that is refused. -/
def items {α : Type} (read : Reader α) : List Source → Except DecodeError (List α)
  | [] => .ok []
  | s :: rest => do
    let a ← read s
    let as ← items read rest
    .ok (a :: as)

/-- A list. -/
def list {α : Type} (read : Reader α) : Reader (List α)
  | .array ss => items read ss
  | s => .error (.mismatch s "a sequence")

/-- A value, or null where there is none. -/
def option {α : Type} (read : Reader α) : Reader (Option α)
  | .null => .ok none
  | s => (read s).map some

/-- One of several names, alone or as the only field of an object that holds
    null. -/
def choice {α : Type} (choices : List (String × α)) : Reader α :=
  let pick (name : String) : Except DecodeError α :=
    match choices.lookup name with
    | some a => .ok a
    | none => .error (.unknown name)
  fun
  | .string (some name) => pick name
  | .object [(some name, .null)] => pick name
  | .string none => .error .unreadable
  | s => .error (.mismatch s "string or map")

/-- The readings of fields, up to the first that is refused. -/
def fields {α : Type} (read : Reader α) :
    List (Option String × Source) → Except DecodeError (List (String × α))
  | [] => .ok []
  | (none, _) :: _ => .error .unreadable
  | (some name, s) :: rest => do
    let a ← read s
    let as ← fields read rest
    .ok ((name, a) :: as)

/-- An object as a map; of a repeated name the last value stays. -/
def map {α : Type} (read : Reader α) : Reader (SortedMap String α)
  | .object fs => (fields read fs).map SortedMap.ofList
  | s => .error (.mismatch s "a map")

/-- Any value that lies inside so many fewer arrays and objects than may be. -/
def any (room : Nat) : Reader Json := fun s =>
  match s.value? room with
  | some j => .ok j
  | none => .error .unreadable

end Reader

/-- The fields that were given for a record. -/
structure Record where
  /-- What the record is called where it was expected. -/
  name : String
  /-- The fields of the record, in their declared order. -/
  declared : List String
  /-- Whether the fields were given by their place in an array. -/
  byPlace : Bool
  /-- The given fields that are declared, in the order of the text. -/
  given : List (String × Source)
  /-- The length of an array with more items than there are fields. -/
  excess : Option Nat

namespace Record

/-- The declared fields of an object, each at most once. -/
def ofFields (declared : List String) :
    List (Option String × Source) → Except DecodeError (List (String × Source))
  | [] => .ok []
  | (none, _) :: _ => .error .unreadable
  | (some name, s) :: rest => do
    let given ← ofFields declared rest
    if !declared.contains name then .ok given
    else if (given.lookup name).isSome then .error (.repeated name)
    else .ok ((name, s) :: given)

/-- The fields given for a record with this name. -/
def read (name : String) (declared : List String) : Reader Record
  | .object fields => do
    let given ← ofFields declared fields
    .ok ⟨name, declared, false, given, none⟩
  | .array items =>
    let excess := if declared.length < items.length then some items.length else none
    .ok ⟨name, declared, true, declared.zip items, excess⟩
  | s => .error (.mismatch s name)

variable {α : Type}

/-- The reading of a field, if it was given. -/
def field? (r : Record) (field : String) (read : Reader α) : Except DecodeError (Option α) :=
  match r.given.lookup field with
  | none => .ok none
  | some s => (read s).map some

/-- The error for a field that was not given. -/
def absent (r : Record) (field : String) : DecodeError :=
  if r.byPlace then
    .short (r.declared.idxOf field) s!"{r.name} with {r.declared.length} elements"
  else .missing field

/-- A field that must be given. -/
def required (r : Record) (field : String) (read : Reader α) : Except DecodeError α := do
  match ← r.field? field read with
  | some a => .ok a
  | none => .error (r.absent field)

/-- A field that an object may leave out. -/
def optional (r : Record) (field : String) (read : Reader α) :
    Except DecodeError (Option α) := do
  match ← r.field? field (Reader.option read) with
  | some a => .ok a
  | none => if r.byPlace then .error (r.absent field) else .ok none

/-- A field that has a value of its own where it is not given. -/
def defaulted (r : Record) (field : String) (read : Reader α) (otherwise : α) :
    Except DecodeError α := do
  match ← r.field? field read with
  | some a => .ok a
  | none => .ok otherwise

/-- Refuse items beyond the declared fields. -/
def closed (r : Record) : Except DecodeError Unit :=
  match r.excess with
  | none => .ok ()
  | some length => .error (.long length)

end Record

end MeshSync
