import MeshSync.Toml.Number
import MeshSync.Toml.Table

/-! # TOML documents

    A document is a sequence of pairs, and of sections that begin with a header
    and have pairs of their own.  Version 1.0 of the format is read. -/

namespace MeshSync.Toml

/-- How many arrays and tables may lie in each other, and how many parts a key
    may have: less than this. -/
def maxDepth : Nat := 80

/-! ## Values -/

mutual

/-- A value inside of which so many more may lie, and what follows, by a reader
    that may go so many steps deep. -/
def read : Nat → Nat → List Char → Option (Value × List Char)
  | 0, _, _ => none
  | fuel + 1, room, cs =>
    match cs with
    | '"' :: _ => (text? cs).map fun (text, rest) => (.string text, rest)
    | '\'' :: _ => (text? cs).map fun (text, rest) => (.string text, rest)
    | '[' :: rest =>
      match room with
      | 0 => none
      | room + 1 => (readItems fuel room rest).map fun (items, rest) => (.array items, rest)
    | '{' :: rest =>
      match room, skipBlank rest with
      | 0, _ => none
      | _, '}' :: rest => some (.table [], rest)
      | room + 1, rest => do
        let (pairs, rest) ← readPairs fuel room rest
        return (← tableOfPairs? pairs, rest)
    | 't' :: 'r' :: 'u' :: 'e' :: rest => some (.bool true, rest)
    | 'f' :: 'a' :: 'l' :: 's' :: 'e' :: rest => some (.bool false, rest)
    | cs =>
      match moment? cs with
      | some (moment, rest) => some (.moment moment, rest)
      | none => number? cs

/-- Items up to the bracket that closes them; a comma may stand behind the
    last. -/
def readItems : Nat → Nat → List Char → Option (List Value × List Char)
  | 0, _, _ => none
  | fuel + 1, room, cs =>
    match gap? false cs with
    | none => none
    | some (']' :: rest) => some ([], rest)
    | some cs =>
      match read fuel room cs with
      | none => none
      | some (value, rest) =>
        match gap? false rest with
        | some (']' :: rest) => some ([value], rest)
        | some (',' :: rest) =>
          (readItems fuel room rest).map fun (items, rest) => (value :: items, rest)
        | _ => none

/-- Pairs up to the brace that closes them. -/
def readPairs : Nat → Nat → List Char → Option (List (List String × Value) × List Char)
  | 0, _, _ => none
  | fuel + 1, room, cs =>
    match keyParts? (maxDepth - 1) cs with
    | some (path, '=' :: rest) =>
      match read fuel room (skipBlank rest) with
      | none => none
      | some (value, rest) =>
        match skipBlank rest with
        | '}' :: rest => some ([(path, value)], rest)
        | ',' :: rest =>
          (readPairs fuel room rest).map fun (pairs, rest) => ((path, value) :: pairs, rest)
        | _ => none
    | _ => none

end

/-- Steps that suffice for a text: two for each character, one for the value
    and one for the item or pair it starts. -/
def steps (cs : List Char) : Nat := 2 * cs.length + 2

/-- A value, and what follows. -/
def value? (cs : List Char) : Option (Value × List Char) := read (steps cs) (maxDepth - 1) cs

/-! ## Lines -/

/-- What a line says. -/
inductive Line where
  /-- Nothing. -/
  | blank
  | pair (path : List String) (value : Value)
  /-- The header of a table. -/
  | table (path : List String)
  /-- The header of one more table. -/
  | element (path : List String)

/-- A pair, and what follows. -/
def pair? (cs : List Char) : Option (Line × List Char) := do
  let (path, rest) ← keyParts? (maxDepth - 1) cs
  let (value, rest) ← value? (skipBlank (← mark? '=' rest))
  return (.pair path value, rest)

/-- A header, and what follows. -/
def header? : List Char → Option (Line × List Char)
  | '[' :: '[' :: rest => do
    let (path, rest) ← keyParts? (maxDepth - 1) rest
    return (.element path, ← mark? ']' (← mark? ']' rest))
  | '[' :: rest => do
    let (path, rest) ← keyParts? (maxDepth - 1) rest
    return (.table path, ← mark? ']' rest)
  | _ => none

/-- The line in front, and what follows it. -/
def line? (cs : List Char) : Option (Line × List Char) :=
  match lineEnd? cs with
  | some rest => some (.blank, rest)
  | none => do
    let (line, rest) ← header? (skipBlank cs) <|> pair? cs
    return (line, ← lineEnd? rest)

/-- The lines of a text, of which there are at most so many. -/
def lines? : Nat → List Char → Option (List Line)
  | _, [] => some []
  | 0, _ => none
  | fuel + 1, cs => do
    let (line, rest) ← line? cs
    return line :: (← lines? fuel rest)

/-! ## Sections -/

/-- The pairs in front of the first header. -/
def leadingPairs : List Line → List (List String × Value)
  | .pair path value :: rest => (path, value) :: leadingPairs rest
  | .blank :: rest => leadingPairs rest
  | _ => []

/-- Put the sections of lines into a table, one after the other. -/
def placeSections : List Line → Entries → Option Entries
  | [], entries => some entries
  | .table path :: rest, entries => do
    let key ← path.getLast?
    placeSections rest (← entries.inside (Entries.putTable key (leadingPairs rest)) path.dropLast)
  | .element path :: rest, entries => do
    let key ← path.getLast?
    placeSections rest (← entries.inside (Entries.addTable key (leadingPairs rest)) path.dropLast)
  | _ :: rest, entries => placeSections rest entries

/-- The characters of a text without a byte order mark. -/
def withoutMark : List Char → List Char
  | '\uFEFF' :: rest => rest
  | cs => cs

/-- The table that a document stands for. -/
def parse? (text : String) : Option Value := do
  let cs := withoutMark text.toList
  let lines ← lines? cs.length cs
  let entries ← Entries.assignAll (leadingPairs lines) []
  return .table (closeEntries (← placeSections lines entries))

end MeshSync.Toml
