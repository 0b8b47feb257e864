import MeshSync.Toml.Value

/-! # How TOML tables grow

    A table comes about under a header, inside of a header that names a table
    in it, or inside of a dotted key, and which of these it was decides who may
    add to it:  a header may finish what headers began, and dotted keys may add
    to what dotted keys began. -/

namespace MeshSync.Toml

/-- How a table came about. -/
inductive Origin where
  /-- Under a header of its own. -/
  | header
  /-- By a header of a table in it. -/
  | implied
  /-- By a dotted key. -/
  | dotted
  deriving DecidableEq, Inhabited

/-- What stands under a key while a document is read. -/
inductive Node where
  /-- A value, to which nothing is added. -/
  | value (value : Value)
  | table (origin : Origin) (entries : List (String × Node))
  /-- Tables under repeated headers, the latest last. -/
  | tables (items : List (List (String × Node)))
  deriving Inhabited

/-- The entries of a table that may grow. -/
abbrev Entries := List (String × Node)

namespace Entries

/-- The entries with a node under a key, in the place of one that was there. -/
def put (entries : Entries) (key : String) (node : Node) : Entries :=
  if (entries.lookup key).isSome then
    entries.map fun entry => if entry.1 = key then (key, node) else entry
  else entries ++ [(key, node)]

/-- Change the last of some tables. -/
def inLast (items : List Entries) (change : Entries → Option Entries) : Option (List Entries) :=
  items.getLast?.bind fun last => (change last).map (items.dropLast ++ [·])

/-- Put a value under a key with these parts in front; none if the key is taken
    or leads through something that dotted keys did not begin. -/
def assign (key : String) (value : Value) : List String → Entries → Option Entries
  | [], entries =>
    if (entries.lookup key).isSome then none else some (entries ++ [(key, .value value)])
  | part :: parts, entries =>
    match entries.lookup part with
    | none => (assign key value parts []).map fun inner => entries ++ [(part, .table .dotted inner)]
    | some (.value _) => none
    | some (.table origin inner) =>
      if origin = .header || (parts.isEmpty && origin ≠ .dotted) then none
      else (assign key value parts inner).map fun inner => entries.put part (.table origin inner)
    | some (.tables items) =>
      if parts.isEmpty then none
      else (inLast items (assign key value parts)).map fun items => entries.put part (.tables items)

/-- Change the table under a path of headers, which is implied where it is not
    there. -/
def inside (change : Entries → Option Entries) : List String → Entries → Option Entries
  | [], entries => change entries
  | part :: parts, entries =>
    match entries.lookup part with
    | none => (inside change parts []).map fun inner => entries ++ [(part, .table .implied inner)]
    | some (.value _) => none
    | some (.table origin inner) =>
      (inside change parts inner).map fun inner => entries.put part (.table origin inner)
    | some (.tables items) =>
      (inLast items (inside change parts)).map fun items => entries.put part (.tables items)

/-- Put pairs into a table, each under the parts of its key. -/
def assignAll (pairs : List (List String × Value)) (entries : Entries) : Option Entries :=
  pairs.foldlM (fun entries (path, value) =>
    path.getLast?.bind fun key => entries.assign key value path.dropLast) entries

/-- Put a table with these pairs under a key, which may hold one that headers
    only implied. -/
def putTable (key : String) (pairs : List (List String × Value)) (entries : Entries) :
    Option Entries :=
  match entries.lookup key with
  | none => (assignAll pairs []).map fun inner => entries ++ [(key, .table .header inner)]
  | some (.table .implied inner) =>
    (assignAll pairs inner).map fun inner => entries.put key (.table .header inner)
  | some _ => none

/-- Put one more table with these pairs under a key, which may hold others. -/
def addTable (key : String) (pairs : List (List String × Value)) (entries : Entries) :
    Option Entries :=
  match entries.lookup key with
  | none => (assignAll pairs []).map fun inner => entries ++ [(key, .tables [inner])]
  | some (.tables items) =>
    (assignAll pairs []).map fun inner => entries.put key (.tables (items ++ [inner]))
  | some _ => none

end Entries

mutual

/-- The value that a node has become. -/
def Node.close : Node → Value
  | .value value => value
  | .table _ entries => .table (closeEntries entries)
  | .tables items => .array (closeTables items)

/-- The values that entries have become. -/
def closeEntries : List (String × Node) → List (String × Value)
  | [] => []
  | (key, node) :: rest => (key, node.close) :: closeEntries rest

/-- The values that tables have become. -/
def closeTables : List (List (String × Node)) → List Value
  | [] => []
  | entries :: rest => .table (closeEntries entries) :: closeTables rest

end

/-- The table of pairs that stand together, if they do not contradict each
    other. -/
def tableOfPairs? (pairs : List (List String × Value)) : Option Value :=
  (Entries.assignAll pairs []).map fun entries => .table (closeEntries entries)

end MeshSync.Toml
