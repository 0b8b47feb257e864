import MeshSync.Text.Search

/-! # Tables of characters

    How a table of characters is written: lines of words, each of which is a
    range of hexadecimal numbers, `300-36F` or `5BF`, or a rule that says what
    such a range becomes, `C0-D6=E0` or `132=69+6A`.  A range may take in every
    second number only, `100-12E/2`. -/

namespace MeshSync.Text

/-- Whether a character lies in one of the ranges. -/
def inRanges (ranges : List (Nat × Nat)) (c : Char) : Bool :=
  ranges.any fun (low, high) => low ≤ c.toNat && c.toNat ≤ high

namespace Table

/-- What a hexadecimal digit is worth; its letters are capitals. -/
def digit (c : Char) : Nat :=
  if c.isDigit then c.toNat - '0'.toNat else c.toNat - 'A'.toNat + 10

/-- The number that hexadecimal digits write. -/
def number (cs : List Char) : Nat := cs.foldl (fun n c => n * 16 + digit c) 0

/-- The words of a line. -/
def words (line : String) : List (List Char) := splitChars (· = ' ') line.toList

/-- A range, or the number that is the only one in it. -/
def range (word : List Char) : Nat × Nat :=
  match cut (· = '-') word with
  | (first, some last) => (number first, number last)
  | (only, none) => (number only, number only)

/-- The ranges of a table. -/
def ranges (lines : List String) : List (Nat × Nat) :=
  lines.flatMap fun line => (words line).map range

/-- What the numbers of a range become, if `step` is the distance between them:
    the first one `targets`, and the others what is as far behind. -/
structure Rule where
  first : Nat
  last : Nat
  step : Nat
  targets : List Nat
  deriving DecidableEq, Inhabited

namespace Rule

/-- The rule that a word writes. -/
def ofWord (word : List Char) : Rule :=
  let (source, targets) := cut (· = '=') word
  let (numbers, step) := cut (· = '/') source
  let (first, last) := range numbers
  ⟨first, last, (step.map number).getD 1,
    (targets.map fun ts => (splitChars (· = '+') ts).map number).getD []⟩

/-- What a number becomes by a rule. -/
def image? (r : Rule) (n : Nat) : Option (List Nat) :=
  if r.first ≤ n && n ≤ r.last && (n - r.first) % r.step = 0 then
    some (r.targets.map (· + (n - r.first)))
  else none

end Rule

/-- The rules of a table. -/
def rules (lines : List String) : List Rule :=
  lines.flatMap fun line => (words line).map Rule.ofWord

/-- What a character becomes by the first rule for it. -/
def image? (rules : List Rule) (c : Char) : Option (List Char) :=
  (rules.findSome? (·.image? c.toNat)).map (·.map Char.ofNat)

end Table

end MeshSync.Text
