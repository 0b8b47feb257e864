import MeshSync.Decimal

/-! # Decimal numerals with fraction and exponent

    A numeral split into its parts, as the formats that carry numbers write
    it.  The digits keep their spelling, since how many there are decides how
    a number is read. -/

namespace MeshSync

/-- The parts of a numeral such as `-12.50e-3`. -/
structure Numeral where
  negative : Bool
  /-- The digits before the point. -/
  whole : List Char
  /-- The digits after the point; none when there is no point. -/
  fraction : List Char
  /-- Whether the exponent is negative, and its digits. -/
  exponent : Option (Bool × List Char)
  deriving DecidableEq, Inhabited

namespace Numeral

/-- The numeral of a natural number. -/
def ofNat (n : Nat) : Numeral := ⟨false, Decimal.digits n, [], none⟩

/-- Whether the numeral has neither a fraction nor an exponent. -/
def isInteger (n : Numeral) : Bool := n.fraction.isEmpty && n.exponent.isNone

/-- The exponent, zero when there is none. -/
def power (n : Numeral) : Int :=
  match n.exponent with
  | none => 0
  | some (false, ds) => Decimal.value ds
  | some (true, ds) => -Decimal.value ds

/-- The numeral as characters; its exponent has a sign. -/
def chars (n : Numeral) : List Char :=
  let sign := if n.negative then ['-'] else []
  let fraction := if n.fraction.isEmpty then [] else '.' :: n.fraction
  let exponent := match n.exponent with
    | none => []
    | some (false, ds) => 'e' :: '+' :: ds
    | some (true, ds) => 'e' :: '-' :: ds
  sign ++ n.whole ++ fraction ++ exponent

end Numeral

end MeshSync
