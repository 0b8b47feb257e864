import MeshSync.Binary64

/-! # Metrics

    The text of measured values: a name, labels if it has any, and a number.
    Counts are exact; gauges are binary64 values, written without an exponent. -/

namespace MeshSync.Metrics

/-- The number of a gauge that was set to a natural number. -/
def gaugeText (n : Nat) : String :=
  match Binary64.ofNumeral? (Numeral.ofNat n) with
  | none => Decimal.text n
  | some bits =>
    if n = 0 then "0"
    else
      let (digits, exponent) := Binary64.shortest (Binary64.parts bits)
      Decimal.text (digits * Nat.pow 10 exponent.toNat)

/-- The line of a gauge. -/
def gauge (name : String) (n : Nat) : String := s!"{name} {gaugeText n}"

/-- The line of a counter with a label; none while it has counted nothing. -/
def counter (name label value : String) (n : Nat) : List String :=
  if n = 0 then [] else [s!"{name}\x7b{label}=\"{value}\"\x7d {n}"]

end MeshSync.Metrics
