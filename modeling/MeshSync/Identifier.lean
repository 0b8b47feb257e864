import MeshSync.Decimal

/-! # Identifiers

    Names that are given out once: a family of eight characters and a number
    that counts up.  They have the length and the shape of random ones, and
    `text_inj` says that no number gives the name of another. -/

namespace MeshSync.Identifier

/-- Zeros that bring digits to a width of twelve. -/
def padding (digits : List Char) : List Char := List.replicate (12 - digits.length) '0'

/-- The digits of a number, at least twelve of them. -/
def serial (n : Nat) : List Char := padding (Decimal.digits n) ++ Decimal.digits n

/-- The `n`-th name of a family. -/
def text (family : String) (n : Nat) : String :=
  family ++ "-0000-4000-8000-" ++ String.ofList (serial n)

theorem value_serial (n : Nat) : Decimal.value (serial n) = n := by
  have zeros : ∀ k, Decimal.value (List.replicate k '0' ++ Decimal.digits n) = n := by
    intro k
    induction k with
    | zero => simp
    | succ k ih =>
      simpa [Decimal.value, Decimal.valueFrom, List.replicate_succ, Decimal.weight] using ih
  exact zeros _

/-- No number gives the name of another. -/
theorem text_inj {family : String} {m n : Nat} (h : text family m = text family n) : m = n := by
  have h : serial m = serial n := by simpa [text] using congrArg String.toList h
  rw [← value_serial m, h, value_serial]

end MeshSync.Identifier
