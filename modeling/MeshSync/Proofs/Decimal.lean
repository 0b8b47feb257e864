import MeshSync.Decimal

/-! # Numerals in texts

    Numbers that are put into a text are written as `Decimal.digits` writes
    them, and the reader for numerals gives the number back. -/

namespace MeshSync.Decimal

theorem digitChar_eq_digit {d : Nat} (h : d < 10) : d.digitChar = digit d := by
  have : ∀ d : Fin 10, d.val.digitChar = digit d.val := by decide
  exact this ⟨d, h⟩

theorem toDigits_eq_digits (n : Nat) : Nat.toDigits 10 n = digits n := by
  induction n using Nat.strongRecOn with
  | ind n ih =>
      rw [digits]
      by_cases h : n < 10
      · rw [if_pos h, Nat.toDigits_of_lt_base h, digitChar_eq_digit h]
      · rw [if_neg h, Nat.toDigits_eq_if (by decide), if_neg h, ih (n / 10) (by omega),
          digitChar_eq_digit (Nat.mod_lt n (by decide))]

/-- Only zero is written with a zero in front. -/
theorem eq_zero_of_head?_digits {n : Nat} (h : (digits n).head? = some '0') : digits n = ['0'] := by
  induction n using Nat.strongRecOn with
  | ind n ih =>
      rw [digits] at h ⊢
      by_cases hn : n < 10
      · rw [if_pos hn] at h ⊢
        exact congrArg (fun c => [c]) (Option.some.inj h)
      · -- what stands before the last digit is a number above zero
        rw [if_neg hn, List.head?_append, Option.or_of_isSome (by
          rw [List.isSome_head?]
          exact digits_ne_nil _)] at h
        have hzero := congrArg value (ih (n / 10) (by omega) h)
        rw [value_digits] at hzero
        have : value ['0'] = 0 := by decide
        omega

/-- No number has the digits of another. -/
theorem digits_inj {m n : Nat} (h : digits m = digits n) : m = n := by
  rw [← value_digits m, h, value_digits]

/-- The text of a number. -/
theorem toList_toString (n : Nat) : (toString n).toList = digits n := by
  rw [Nat.toString_eq_repr, Nat.toList_repr, toDigits_eq_digits]

/-- No number has the text of another. -/
theorem toString_inj {m n : Nat} (h : toString m = toString n) : m = n := by
  have h := congrArg String.toList h
  rw [toList_toString, toList_toString] at h
  exact digits_inj h

/-- A numeral within the limit reads back. -/
theorem natural?_digits {limit n : Nat} (h : n ≤ limit) : natural? limit (digits n) = some n := by
  have hall : (digits n).all isDigit = true :=
    List.all_eq_true.2 isDigit_of_mem_digits
  have hsign : ∀ rest, digits n ≠ '+' :: rest := by
    intro rest hrest
    have := isDigit_of_mem_digits (n := n) '+' (by rw [hrest]; simp)
    exact absurd this (by decide)
  rw [natural?]
  · simp [hall, digits_ne_nil, h]
  · exact hsign

/-- The text of a 64-bit number reads back. -/
theorem natural?_toString (v : UInt64) : natural? max64 (toString v).toList = some v.toNat := by
  rw [show toString v = toString v.toNat from rfl, toList_toString]
  have := v.toNat_lt
  exact natural?_digits (by simp only [max64, UInt64.size]; omega)

end MeshSync.Decimal
