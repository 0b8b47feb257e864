/-! # Decimal numerals

    Natural numbers as decimal digits.  `value_digits` says that the digits
    written for a number read back as that number; `natural?` is the reader
    for numerals that come from outside, with its limit given by the caller. -/

namespace MeshSync.Decimal

/-- The character of a digit below ten. -/
def digit (d : Nat) : Char := Char.ofNat ('0'.toNat + d)

/-- Whether a character is an ASCII digit. -/
def isDigit (c : Char) : Bool := '0' ≤ c && c ≤ '9'

/-- What a digit is worth. -/
def weight (c : Char) : Nat := c.toNat - '0'.toNat

/-- The digits of a number, most significant first, without leading zeros. -/
def digits (n : Nat) : List Char :=
  if n < 10 then [digit n] else digits (n / 10) ++ [digit (n % 10)]

/-- The number that digits stand for, continuing from `start`. -/
def valueFrom (start : Nat) (cs : List Char) : Nat :=
  cs.foldl (fun n c => n * 10 + weight c) start

/-- The number that digits stand for. -/
def value (cs : List Char) : Nat := valueFrom 0 cs

/-- The numeral of a number. -/
def text (n : Nat) : String := String.ofList (digits n)

/-- The number that a whole text of digits stands for; a plus sign may stand
    in front and zeros may lead, and the number may not exceed `limit`. -/
def natural? (limit : Nat) (cs : List Char) : Option Nat :=
  let body := match cs with
    | '+' :: rest => rest
    | _ => cs
  if body.isEmpty || !body.all isDigit then none
  else
    let n := value body
    if n ≤ limit then some n else none

/-- The greatest 16-bit number. -/
def max16 : Nat := UInt16.size - 1

/-- The greatest 32-bit number. -/
def max32 : Nat := UInt32.size - 1

/-- The greatest 64-bit number. -/
def max64 : Nat := UInt64.size - 1

theorem isDigit_digit {d : Nat} (h : d < 10) : isDigit (digit d) = true := by
  have : ∀ d : Fin 10, isDigit (digit d.val) = true := by decide
  exact this ⟨d, h⟩

theorem weight_digit {d : Nat} (h : d < 10) : weight (digit d) = d := by
  have : ∀ d : Fin 10, weight (digit d.val) = d.val := by decide
  exact this ⟨d, h⟩

theorem digits_ne_nil (n : Nat) : digits n ≠ [] := by
  unfold digits
  split <;> simp

theorem isDigit_of_mem_digits {n : Nat} : ∀ c ∈ digits n, isDigit c = true := by
  induction n using Nat.strongRecOn with
  | ind n ih =>
    intro c hc
    unfold digits at hc
    split at hc
    · next h => rw [List.mem_singleton.1 hc]; exact isDigit_digit h
    · next h =>
      rcases List.mem_append.1 hc with hc | hc
      · exact ih (n / 10) (by omega) c hc
      · rw [List.mem_singleton.1 hc]; exact isDigit_digit (by omega)

@[simp] theorem value_digits (n : Nat) : value (digits n) = n := by
  induction n using Nat.strongRecOn with
  | ind n ih =>
    unfold digits
    split
    · next h => simp [value, valueFrom, weight_digit h]
    · next h =>
      have := ih (n / 10) (by omega)
      simp only [value, valueFrom] at this
      simp only [value, valueFrom, List.foldl_append, this, List.foldl_cons, List.foldl_nil]
      rw [weight_digit (by omega)]
      omega

end MeshSync.Decimal
