import MeshSync.Numeral

/-! # Binary64 numerals

    How a numeral with a fraction or an exponent becomes a binary64 value, and
    how such a value is written.  Reading is by scaling: as many leading digits
    as fit 64 bits are converted, and the result is scaled by a power of ten,
    each step rounded to nearest.  Writing finds the fewest digits that read
    back: of the decimal grids with 1, 2, … 17 digits the first one with a
    point in the interval of the value decides, and of two such points the
    nearer one.  The search is exact arithmetic on natural numbers. -/

namespace MeshSync.Binary64

/-! ## Reading -/

/-- Append digits to a number while the result fits 64 bits; the count of the
    digits left over comes with it. -/
def appendDigits (n : Nat) : List Char → Nat × Nat
  | [] => (n, 0)
  | c :: cs =>
    let next := n * 10 + Decimal.weight c
    if next ≤ Decimal.max64 then appendDigits next cs else (n, cs.length + 1)

/-- `f / 10^e`, in steps of at most 308 decimal places. -/
def scaleDown (f : Float) (e : Nat) : Float :=
  if e ≤ 308 then f / Float.ofScientific 1 false e
  else if f == 0 then f
  else scaleDown (f / Float.ofScientific 1 false 308) (e - 308)
termination_by e

/-- `significand · 10^exponent`, unless it is too great to be finite. -/
def scale (significand : Nat) (exponent : Int) : Option Float :=
  let f := significand.toUInt64.toFloat
  match exponent with
  | .ofNat e =>
    if f == 0 then some f
    else if e ≤ 308 then
      let g := f * Float.ofScientific 1 false e
      if g.isInf then none else some g
    else none
  | .negSucc e => some (scaleDown f (e + 1))

/-- The value of a numeral; none where it is too great to be finite. -/
def ofNumeral? (n : Numeral) : Option UInt64 :=
  let (kept, wholeLeft) := appendDigits 0 n.whole
  let (kept, fractionLeft) := appendDigits kept n.fraction
  let places : Int := (wholeLeft : Int) - (n.fraction.length - fractionLeft : Nat)
  (scale kept (places + n.power)).map fun f => (if n.negative then -f else f).toBits

/-! ## Writing -/

/-- A finite value `m · 2^q`, with `isolated` set where the next value below
    is nearer than the next one above. -/
structure Parts where
  m : Nat
  q : Int
  isolated : Bool

/-- The parts of the magnitude of a finite value. -/
def parts (bits : UInt64) : Parts :=
  let fraction : Nat := bits.toNat % Nat.pow 2 52
  let exponent : Nat := bits.toNat / Nat.pow 2 52 % Nat.pow 2 11
  if exponent = 0 then ⟨fraction, -1074, false⟩
  else ⟨Nat.pow 2 52 + fraction, (exponent : Int) - 1075, fraction == 0 && exponent != 1⟩

/-- Numerator and denominator of `m · 2^q / 10^k`. -/
def ratio (p : Parts) (k : Int) : Nat × Nat :=
  (p.m * Nat.pow 2 p.q.toNat * Nat.pow 10 (-k).toNat, Nat.pow 2 (-p.q).toNat * Nat.pow 10 k.toNat)

/-- Whether `c · 10^k` rounds to the value; an end of the interval does so
    where `m` is even. -/
def reads (p : Parts) (k : Int) (c : Nat) : Bool :=
  let (num, den) := ratio p k
  let low := (if p.isolated then 4 * p.m - 1 else 4 * p.m - 2) * num
  let high := (4 * p.m + 2) * num
  let x := 4 * c * den * p.m
  if p.m % 2 = 0 then low ≤ x && x ≤ high else low < x && x < high

/-- The exponent of the leading digit. -/
def leading (p : Parts) : Int :=
  let reaches (e : Int) : Bool := let (num, den) := ratio p e; den ≤ num
  match (List.range 634).find? fun (i : Nat) => reaches (309 - (i : Int)) with
  | some i => 309 - (i : Int)
  | none => -325

/-- The point nearest to the value on the grid with spacing `10^k`, if it
    reads back. -/
def nearest? (p : Parts) (k : Int) : Option Nat :=
  let (num, den) := ratio p k
  let c := num / den
  let below := num - c * den
  let above := (c + 1) * den - num
  match reads p k c, reads p k (c + 1) with
  | false, false => none
  | true, false => some c
  | false, true => some (c + 1)
  | true, true => some (if below < above || (below == above && c % 2 == 0) then c else c + 1)

/-- The fewest digits that read back, and the exponent they are scaled by. -/
def shortest (p : Parts) : Nat × Int :=
  let top := leading p
  match (List.range 17).findSome? fun (i : Nat) =>
      let k := top - (i : Int)
      (nearest? p k).map (·, k) with
  | some found => found
  | none => (p.m, 0)

/-- Take zeros off the end of a number's digits. -/
def strip (digits : List Char) (k : Int) : List Char × Int :=
  let zeros := (digits.reverse.takeWhile (· == '0')).length
  (digits.take (digits.length - zeros), k + zeros)

/-- The numeral of a finite value: positional from `10^-5` up to `10^16`, with
    at least one digit after the point, and with an exponent elsewhere. -/
def numeral (bits : UInt64) : Numeral :=
  let negative := bits.toNat / Nat.pow 2 63 == 1
  let p := parts bits
  if p.m = 0 then ⟨negative, ['0'], ['0'], none⟩
  else
    let (c, k) := shortest p
    let (ds, k) := strip (Decimal.digits c) k
    let point := (ds.length : Int) + k
    let zeros (n : Int) := List.replicate n.toNat '0'
    if 0 ≤ k && point ≤ 16 then ⟨negative, ds ++ zeros k, ['0'], none⟩
    else if 0 < point && point ≤ 16 then
      ⟨negative, ds.take point.toNat, ds.drop point.toNat, none⟩
    else if -5 < point && point ≤ 0 then ⟨negative, ['0'], zeros (-point) ++ ds, none⟩
    else
      let e := point - 1
      ⟨negative, ds.take 1, ds.drop 1, some (e < 0, Decimal.digits e.natAbs)⟩

/-- The numeral of a finite value without an exponent, and without a point where
    it is a whole number. -/
def positional (bits : UInt64) : Numeral :=
  let negative := bits.toNat / Nat.pow 2 63 == 1
  let p := parts bits
  if p.m = 0 then ⟨negative, ['0'], [], none⟩
  else
    let (c, k) := shortest p
    let (ds, k) := strip (Decimal.digits c) k
    let point := (ds.length : Int) + k
    let zeros (n : Int) := List.replicate n.toNat '0'
    if 0 ≤ k then ⟨negative, ds ++ zeros k, [], none⟩
    else if 0 < point then ⟨negative, ds.take point.toNat, ds.drop point.toNat, none⟩
    else ⟨negative, ['0'], zeros (-point) ++ ds, none⟩

end MeshSync.Binary64
