import MeshSync.Decimal

/-! # Punycode

    The ASCII form of a label with other characters: its ASCII characters,
    then how far apart the others are inserted, as numbers with digits whose
    weights adapt to the label. -/

namespace MeshSync.Url.Punycode

/-- How many digits there are. -/
def base : Nat := 36

/-- The least threshold. -/
def tMin : Nat := 1

/-- The greatest threshold. -/
def tMax : Nat := 26

/-- The bias at the start. -/
def initialBias : Nat := 72

/-- The first character that is not ASCII. -/
def initialChar : Nat := 0x80

/-- The greatest number that is accounted for. -/
def limit : Nat := UInt32.size - 1

/-- What a digit is worth. -/
def digit? (c : Char) : Option Nat :=
  if 'a' ≤ c && c ≤ 'z' then some (c.toNat - 'a'.toNat)
  else if 'A' ≤ c && c ≤ 'Z' then some (c.toNat - 'A'.toNat)
  else if '0' ≤ c && c ≤ '9' then some (c.toNat - '0'.toNat + 26)
  else none

/-- The loop that halves a distance until the thresholds cover it. -/
def settle (delta k : Nat) : Nat × Nat :=
  if (base - tMin) * tMax / 2 < delta then settle (delta / (base - tMin)) (k + base) else (delta, k)
termination_by delta
decreasing_by
  simp only [base, tMin, tMax] at *
  omega

/-- The bias after a distance. -/
def adapt (delta count : Nat) (first : Bool) : Nat :=
  let delta := if first then delta / 700 else delta / 2
  let (delta, k) := settle (delta + delta / count) 0
  k + (base - tMin + 1) * delta / (delta + 38)

/-- The threshold of the digit at place `k`. -/
def threshold (k bias : Nat) : Nat :=
  if k ≤ bias then tMin else if bias + tMax ≤ k then tMax else k - bias

/-- A distance: its digits from place `k` on, of which the next is worth
    `weight`, added to `i`. -/
def distance? (bias : Nat) : Nat → Nat → Nat → List Char → Option (Nat × List Char)
  | _, _, _, [] => none
  | i, weight, k, c :: rest =>
    match digit? c with
    | none => none
    | some d =>
      let i := i + d * weight
      let t := threshold k bias
      if limit < i then none
      else if d < t then some (i, rest)
      else
        let weight := weight * (base - t)
        if limit < weight then none else distance? bias i weight (k + base) rest

/-- Insert an element at a place. -/
def insertAt (l : List Char) (n : Nat) (c : Char) : List Char := l.take n ++ c :: l.drop n

/-- Insert the characters that distances describe. -/
def insertions? : Nat → Nat → Nat → Nat → List Char → List Char → Option (List Char)
  | 0, _, _, _, _, _ => none
  | _ + 1, _, _, _, out, [] => some out
  | fuel + 1, i, n, bias, out, cs =>
    match distance? bias i 1 base cs with
    | none => none
    | some (j, rest) =>
      let count := out.length + 1
      let n := n + j / count
      let place := j % count
      if n < 0xD800 || (0xE000 ≤ n && n < 0x110000) then
        insertions? fuel (place + 1) n (adapt (j - i) count (i = 0))
          (insertAt out place (Char.ofNat n)) rest
      else none

/-- The characters that a label without its mark stands for.  The hyphen behind
    its ASCII characters has to have one before it. -/
def decode? (cs : List Char) : Option (List Char) :=
  let tail := (cs.reverse.takeWhile (· ≠ '-')).reverse
  let plain := cs.take (cs.length - tail.length - 1)
  if tail.length < cs.length && plain.isEmpty then none
  else insertions? (cs.length + 1) 0 initialChar initialBias plain tail

end MeshSync.Url.Punycode
