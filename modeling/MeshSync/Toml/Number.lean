import MeshSync.Toml.Text
import MeshSync.Toml.Value

/-! # Numbers and moments of TOML

    A single underscore may stand between two digits of a number.  Integers
    have 64 bits with their sign, and a positive number must not be too great
    for 64-bit floating point. -/

namespace MeshSync.Toml

/-! ## Digits -/

/-- The digits at the front, without the underscores between them, and what
    follows. -/
def digits (isDigit : Char → Bool) : List Char → List Char × List Char
  | c :: '_' :: d :: rest =>
    if isDigit c && isDigit d then
      let (ds, rest) := digits isDigit (d :: rest)
      (c :: ds, rest)
    else if isDigit c then ([c], '_' :: d :: rest)
    else ([], c :: '_' :: d :: rest)
  | c :: rest =>
    if isDigit c then
      let (ds, rest) := digits isDigit rest
      (c :: ds, rest)
    else ([], c :: rest)
  | [] => ([], [])

/-- The digits at the front, of which there is one at least, and what follows. -/
def digits? (isDigit : Char → Bool) (cs : List Char) : Option (List Char × List Char) :=
  match digits isDigit cs with
  | ([], _) => none
  | reading => some reading

/-- The digits of a whole number, with no zero in front, and what follows. -/
def whole? : List Char → Option (List Char × List Char)
  | '0' :: rest => some (['0'], rest)
  | cs => digits? Decimal.isDigit cs

/-- A sign, negative or not, if there is one, and what follows. -/
def sign : List Char → Bool × List Char
  | '-' :: rest => (true, rest)
  | '+' :: rest => (false, rest)
  | cs => (false, cs)

/-! ## Integers -/

/-- The integer, if it has 64 bits. -/
def word? (n : Int) : Option Int :=
  if -(Nat.pow 2 63 : Nat) ≤ n && n < (Nat.pow 2 63 : Nat) then some n else none

/-- An integer with a base, and what follows. -/
def based? (base : Nat) (cs : List Char) : Option (Value × List Char) := do
  let (ds, rest) ← digits? (fun c => (Net.hexDigit? c).any (· < base)) cs
  let n := (ds.filterMap Net.hexDigit?).foldl (fun n d => n * base + d) 0
  return (.integer (← word? n), rest)

/-! ## Reals -/

/-- The part of a number behind its point, and what follows. -/
def fraction? : List Char → Option (List Char × List Char)
  | '.' :: rest => digits? Decimal.isDigit rest
  | _ => none

/-- The exponent of a number, and what follows. -/
def exponent? : List Char → Option ((Bool × List Char) × List Char)
  | c :: rest =>
    if c = 'e' || c = 'E' then
      let (negative, rest) := sign rest
      (digits? Decimal.isDigit rest).map fun (ds, rest) => ((negative, ds), rest)
    else none
  | [] => none

/-- The least number that is too great for 64-bit floating point: half a unit
    above the greatest. -/
def tooGreat : Nat := Nat.pow 2 1024 - Nat.pow 2 970

/-- Whether the size of a number is too great.  Numbers of more than 310 places
    are, and those of less than 300 are not, without a look at their digits. -/
def isTooGreat (n : Numeral) : Bool :=
  let ds := (n.whole ++ n.fraction).dropWhile (· = '0')
  let power := n.power - n.fraction.length
  let places := ds.length + power
  if ds.isEmpty || places < 300 then false
  else if places > 310 then true
  else if power < 0 then tooGreat * Nat.pow 10 (-power).toNat ≤ Decimal.value ds
  else tooGreat ≤ Decimal.value ds * Nat.pow 10 power.toNat

/-- A number in decimal: a real if it has a fraction or an exponent. -/
def decimal? (cs : List Char) : Option (Value × List Char) := do
  let (negative, rest) := sign cs
  let (whole, rest) ← whole? rest
  let (fraction, rest) := (fraction? rest).getD ([], rest)
  let (exponent, rest) := match exponent? rest with
    | some (e, rest) => (some e, rest)
    | none => (none, rest)
  let n : Numeral := ⟨negative, whole, fraction, exponent⟩
  if n.isInteger then
    let size : Int := Decimal.value whole
    return (.integer (← word? (if negative then -size else size)), rest)
  else if isTooGreat n then
    if negative then return (.real (.infinite true), rest) else none
  else return (.real (.finite n), rest)

/-- A number of any form, and what follows. -/
def number? (cs : List Char) : Option (Value × List Char) :=
  match cs with
  | '0' :: 'x' :: rest => based? 16 rest
  | '0' :: 'o' :: rest => based? 8 rest
  | '0' :: 'b' :: rest => based? 2 rest
  | cs =>
    match sign cs with
    | (negative, 'i' :: 'n' :: 'f' :: rest) => some (.real (.infinite negative), rest)
    | (_, 'n' :: 'a' :: 'n' :: rest) => some (.real .undefined, rest)
    | _ => decimal? cs

/-! ## Moments -/

/-- A number of so many digits within bounds, and what follows. -/
def field? (places low high : Nat) (cs : List Char) : Option (Nat × List Char) :=
  let ds := cs.take places
  let n := Decimal.value ds
  if ds.length = places && ds.all Decimal.isDigit && low ≤ n && n ≤ high then
    some (n, cs.drop places)
  else none

/-- What follows a character that has to come first. -/
def mark? (c : Char) (cs : List Char) : Option (List Char) :=
  if cs.head? = some c then some (cs.drop 1) else none

/-- How many days a month has. -/
def daysIn (year month : Nat) : Nat :=
  if month = 2 then
    if year % 4 = 0 && (year % 100 ≠ 0 || year % 400 = 0) then 29 else 28
  else if [4, 6, 9, 11].contains month then 30
  else 31

/-- A day, and what follows. -/
def date? (cs : List Char) : Option (Date × List Char) := do
  let (year, rest) ← field? 4 0 9999 cs
  let (month, rest) ← field? 2 1 12 (← mark? '-' rest)
  let (day, rest) ← field? 2 1 (daysIn year month) (← mark? '-' rest)
  return (⟨year, month, day⟩, rest)

/-- A time of the day, and what follows. -/
def time? (cs : List Char) : Option (Time × List Char) := do
  let (hour, rest) ← field? 2 0 23 cs
  let (minute, rest) ← field? 2 0 59 (← mark? ':' rest)
  let (second, rest) ← field? 2 0 60 (← mark? ':' rest)
  let fraction := match rest with
    | '.' :: rest => rest.takeWhile Decimal.isDigit
    | _ => []
  return (⟨hour, minute, second, fraction⟩,
    if fraction.isEmpty then rest else rest.drop (fraction.length + 1))

/-- An offset, and what follows. -/
def offset? : List Char → Option (Offset × List Char)
  | 'Z' :: rest => some (.universal, rest)
  | 'z' :: rest => some (.universal, rest)
  | '+' :: rest => (clock rest).map fun (n, rest) => (.minutes n, rest)
  | '-' :: rest => (clock rest).map fun (n, rest) => (.minutes (-n), rest)
  | _ => none
where
  /-- Hours and minutes, together in minutes. -/
  clock (cs : List Char) : Option (Int × List Char) := do
    let (hour, rest) ← field? 2 0 23 cs
    let (minute, rest) ← field? 2 0 59 (← mark? ':' rest)
    return (hour * 60 + minute, rest)

/-- The time behind a day, if there is one, and what follows. -/
def timeOf? : List Char → Option (Time × Option Offset × List Char)
  | c :: rest =>
    if c = 'T' || c = 't' || c = ' ' then
      (time? rest).map fun (time, rest) =>
        match offset? rest with
        | some (offset, rest) => (time, some offset, rest)
        | none => (time, none, rest)
    else none
  | [] => none

/-- A moment, and what follows. -/
def moment? (cs : List Char) : Option (Moment × List Char) :=
  match date? cs with
  | some (date, rest) =>
    match timeOf? rest with
    | some (time, offset, rest) => some (.both date time offset, rest)
    | none => some (.day date, rest)
  | none => (time? cs).map fun (time, rest) => (.time time, rest)

end MeshSync.Toml
