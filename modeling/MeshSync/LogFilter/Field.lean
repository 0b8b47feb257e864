import MeshSync.Binary64
import MeshSync.LogFilter.Pattern

/-! # Fields of directives

    What the fields of a message have to be for a directive to apply: there, or
    of a certain value.  A value is a truth value, a number, or a pattern for
    the text of the field. -/

namespace MeshSync.LogFilter

/-- What a field has to be. -/
inductive Value where
  | truth (b : Bool)
  | integer (n : Int)
  /-- A finite number with a fraction or an exponent, by its bits. -/
  | real (bits : UInt64)
  | infinite (negative : Bool)
  | notANumber
  | pattern (text : String)
  deriving DecidableEq, Inhabited

namespace Value

/-- The digits in front and what follows them. -/
def digits (cs : List Char) : List Char × List Char := cs.span Decimal.isDigit

/-- The exponent behind its letter. -/
def exponent? (cs : List Char) : Option Int :=
  let (negative, cs) := match cs with
    | '-' :: rest => (true, rest)
    | '+' :: rest => (false, rest)
    | _ => (false, cs)
  if cs.isEmpty || !cs.all Decimal.isDigit then none
  else some (if negative then -(Decimal.value cs : Int) else Decimal.value cs)

/-- The number that is nearest to `n · 10^e`. -/
def scaled (negative : Bool) (n : Nat) (e : Int) : Value :=
  let length : Int := (Decimal.digits n).length
  if n = 0 || length + e < -400 then real (if negative then (-0.0 : Float) else 0.0).toBits
  else if 400 < length + e then infinite negative
  else
    let f := Float.ofScientific n (e < 0) e.natAbs
    if f.isInf then infinite negative else real (if negative then -f else f).toBits

/-- A number that may have a point and an exponent, without its sign. -/
def real? (negative : Bool) (cs : List Char) : Option Value :=
  let (whole, rest) := digits cs
  let (fraction, rest) := match rest with
    | '.' :: rest => digits rest
    | _ => ([], rest)
  if whole.isEmpty && fraction.isEmpty then none
  else
    let power : Option Int := match rest with
      | [] => some 0
      | 'e' :: rest => exponent? rest
      | 'E' :: rest => exponent? rest
      | _ => none
    power.map fun e => scaled negative (Decimal.value (whole ++ fraction)) (e - fraction.length)

/-- A number of any kind. -/
def number? (cs : List Char) : Option Value :=
  let (negative, body) := match cs with
    | '-' :: rest => (true, rest)
    | '+' :: rest => (false, rest)
    | _ => (false, cs)
  let isInteger := !body.isEmpty && body.all Decimal.isDigit
  let n := Decimal.value body
  if isInteger && !negative && n ≤ Decimal.max64 then some (integer n)
  else if isInteger && negative && n ≤ Nat.pow 2 63 then some (integer (-n))
  else
    let word := body.map Text.lowerAscii
    if word = "inf".toList || word = "infinity".toList then some (infinite negative)
    else if word = "nan".toList then some notANumber
    else real? negative body

/-- The value that a text asks for. -/
def ofText? (cs : List Char) : Option Value :=
  if cs = "true".toList then some (truth true)
  else if cs = "false".toList then some (truth false)
  else
    match number? cs with
    | some v => some v
    | none => if Pattern.isPattern cs then some (pattern (String.ofList cs)) else none

/-- The text of a value. -/
def text : Value → String
  | truth b => toString b
  | integer n => if n < 0 then s!"-{Decimal.text n.natAbs}" else Decimal.text n.natAbs
  | real bits => String.ofList (Binary64.positional bits).chars
  | infinite negative => if negative then "-inf" else "inf"
  | notANumber => "NaN"
  | pattern text => text

end Value

/-- A field and what it has to be, if it is not enough that it is there. -/
structure Field where
  name : String
  value : Option Value
  deriving DecidableEq, Inhabited

namespace Field

/-- The field that a text asks for: its name, and behind an equals sign its
    value.  What follows a second one does not matter. -/
def ofText? (cs : List Char) : Option Field :=
  match Text.cut (· = '=') cs with
  | (name, none) => some ⟨String.ofList name, none⟩
  | (name, some rest) =>
    (Value.ofText? (Text.cut (· = '=') rest).1).map fun v => ⟨String.ofList name, some v⟩

/-- The text of a field. -/
def text (f : Field) : String :=
  match f.value with
  | none => f.name
  | some v => s!"{f.name}={v.text}"

end Field

end MeshSync.LogFilter
