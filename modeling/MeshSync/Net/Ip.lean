import MeshSync.Decimal
import MeshSync.Text.Search

/-! # Internet addresses

    The two written forms of an address: four decimal bytes with dots between
    them, and eight groups of hexadecimal digits with colons between them, of
    which one gap may be left out. -/

namespace MeshSync.Net

/-! ## Four bytes -/

/-- A byte in decimal digits, without a leading zero. -/
def octet? (cs : List Char) : Option UInt8 :=
  if cs.isEmpty || !cs.all Decimal.isDigit || (cs.head? = some '0' && cs ≠ ['0']) then none
  else
    let n := Decimal.value cs
    if n ≤ 255 then some (UInt8.ofNat n) else none

/-- An address of four bytes. -/
def ipv4? (cs : List Char) : Option (List UInt8) :=
  match (Text.splitChars (· = '.') cs).mapM octet? with
  | some bytes => if bytes.length = 4 then some bytes else none
  | none => none

/-! ## Eight groups -/

/-- What a hexadecimal digit is worth. -/
def hexDigit? (c : Char) : Option Nat :=
  if '0' ≤ c && c ≤ '9' then some (c.toNat - '0'.toNat)
  else if 'a' ≤ c && c ≤ 'f' then some (c.toNat - 'a'.toNat + 10)
  else if 'A' ≤ c && c ≤ 'F' then some (c.toNat - 'A'.toNat + 10)
  else none

/-- A group of one to four hexadecimal digits. -/
def group? (cs : List Char) : Option UInt16 :=
  if cs.isEmpty || 4 < cs.length then none
  else (cs.mapM hexDigit?).map fun ds => UInt16.ofNat (ds.foldl (fun n d => n * 16 + d) 0)

/-- Two bytes as a group. -/
def pairGroup (a b : UInt8) : UInt16 := UInt16.ofNat (a.toNat * 256 + b.toNat)

/-- The groups of parts; the last part may be an address of four bytes, which
    counts as two groups, where `dotted` allows it. -/
def groups? (dotted : Bool) : List (List Char) → Option (List UInt16)
  | [] => some []
  | [last] =>
    match group? last, ipv4? last with
    | some g, _ => some [g]
    | none, some [a, b, c, d] => if dotted then some [pairGroup a b, pairGroup c d] else none
    | none, _ => none
  | part :: parts => do
    let g ← group? part
    let gs ← groups? dotted parts
    return g :: gs

/-- The groups of a text that may be empty. -/
def sideGroups? (dotted : Bool) (cs : List Char) : Option (List UInt16) :=
  if cs.isEmpty then some [] else groups? dotted (Text.splitChars (· = ':') cs)

/-- What stands before and after the first gap. -/
def cutGap : List Char → Option (List Char × List Char)
  | ':' :: ':' :: rest => some ([], rest)
  | c :: rest => (cutGap rest).map fun (before, after) => (c :: before, after)
  | [] => none

/-- An address of eight groups; a gap stands for at least one group. -/
def ipv6? (cs : List Char) : Option (List UInt16) :=
  match cutGap cs with
  | none => do
    let gs ← sideGroups? true cs
    if gs.length = 8 then some gs else none
  | some (before, after) => do
    let front ← sideGroups? false before
    let back ← sideGroups? true after
    let given := front.length + back.length
    if given ≤ 7 then some (front ++ List.replicate (8 - given) 0 ++ back) else none

end MeshSync.Net
