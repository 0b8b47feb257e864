import MeshSync.Bytes

/-! # Percent-encoding

    A byte of a URL written as a percent sign and two hexadecimal digits.  The
    sets say which ASCII characters are written that way in which part of a
    URL; all other characters are so written everywhere. -/

namespace MeshSync.Url

/-- A set of ASCII characters to be encoded. -/
abbrev EncodeSet := Char → Bool

/-- Controls. -/
def EncodeSet.controls : EncodeSet := fun c => c.toNat < 0x20 || c.toNat = 0x7F

/-- What a fragment encodes. -/
def EncodeSet.fragment : EncodeSet := fun c =>
  controls c || c = ' ' || c = '"' || c = '<' || c = '>' || c = '\x60'

/-- What a path encodes. -/
def EncodeSet.path : EncodeSet := fun c =>
  fragment c || c = '#' || c = '?' || c = '{' || c = '}'

/-- What a user name or password encodes. -/
def EncodeSet.userinfo : EncodeSet := fun c =>
  path c || c = '/' || c = ':' || c = ';' || c = '=' || c = '@' || c = '[' || c = '\\' ||
    c = ']' || c = '^' || c = '|'

/-- What a query encodes. -/
def EncodeSet.query : EncodeSet := fun c =>
  controls c || c = ' ' || c = '"' || c = '#' || c = '<' || c = '>'

/-- What a query encodes in a URL for the web. -/
def EncodeSet.specialQuery : EncodeSet := fun c => query c || c = '\''

/-- A hexadecimal digit, in upper case. -/
def upperHex (n : Nat) : Char :=
  if n < 10 then Char.ofNat ('0'.toNat + n) else Char.ofNat ('A'.toNat + (n - 10))

/-- What a hexadecimal digit is worth. -/
def hexWeight? (b : UInt8) : Option Nat :=
  let n := b.toNat
  if 48 ≤ n && n ≤ 57 then some (n - 48)
  else if 65 ≤ n && n ≤ 70 then some (n - 55)
  else if 97 ≤ n && n ≤ 102 then some (n - 87)
  else none

/-- An encoded byte. -/
def encodeByte (b : UInt8) : List Char :=
  ['%', upperHex (b.toNat / 16), upperHex (b.toNat % 16)]

/-- A character, encoded where the set asks for it. -/
def encodeChar (set : EncodeSet) (c : Char) : List Char :=
  if 0x80 ≤ c.toNat || set c then (Bytes.ofChar c).flatMap encodeByte else [c]

/-- Characters, encoded where the set asks for it. -/
def encode (set : EncodeSet) (cs : List Char) : List Char := cs.flatMap (encodeChar set)

/-- Bytes with their encoded ones decoded; a percent sign that two digits do
    not follow stands for itself. -/
def decode : Bytes → Bytes
  | 37 :: a :: b :: rest =>
    match hexWeight? a, hexWeight? b with
    | some x, some y => UInt8.ofNat (x * 16 + y) :: decode rest
    | _, _ => 37 :: decode (a :: b :: rest)
  | b :: rest => b :: decode rest
  | [] => []

end MeshSync.Url
