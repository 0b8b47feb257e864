import MeshSync.Bytes

/-! # Base64

    The standard alphabet.  Blanks are skipped on reading; the last group may
    be padded or not, and the bits that a short group leaves over are not
    looked at. -/

namespace MeshSync.Base64

/-- The six bits of a character of the alphabet. -/
def sextet? (b : UInt8) : Option Nat :=
  let n := b.toNat
  if 65 ≤ n && n ≤ 90 then some (n - 65)
  else if 97 ≤ n && n ≤ 122 then some (n - 97 + 26)
  else if 48 ≤ n && n ≤ 57 then some (n - 48 + 52)
  else if n = 43 then some 62
  else if n = 47 then some 63
  else none

/-- The character for six bits. -/
def letter (n : Nat) : Char :=
  if n < 26 then Char.ofNat (65 + n)
  else if n < 52 then Char.ofNat (97 + (n - 26))
  else if n < 62 then Char.ofNat (48 + (n - 52))
  else if n = 62 then '+'
  else '/'

/-- The padding character. -/
def pad : UInt8 := 61

/-- The bytes that may stand anywhere between the characters. -/
def isBlank (b : UInt8) : Bool := (9 ≤ b && b ≤ 13) || b == 32

/-- The first byte of a group. -/
def byte0 (a b : Nat) : UInt8 := UInt8.ofNat (a * 4 + b / 16)

/-- The second byte of a group. -/
def byte1 (b c : Nat) : UInt8 := UInt8.ofNat (b * 16 + c / 4)

/-- The third byte of a group. -/
def byte2 (c d : Nat) : UInt8 := UInt8.ofNat (c * 64 + d)

/-- The bytes of a last group of two characters. -/
def pair? (a b : UInt8) : Option Bytes := do
  let a ← sextet? a
  let b ← sextet? b
  some [byte0 a b]

/-- The bytes of a last group of three characters. -/
def triple? (a b c : UInt8) : Option Bytes := do
  let a ← sextet? a
  let b ← sextet? b
  let c ← sextet? c
  some [byte0 a b, byte1 b c]

/-- The bytes of a full group. -/
def group? (a b c d : UInt8) : Option Bytes := do
  let a ← sextet? a
  let b ← sextet? b
  let c ← sextet? c
  let d ← sextet? d
  some [byte0 a b, byte1 b c, byte2 c d]

/-- The bytes that characters without blanks stand for. -/
def groups? : Bytes → Option Bytes
  | [] => some []
  | [a, b] => pair? a b
  | [a, b, c] => triple? a b c
  | [a, b, c, d] =>
    if d = pad then (if c = pad then pair? a b else triple? a b c) else group? a b c d
  | a :: b :: c :: d :: rest =>
    match group? a b c d, groups? rest with
    | some bytes, some more => some (bytes ++ more)
    | _, _ => none
  | _ => none

/-- The bytes that a text stands for. -/
def decode? (text : Bytes) : Option Bytes := groups? (text.filter fun b => !isBlank b)

/-- The padded text of bytes. -/
def encode : Bytes → List Char
  | [] => []
  | [x] =>
    let n := x.toNat
    [letter (n / 4), letter (n % 4 * 16), '=', '=']
  | [x, y] =>
    let n := x.toNat * 256 + y.toNat
    [letter (n / 1024), letter (n / 16 % 64), letter (n % 16 * 4), '=']
  | x :: y :: z :: rest =>
    let n := (x.toNat * 256 + y.toNat) * 256 + z.toNat
    letter (n / 262144) :: letter (n / 4096 % 64) :: letter (n / 64 % 64) :: letter (n % 64) ::
      encode rest

end MeshSync.Base64
