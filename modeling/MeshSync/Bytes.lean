/-! # Bytes

    Byte strings as lists, and UTF-8 between them and texts.  Reading goes
    character by character; where bytes start no character, the longest run
    of them that could have started one counts as one failure.  `text?` is
    strict and `lossyText` puts the replacement character in place of every
    failure. -/

namespace MeshSync

/-- A byte string. -/
abbrev Bytes := List UInt8

namespace Bytes

/-- A byte as two hexadecimal digits. -/
def hexByte (b : UInt8) : List Char :=
  let digit (n : Nat) := if n < 10 then Char.ofNat (48 + n) else Char.ofNat (87 + n)
  [digit (b.toNat / 16), digit (b.toNat % 16)]

/-- The bytes in hexadecimal digits. -/
def hex (bs : Bytes) : String := String.ofList (bs.flatMap hexByte)

/-! ## UTF-8 -/

/-- The UTF-8 form of a character. -/
def ofChar (c : Char) : Bytes :=
  let n := c.toNat
  if n < 0x80 then [UInt8.ofNat n]
  else if n < 0x800 then [UInt8.ofNat (0xC0 + n / 64), UInt8.ofNat (0x80 + n % 64)]
  else if n < 0x10000 then
    [UInt8.ofNat (0xE0 + n / 4096), UInt8.ofNat (0x80 + n / 64 % 64), UInt8.ofNat (0x80 + n % 64)]
  else
    [UInt8.ofNat (0xF0 + n / 262144), UInt8.ofNat (0x80 + n / 4096 % 64),
      UInt8.ofNat (0x80 + n / 64 % 64), UInt8.ofNat (0x80 + n % 64)]

/-- The UTF-8 form of characters. -/
def ofChars (cs : List Char) : Bytes := cs.flatMap ofChar

/-- The UTF-8 form of a text. -/
def ofText (s : String) : Bytes := ofChars s.toList

/-- Whether a byte continues a character. -/
def isContinuation (b : UInt8) : Bool := 0x80 ≤ b && b ≤ 0xBF

/-- What the first byte of a character says: how many bytes follow it, which
    bytes may come second, and its bits. -/
def lead? (b : UInt8) : Option (Nat × UInt8 × UInt8 × Nat) :=
  let n := b.toNat
  if n < 0x80 then some (0, 0, 0, n)
  else if 0xC2 ≤ n && n ≤ 0xDF then some (1, 0x80, 0xBF, n % 0x20)
  else if n = 0xE0 then some (2, 0xA0, 0xBF, 0)
  else if n = 0xED then some (2, 0x80, 0x9F, 0xD)
  else if 0xE1 ≤ n && n ≤ 0xEF then some (2, 0x80, 0xBF, n % 0x10)
  else if n = 0xF0 then some (3, 0x90, 0xBF, 0)
  else if 0xF1 ≤ n && n ≤ 0xF3 then some (3, 0x80, 0xBF, n % 0x8)
  else if n = 0xF4 then some (3, 0x80, 0x8F, 4)
  else none

/-- Read one character after its first byte: the character, if it is complete,
    and how many further bytes it took. -/
def character (b : UInt8) (rest : Bytes) : Option Char × Nat :=
  match lead? b with
  | none => (none, 0)
  | some (0, _, _, bits) => (some (Char.ofNat bits), 0)
  | some (count + 1, low, high, bits) =>
    match rest with
    | [] => (none, 0)
    | second :: rest =>
      if low ≤ second && second ≤ high then
        let more := (rest.take count).takeWhile isContinuation
        let value := (second :: more).foldl (fun n c => n * 64 + c.toNat % 64) bits
        (if more.length = count then some (Char.ofNat value) else none, more.length + 1)
      else (none, 0)

/-- The characters and failures of the bytes, dropping so many bytes first that
    belong to the character before. -/
def charsAfter : Nat → Bytes → List (Option Char)
  | _, [] => []
  | skip + 1, _ :: rest => charsAfter skip rest
  | 0, b :: rest =>
    let (c, taken) := character b rest
    c :: charsAfter taken rest

/-- The characters of the bytes, if they are the UTF-8 form of some. -/
def chars? (bs : Bytes) : Option (List Char) := (charsAfter 0 bs).mapM id

/-- The text, if the bytes are its UTF-8 form. -/
def text? (bs : Bytes) : Option String := (chars? bs).map String.ofList

/-- The characters of bytes that need not be UTF-8. -/
def lossyChars (bs : Bytes) : List Char := (charsAfter 0 bs).map (·.getD '\uFFFD')

/-- The text of bytes that need not be UTF-8. -/
def lossyText (bs : Bytes) : String := String.ofList (lossyChars bs)

end Bytes

end MeshSync
