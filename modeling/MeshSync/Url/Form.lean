import MeshSync.Text.Search
import MeshSync.Url.Percent

/-! # Form encoding

    Names with values as a query carries them: pairs joined by ampersands, a
    space written as a plus sign, and every byte that is not a letter, a digit
    or one of four marks percent-encoded. -/

namespace MeshSync.Url.Form

/-- Whether a byte stands for itself. -/
def isPlain (b : UInt8) : Bool :=
  let n := b.toNat
  (48 ≤ n && n ≤ 57) || (65 ≤ n && n ≤ 90) || (97 ≤ n && n ≤ 122) ||
    n = 42 || n = 45 || n = 46 || n = 95

/-- A byte of a name or value. -/
def encodeByte (b : UInt8) : List Char :=
  if isPlain b then [Char.ofNat b.toNat] else if b = 32 then ['+'] else Url.encodeByte b

/-- A name or value. -/
def encode (cs : List Char) : List Char := (Bytes.ofChars cs).flatMap encodeByte

/-- A pair. -/
def pair (name value : String) : List Char := encode name.toList ++ '=' :: encode value.toList

/-- Put a pair behind a query. -/
def append (query : List Char) (name value : String) : List Char :=
  if query.isEmpty then pair name value else query ++ '&' :: pair name value

/-- The text of a name or value; bytes that are not UTF-8 are replaced. -/
def decode (cs : List Char) : String :=
  Bytes.lossyText (Url.decode ((Bytes.ofChars cs).map fun b => if b = 43 then 32 else b))

/-- The pairs of a query, in order. -/
def pairs (query : List Char) : List (String × String) :=
  ((Text.splitChars (· = '&') query).filter (!·.isEmpty)).map fun part =>
    let (name, value) := Text.cut (· = '=') part
    (decode name, decode (value.getD []))

end MeshSync.Url.Form
