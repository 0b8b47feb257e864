import MeshSync.Bytes
import MeshSync.Text.Composed
import MeshSync.Text.Search
import MeshSync.Url.Direction
import MeshSync.Url.Joining
import MeshSync.Url.Mapping
import MeshSync.Url.Punycode

/-! # Domain names

    The names of hosts on the web, in any script.  Its characters become what
    they stand for, what is the same is written in one form, and what may not
    stand in a name refuses it.  A label that carries the mark of an encoded one
    has to decode to characters that could have been written themselves. -/

namespace MeshSync.Url.Domain

/-- ASCII characters that may not stand in the name of a host. -/
def isDenied (c : Char) : Bool :=
  c.toNat ≤ 0x20 || c.toNat = 0x7F || "%#/:<>?@[\\]^|".toList.contains c

/-- The name that characters spell, in its one form. -/
def normal? (cs : List Char) : Option (List Char) := do
  let name := Text.composed (← cs.mapM mapped).flatten
  if name.any isDenied then none else some name

/-- Whether characters are written in the one form of a name, with nothing that
    vanishes from it. -/
def isNormal (cs : List Char) : Bool :=
  cs.all (fun c => mapped c = some [c]) && Text.composed cs = cs

/-- The greatest length of a label with characters beyond ASCII. -/
def maxLabel : Nat := 1000

/-- The greatest length of an encoded label without its mark. -/
def maxEncoded : Nat := 2000

/-- Whether a label in its own characters may stand in a name: it does not begin
    with a mark, its joiners stand where they may, and it is not too long. -/
def isLabel (cs : List Char) : Bool :=
  !(cs.head?.any fun c => Text.inRanges Text.attached c || Text.inRanges Text.spacing c) &&
    Joining.areAllowed [] cs && (cs.all (·.toNat < 0x80) || cs.length ≤ maxLabel)

/-- The mark of an encoded label. -/
def mark : List Char := "xn--".toList

/-- The characters that an encoded label without its mark stands for. -/
def decoded? (encoded : List Char) : Option (List Char) :=
  if encoded.getLast?.all (· = '-') || maxEncoded < encoded.length ||
      encoded.any (fun c => 0x80 ≤ c.toNat) then none
  else (Punycode.decode? encoded).filter isNormal

/-- The characters of a label, encoded or not, if it may stand in a name. -/
def label? (cs : List Char) : Option (List Char) :=
  (match Text.afterChars? mark cs with
    | none => some cs
    | some encoded => decoded? encoded).filter isLabel

/-- Whether labels in their own characters keep to their directions. -/
def keepDirections (labels : List (List Char)) : Bool :=
  let directions := labels.map (·.map Direction.of)
  !directions.any (·.any Direction.isMixing) || directions.all Direction.keepToOne

/-- The name that bytes spell, if they may. -/
def ofBytes? (bytes : Bytes) : Option (List Char) := do
  let name ← normal? (← Bytes.chars? bytes)
  let labels ← (Text.splitChars (· = '.') name).mapM label?
  if keepDirections labels then some name else none

end MeshSync.Url.Domain
