import MeshSync.Net.Ip

/-! # Socket addresses

    An address with a port: `a.b.c.d:port`, or an address of eight groups in
    brackets, with a numeric scope behind a percent sign if it has one. -/

namespace MeshSync.Net

/-- A number in decimal digits, with any leading zeros, up to a limit. -/
def numeral? (limit : Nat) (cs : List Char) : Option Nat :=
  if cs.isEmpty || !cs.all Decimal.isDigit then none
  else
    let n := Decimal.value cs
    if n ≤ limit then some n else none

/-- An address with a port. -/
inductive SocketAddress where
  | v4 (bytes : List UInt8) (port : UInt16)
  | v6 (groups : List UInt16) (scope : UInt32) (port : UInt16)
  deriving DecidableEq, Inhabited

namespace SocketAddress

/-- A port. -/
def port? (cs : List Char) : Option UInt16 := (numeral? Decimal.max16 cs).map UInt16.ofNat

/-- The scope of an address, zero where none is given. -/
def scope? : Option (List Char) → Option UInt32
  | none => some 0
  | some cs => (numeral? Decimal.max32 cs).map UInt32.ofNat

/-- An address with a port. -/
def parse? (text : String) : Option SocketAddress :=
  match text.toList with
  | '[' :: rest => do
    let (inside, behind) := Text.cut (· = ']') rest
    let (address, scope) := Text.cut (· = '%') inside
    let groups ← ipv6? address
    let scope ← scope? scope
    match behind with
    | some (':' :: digits) => return .v6 groups scope (← port? digits)
    | _ => none
  | cs => do
    let (address, digits) := Text.cut (· = ':') cs
    let bytes ← ipv4? address
    return .v4 bytes (← port? (← digits))

end SocketAddress

end MeshSync.Net
