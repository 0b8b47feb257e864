import MeshSync.Net.Ip
import MeshSync.Url.Domain
import MeshSync.Url.Error
import MeshSync.Url.Percent

/-! # Hosts of URLs

    A host is an address or a name.  On the web a name whose last label is a
    number is read as an address of up to four numbers, each decimal, octal or
    hexadecimal, of which the last fills what the others leave. -/

namespace MeshSync.Url

/-- A host. -/
inductive Host where
  | domain (name : List Char)
  | ipv4 (address : Nat)
  | ipv6 (groups : List UInt16)
  deriving DecidableEq, Inhabited

namespace Host

/-- The number of digits in a base; none if one of them is no such digit. -/
def inBase (base : Nat) (cs : List Char) : Option Nat :=
  (cs.mapM fun c => (Net.hexDigit? c).filter (· < base)).map
    (·.foldl (fun n d => n * base + d) 0)

/-- A number: hexadecimal behind `0x`, octal behind `0`, else decimal. -/
def number? : List Char → Option Nat
  | [] => none
  | '0' :: 'x' :: rest => inBase 16 rest
  | '0' :: 'X' :: rest => inBase 16 rest
  | '0' :: c :: rest => inBase 8 (c :: rest)
  | cs => inBase 10 cs

/-- The labels of a name without the empty one that a final dot leaves. -/
def labels (name : List Char) : List (List Char) :=
  let parts := Text.splitChars (· = '.') name
  if 1 < parts.length && parts.getLast? = some [] then parts.dropLast else parts

/-- Whether a name counts as an address. -/
def endsInNumber (name : List Char) : Bool :=
  match (labels name).getLast? with
  | none => false
  | some last => (!last.isEmpty && last.all Decimal.isDigit) || (number? last).isSome

/-- The address of numbers of which the last fills what the others leave. -/
def ipv4OfNumbers? (numbers : List Nat) : Option Nat :=
  match numbers.reverse with
  | [] => none
  | last :: front =>
    if numbers.length ≤ 4 && last < Nat.pow 256 (4 - front.length) && front.all (· ≤ 255) then
      some (front.reverse.zipIdx.foldl (fun n (x, i) => n + x * Nat.pow 256 (3 - i)) last)
    else none

/-- The address that a name stands for. -/
def ipv4? (name : List Char) : Option Nat := ((labels name).mapM number?).bind ipv4OfNumbers?

/-- An address in brackets, whose opening one has been read. -/
def bracketed (cs : List Char) : Except Error Host :=
  if cs.getLast? = some ']' then
    match Net.ipv6? cs.dropLast with
    | some groups => .ok (.ipv6 groups)
    | none => .error .invalidIpv6
  else .error .invalidIpv6

/-- A host on the web. -/
def parse (cs : List Char) : Except Error Host :=
  match cs with
  | '[' :: rest => bracketed rest
  | cs =>
    match Domain.ofBytes? (Url.decode (Bytes.ofChars cs)) with
    | none => .error .invalidInternationalDomain
    | some name =>
      if name.isEmpty then .error .emptyHost
      else if endsInNumber name then
        match ipv4? name with
        | some address => .ok (.ipv4 address)
        | none => .error .invalidIpv4
      else .ok (.domain name)

/-- Characters that may not stand in a name that is left as it is. -/
def isForbidden (c : Char) : Bool :=
  "\x00\t\n\x0d #/:<>?@[\\]^|".toList.contains c

/-- A host elsewhere: its name is only encoded. -/
def parseOpaque (cs : List Char) : Except Error Host :=
  match cs with
  | '[' :: rest => bracketed rest
  | cs =>
    if cs.any isForbidden then .error .invalidDomainCharacter
    else .ok (.domain (Url.encode EncodeSet.controls cs))

end Host

end MeshSync.Url
