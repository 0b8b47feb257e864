import MeshSync.Bytes
import MeshSync.Json.Basic
import MeshSync.Text.Search
import MeshSync.Url.Basic

/-! # Messages over HTTP

    What a client sends and what comes back.  How a request travels is left
    open: an exchange answers it or does not. -/

namespace MeshSync.Http

/-- Whether a text can be the method of a request or the name of a header: it is
    not empty and holds letters, digits and marks that separate nothing. -/
def isToken (s : String) : Bool :=
  !s.isEmpty && s.toList.all fun c => c.isAlphanum || "!#$%&'*+-.^_|~\x60".toList.contains c

/-- A request. -/
structure Request where
  method : String
  url : Url
  headers : List (String × String)
  body : Option Json
  deriving Inhabited

/-- A reply. -/
structure Reply where
  status : Nat
  headers : List (String × Bytes)
  body : Bytes
  deriving Inhabited

/-- A way to have requests answered; some are not. -/
abbrev Exchange := Request → Option Reply

/-! ## Headers -/

/-- Whether a byte separates the words of a header. -/
def isBlank (b : UInt8) : Bool := b = 32 || b = 9

/-- Whether a header may hold a byte. -/
def isSendable (b : UInt8) : Bool := (32 ≤ b && b ≠ 127) || b = 9

/-- Whether a byte of a header can be read as a character. -/
def isReadable (b : UInt8) : Bool := (32 ≤ b && b < 127) || b = 9

/-- The content of a header without the blanks around it. -/
def trim (bytes : Bytes) : Bytes :=
  ((bytes.dropWhile isBlank).reverse.dropWhile isBlank).reverse

/-- The first header of a reply with a name, whose case does not matter. -/
def Reply.header? (r : Reply) (name : String) : Option Bytes :=
  (r.headers.find? fun header => Text.lower header.1 = Text.lower name).map fun header =>
    trim header.2

/-- A header as text, if it can be read. -/
def headerText? (bytes : Bytes) : Option String :=
  if bytes.all isReadable then some (String.ofList (bytes.map fun b => Char.ofNat b.toNat))
  else none

/-! ## Sending -/

/-- Whether a request can be sent at all: its URL is one of HTTP, and its
    headers hold nothing that would end them. -/
def Request.isValid (r : Request) : Bool :=
  (r.url.scheme = "http" || r.url.scheme = "https") &&
    r.headers.all fun header => (Bytes.ofText header.2).all isSendable

/-- The reply to a request, if it is sent and answered. -/
def Exchange.send (exchange : Exchange) (r : Request) : Option Reply :=
  if r.isValid then exchange r else none

end MeshSync.Http
