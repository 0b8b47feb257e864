import MeshSync.Json.Record

/-! # Objects of the proxy

    The configuration objects that the proxy's interface creates and changes,
    and their JSON form.  A field that is not set is left out when an object
    is written; when one is read, such a field may be missing or null. -/

namespace MeshSync

/-- An object with the fields that have a value, given in ascending order. -/
def Json.present (fields : List (String × Option Json)) : Json :=
  .object (fields.filterMap fun (name, value) => value.map (name, ·))

namespace Dataplane

open Reader

/-! ## Names with a fixed meaning -/

/-- How the proxy treats traffic. -/
inductive Mode where
  | http
  | tcp
  deriving DecidableEq, Inhabited

/-- Whether the other side has to show a certificate. -/
inductive Verify where
  | none
  | required
  deriving DecidableEq, Inhabited

/-- A switch. -/
inductive Toggle where
  | enabled
  | disabled
  deriving DecidableEq, Inhabited

/-- Under which facility the proxy logs. -/
inductive LogFacility where
  | local0
  deriving DecidableEq, Inhabited

/-- The form of log lines. -/
inductive LogFormat where
  | rfc5424
  deriving DecidableEq, Inhabited

/-- What a filter does. -/
inductive FilterType where
  | spoe
  deriving DecidableEq, Inhabited

/-- When a rule is looked at. -/
inductive RuleType where
  | content
  deriving DecidableEq, Inhabited

/-- What a rule does with a connection. -/
inductive RuleAction where
  | accept
  | reject
  deriving DecidableEq, Inhabited

/-- How a rule's condition counts. -/
inductive RuleCond where
  | if_
  | unless_
  deriving DecidableEq, Inhabited

/-- A type whose values have names. -/
class Named (α : Type) where
  choices : List (String × α)
  name : α → String

instance : Named Mode where
  choices := [("http", .http), ("tcp", .tcp)]
  name
    | .http => "http"
    | .tcp => "tcp"

instance : Named Verify where
  choices := [("none", .none), ("required", .required)]
  name
    | .none => "none"
    | .required => "required"

instance : Named Toggle where
  choices := [("enabled", .enabled), ("disabled", .disabled)]
  name
    | .enabled => "enabled"
    | .disabled => "disabled"

instance : Named LogFacility where
  choices := [("local0", .local0)]
  name _ := "local0"

instance : Named LogFormat where
  choices := [("rfc5424", .rfc5424)]
  name _ := "rfc5424"

instance : Named FilterType where
  choices := [("spoe", .spoe)]
  name _ := "spoe"

instance : Named RuleType where
  choices := [("content", .content)]
  name _ := "content"

instance : Named RuleAction where
  choices := [("accept", .accept), ("reject", .reject)]
  name
    | .accept => "accept"
    | .reject => "reject"

instance : Named RuleCond where
  choices := [("if", .if_), ("unless", .unless_)]
  name
    | .if_ => "if"
    | .unless_ => "unless"

/-- The name of a value, as JSON. -/
def named {α : Type} [Named α] (a : α) : Json := .string (Named.name a)

/-- The value with a name. -/
def ofName {α : Type} [Named α] : Reader α := choice Named.choices

/-- A 16-bit number, as JSON. -/
def word16Json (n : UInt16) : Json := .ofNat n.toNat

/-- A 32-bit number, as JSON. -/
def word32Json (n : UInt32) : Json := .ofNat n.toNat

/-- A 64-bit number, as JSON. -/
def word64Json (n : UInt64) : Json := .ofNat n.toNat

/-! ## Frontends and their binds -/

/-- Where the proxy accepts connections. -/
structure Frontend where
  name : String
  defaultBackend : Option String
  /-- In milliseconds. -/
  clientTimeout : Option UInt64
  mode : Option Mode
  httplog : Bool
  deriving DecidableEq, Inhabited

/-- The JSON form of a frontend. -/
def Frontend.json (f : Frontend) : Json :=
  .present
    [("client_timeout", f.clientTimeout.map word64Json),
     ("default_backend", f.defaultBackend.map .string),
     ("httplog", some (.bool f.httplog)),
     ("mode", f.mode.map named),
     ("name", some (.string f.name))]

/-- A frontend from its JSON form. -/
def Frontend.read : Reader Frontend := fun s => do
  let r ← Record.read "struct Frontend"
    ["name", "default_backend", "client_timeout", "mode", "httplog"] s
  let name ← r.required "name" text
  let defaultBackend ← r.optional "default_backend" text
  let clientTimeout ← r.optional "client_timeout" word64
  let mode ← r.optional "mode" ofName
  let httplog ← r.defaulted "httplog" flag false
  r.closed
  return { name, defaultBackend, clientTimeout, mode, httplog }

/-- An address a frontend listens on. -/
structure Bind where
  name : String
  address : String
  port : Option UInt16
  ssl : Bool
  sslCertificate : Option String
  sslCafile : Option String
  verify : Option Verify
  deriving DecidableEq, Inhabited

/-- The JSON form of a bind. -/
def Bind.json (b : Bind) : Json :=
  .present
    [("address", some (.string b.address)),
     ("name", some (.string b.name)),
     ("port", b.port.map word16Json),
     ("ssl", some (.bool b.ssl)),
     ("ssl_cafile", b.sslCafile.map .string),
     ("ssl_certificate", b.sslCertificate.map .string),
     ("verify", b.verify.map named)]

/-- A bind from its JSON form. -/
def Bind.read : Reader Bind := fun s => do
  let r ← Record.read "struct Bind"
    ["name", "address", "port", "ssl", "ssl_certificate", "ssl_cafile", "verify"] s
  let name ← r.required "name" text
  let address ← r.required "address" text
  let port ← r.optional "port" word16
  let ssl ← r.defaulted "ssl" flag false
  let sslCertificate ← r.optional "ssl_certificate" text
  let sslCafile ← r.optional "ssl_cafile" text
  let verify ← r.optional "verify" ofName
  r.closed
  return { name, address, port, ssl, sslCertificate, sslCafile, verify }

/-! ## Backends and their servers -/

/-- How a backend spreads the load. -/
structure Balance where
  algorithm : String
  deriving DecidableEq, Inhabited

/-- The JSON form of a balance. -/
def Balance.json (b : Balance) : Json := .present [("algorithm", some (.string b.algorithm))]

/-- A balance from its JSON form. -/
def Balance.read : Reader Balance := fun s => do
  let r ← Record.read "struct Balance" ["algorithm"] s
  let algorithm ← r.required "algorithm" text
  r.closed
  return { algorithm }

/-- Where the proxy sends connections. -/
structure Backend where
  name : String
  mode : Option Mode
  /-- In milliseconds. -/
  serverTimeout : Option UInt64
  /-- In milliseconds. -/
  connectTimeout : Option UInt64
  balance : Option Balance
  deriving DecidableEq, Inhabited

/-- The JSON form of a backend. -/
def Backend.json (b : Backend) : Json :=
  .present
    [("balance", b.balance.map (·.json)),
     ("connect_timeout", b.connectTimeout.map word64Json),
     ("mode", b.mode.map named),
     ("name", some (.string b.name)),
     ("server_timeout", b.serverTimeout.map word64Json)]

/-- A backend from its JSON form. -/
def Backend.read : Reader Backend := fun s => do
  let r ← Record.read "struct Backend"
    ["name", "mode", "server_timeout", "connect_timeout", "balance"] s
  let name ← r.required "name" text
  let mode ← r.optional "mode" ofName
  let serverTimeout ← r.optional "server_timeout" word64
  let connectTimeout ← r.optional "connect_timeout" word64
  let balance ← r.optional "balance" Balance.read
  r.closed
  return { name, mode, serverTimeout, connectTimeout, balance }

/-- A server of a backend. -/
structure Server where
  name : String
  address : String
  port : Option UInt16
  weight : Option UInt32
  ssl : Option Toggle
  sslCertificate : Option String
  sslCafile : Option String
  verify : Option Verify
  deriving DecidableEq, Inhabited

/-- The JSON form of a server. -/
def Server.json (s : Server) : Json :=
  .present
    [("address", some (.string s.address)),
     ("name", some (.string s.name)),
     ("port", s.port.map word16Json),
     ("ssl", s.ssl.map named),
     ("ssl_cafile", s.sslCafile.map .string),
     ("ssl_certificate", s.sslCertificate.map .string),
     ("verify", s.verify.map named),
     ("weight", s.weight.map word32Json)]

/-- A server from its JSON form. -/
def Server.read : Reader Server := fun s => do
  let r ← Record.read "struct Server"
    ["name", "address", "port", "weight", "ssl", "ssl_certificate", "ssl_cafile", "verify"] s
  let name ← r.required "name" text
  let address ← r.required "address" text
  let port ← r.optional "port" word16
  let weight ← r.optional "weight" word32
  let ssl ← r.optional "ssl" ofName
  let sslCertificate ← r.optional "ssl_certificate" text
  let sslCafile ← r.optional "ssl_cafile" text
  let verify ← r.optional "verify" ofName
  r.closed
  return { name, address, port, weight, ssl, sslCertificate, sslCafile, verify }

/-! ## Objects of either -/

/-- Where a frontend or backend logs to. -/
structure LogTarget where
  id : UInt32
  address : String
  facility : LogFacility
  format : LogFormat
  deriving DecidableEq, Inhabited

/-- The JSON form of a log target. -/
def LogTarget.json (t : LogTarget) : Json :=
  .present
    [("address", some (.string t.address)),
     ("facility", some (named t.facility)),
     ("format", some (named t.format)),
     ("id", some (word32Json t.id))]

/-- A log target from its JSON form. -/
def LogTarget.read : Reader LogTarget := fun s => do
  let r ← Record.read "struct LogTarget" ["id", "address", "facility", "format"] s
  let id ← r.required "id" word32
  let address ← r.required "address" text
  let facility ← r.required "facility" ofName
  let format ← r.required "format" ofName
  r.closed
  return { id, address, facility, format }

/-- A filter that traffic passes. -/
structure Filter where
  id : UInt32
  type : FilterType
  spoeEngine : String
  spoeConfig : String
  deriving DecidableEq, Inhabited

/-- The JSON form of a filter. -/
def Filter.json (f : Filter) : Json :=
  .present
    [("id", some (word32Json f.id)),
     ("spoe_config", some (.string f.spoeConfig)),
     ("spoe_engine", some (.string f.spoeEngine)),
     ("type", some (named f.type))]

/-- A filter from its JSON form. -/
def Filter.read : Reader Filter := fun s => do
  let r ← Record.read "struct Filter" ["id", "type", "spoe_engine", "spoe_config"] s
  let id ← r.required "id" word32
  let type ← r.required "type" ofName
  let spoeEngine ← r.required "spoe_engine" text
  let spoeConfig ← r.required "spoe_config" text
  r.closed
  return { id, type, spoeEngine, spoeConfig }

/-- A rule about connections. -/
structure TcpRequestRule where
  id : UInt32
  type : RuleType
  action : RuleAction
  cond : RuleCond
  condTest : String
  deriving DecidableEq, Inhabited

/-- The JSON form of a rule. -/
def TcpRequestRule.json (r : TcpRequestRule) : Json :=
  .present
    [("action", some (named r.action)),
     ("cond", some (named r.cond)),
     ("cond_test", some (.string r.condTest)),
     ("id", some (word32Json r.id)),
     ("type", some (named r.type))]

/-- A rule from its JSON form. -/
def TcpRequestRule.read : Reader TcpRequestRule := fun s => do
  let r ← Record.read "struct TcpRequestRule" ["id", "type", "action", "cond", "cond_test"] s
  let id ← r.required "id" word32
  let type ← r.required "type" ofName
  let action ← r.required "action" ofName
  let cond ← r.required "cond" ofName
  let condTest ← r.required "cond_test" text
  r.closed
  return { id, type, action, cond, condTest }

/-! ## Transactions -/

/-- What the interface says about a transaction. -/
structure TransactionInfo where
  id : String
  version : UInt64
  status : String
  deriving DecidableEq, Inhabited

/-- The first field, in the order of the text, that is refused. -/
def TransactionInfo.refusal? (r : Record) : Option DecodeError :=
  let check {α : Type} (read : Reader α) (s : Source) : Option DecodeError :=
    match read s with
    | .ok _ => none
    | .error e => some e
  r.given.findSome? fun (name, s) =>
    if name = "_version" then check word64 s else check text s

/-- What the interface says about a transaction, from its JSON form. -/
def TransactionInfo.read : Reader TransactionInfo := fun s => do
  let r ← Record.read "struct TransactionInfo" ["id", "_version", "status"] s
  if let some e := refusal? r then throw e
  let id ← r.required "id" text
  let version ← r.defaulted "_version" word64 0
  let status ← r.defaulted "status" text ""
  r.closed
  return { id, version, status }

end Dataplane

end MeshSync
