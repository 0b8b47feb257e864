import MeshSync.Reconcile.Listener
import MeshSync.Toml.Value

/-! # Settings

    What a sidecar is told about itself and its surroundings.  Settings come
    from a table in which everything may be missing; a section is a table of
    its fields or an array of them in order. -/

namespace MeshSync

namespace Config

/-- How the control plane's agent is reached. -/
structure ControlPlane where
  address : String
  token : Option String
  deriving DecidableEq, Inhabited

/-- How the proxy's interface is reached. -/
structure Dataplane where
  address : String
  username : String
  password : String
  /-- How long a request may take, in seconds. -/
  timeout : UInt64
  deriving DecidableEq, Inhabited

/-- What is written into the proxy's objects. -/
structure Proxy where
  logSocket : String
  spoeConfig : String
  /-- Where certificate files are kept; a temporary directory when empty. -/
  certDir : String
  enableIntentions : Bool
  deriving DecidableEq, Inhabited

/-- What can be seen from outside. -/
structure Observability where
  logLevel : String
  metricsEnabled : Bool
  metricsAddress : String
  deriving DecidableEq, Inhabited

/-- The admin endpoint. -/
structure Admin where
  enabled : Bool
  /-- The key that the status is shown for; everybody sees it when there is none. -/
  apiKey : Option String
  bindAddress : String
  deriving DecidableEq, Inhabited

end Config

/-- All settings. -/
structure Config where
  serviceId : String
  controlPlane : Config.ControlPlane
  dataplane : Config.Dataplane
  proxy : Config.Proxy
  observability : Config.Observability
  admin : Config.Admin
  deriving DecidableEq, Inhabited

namespace Config

/-! ## Standards -/

/-- Where the agent is looked for when nothing is said. -/
def ControlPlane.standard : ControlPlane := ⟨"http://127.0.0.1:8500", none⟩

/-- Where the proxy's interface is looked for when nothing is said. -/
def Dataplane.standard : Dataplane := ⟨"http://127.0.0.1:5555", "admin", "", 10⟩

/-- The proxy's settings when nothing is said. -/
def Proxy.standard : Proxy := ⟨"/var/run/haproxy-log.sock", "", "", false⟩

/-- What can be seen when nothing is said. -/
def Observability.standard : Observability := ⟨"info", false, "127.0.0.1:9102"⟩

/-- The admin endpoint when nothing is said. -/
def Admin.standard : Admin := ⟨false, none, "127.0.0.1:8081"⟩

/-- The settings when nothing is said. -/
def standard : Config :=
  { serviceId := ""
    controlPlane := .standard
    dataplane := .standard
    proxy := .standard
    observability := .standard
    admin := .standard }

/-- The settings for the sidecar of another service. -/
def forService (c : Config) (serviceId : String) : Config := { c with serviceId := serviceId }

/-- What the reconciler has to know. -/
def options (c : Config) : Reconcile.Options :=
  ⟨c.proxy.enableIntentions, c.proxy.spoeConfig, c.proxy.logSocket⟩

/-! ## Reading -/

open Toml (Value)

/-- The fields of a section.  A moment counts as a table without known fields. -/
def fields? (declared : List String) : Value → Option (List (String × Value))
  | .table entries => some entries
  | .array items => some (declared.zip items)
  | .moment _ => some []
  | _ => none

/-- A setting among the fields of a section. -/
def setting {α : Type} (fields : List (String × Value)) (name : String) (read : Value → Option α)
    (otherwise : α) : Option α :=
  match fields.lookup name with
  | none => some otherwise
  | some value => read value

/-- A text. -/
def text? : Value → Option String
  | .string text => some text
  | _ => none

/-- A truth value. -/
def flag? : Value → Option Bool
  | .bool truth => some truth
  | _ => none

/-- A natural number. -/
def natural? : Value → Option UInt64
  | .integer number => if 0 ≤ number then some (UInt64.ofNat number.toNat) else none
  | _ => none

/-- How the agent is reached. -/
def ControlPlane.read (v : Value) : Option ControlPlane := do
  let fields ← fields? ["address", "token"] v
  let address ← setting fields "address" text? standard.address
  let token ← setting fields "token" (fun v => (text? v).map some) standard.token
  return { address, token }

/-- How the proxy's interface is reached. -/
def Dataplane.read (v : Value) : Option Dataplane := do
  let fields ← fields? ["address", "username", "password", "request_timeout_secs"] v
  let address ← setting fields "address" text? standard.address
  let username ← setting fields "username" text? standard.username
  let password ← setting fields "password" text? standard.password
  let timeout ← setting fields "request_timeout_secs" natural? standard.timeout
  return { address, username, password, timeout }

/-- The proxy's settings. -/
def Proxy.read (v : Value) : Option Proxy := do
  let fields ← fields? ["log_socket", "spoe_config", "cert_dir", "enable_intentions"] v
  let logSocket ← setting fields "log_socket" text? standard.logSocket
  let spoeConfig ← setting fields "spoe_config" text? standard.spoeConfig
  let certDir ← setting fields "cert_dir" text? standard.certDir
  let enableIntentions ← setting fields "enable_intentions" flag? standard.enableIntentions
  return { logSocket, spoeConfig, certDir, enableIntentions }

/-- What can be seen from outside. -/
def Observability.read (v : Value) : Option Observability := do
  let fields ← fields? ["log_level", "metrics_enabled", "metrics_address"] v
  let logLevel ← setting fields "log_level" text? standard.logLevel
  let metricsEnabled ← setting fields "metrics_enabled" flag? standard.metricsEnabled
  let metricsAddress ← setting fields "metrics_address" text? standard.metricsAddress
  return { logLevel, metricsEnabled, metricsAddress }

/-- The admin endpoint. -/
def Admin.read (v : Value) : Option Admin := do
  let fields ← fields? ["enabled", "api_key", "bind_address"] v
  let enabled ← setting fields "enabled" flag? standard.enabled
  let apiKey ← setting fields "api_key" (fun v => (text? v).map some) standard.apiKey
  let bindAddress ← setting fields "bind_address" text? standard.bindAddress
  return { enabled, apiKey, bindAddress }

/-- All settings. -/
def read (v : Value) : Option Config := do
  let fields ← fields?
    ["service_id", "consul", "dataplane", "haproxy", "observability", "admin"] v
  let serviceId ← setting fields "service_id" text? standard.serviceId
  let controlPlane ← setting fields "consul" ControlPlane.read .standard
  let dataplane ← setting fields "dataplane" Dataplane.read .standard
  let proxy ← setting fields "haproxy" Proxy.read .standard
  let observability ← setting fields "observability" Observability.read .standard
  let admin ← setting fields "admin" Admin.read .standard
  return { serviceId, controlPlane, dataplane, proxy, observability, admin }

end Config

end MeshSync
