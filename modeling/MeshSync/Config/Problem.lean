import MeshSync.Config.Basic
import MeshSync.Net.SocketAddress
import MeshSync.Text.Blank
import MeshSync.Url.Parser

/-! # Problems of settings

    Settings can be read and still make no sense together.  Every problem is
    reported, not just the first. -/

namespace MeshSync.Config

/-- Why a setting makes no sense. -/
inductive Cause where
  | unset
  | notUrl (error : Url.Error)
  | unsupportedScheme (scheme : String)
  | zero
  /-- Missing although intentions are enabled. -/
  | neededForIntentions
  | notSocketAddress (text : String)
  deriving DecidableEq

/-- The wording of a cause. -/
def Cause.message : Cause → String
  | .unset => "must be set"
  | .notUrl error => s!"invalid URL: {error.message}"
  | .unsupportedScheme scheme => s!"unsupported scheme '{scheme}'"
  | .zero => "must be greater than 0"
  | .neededForIntentions => "required when enable_intentions is set"
  | .notSocketAddress text => s!"'{text}' is not a socket address"

/-- A setting that makes no sense. -/
structure Problem where
  field : String
  cause : Cause
  deriving DecidableEq

/-- The wording of a problem. -/
def Problem.message (p : Problem) : String := s!"{p.field}: {p.cause.message}"

/-- What is wrong with the address of a peer. -/
def urlCause? (text : String) : Option Cause :=
  match Url.parse text with
  | .error error => some (.notUrl error)
  | .ok url =>
    if url.scheme = "http" || url.scheme = "https" then none
    else some (.unsupportedScheme url.scheme)

/-- What is wrong with an address to listen at. -/
def socketCause? (text : String) : Option Cause :=
  if (Net.SocketAddress.parse? text).isSome then none else some (.notSocketAddress text)

/-- What is wrong with each setting that can be wrong. -/
def causes (c : Config) : List (String × Option Cause) :=
  [("service_id", if c.serviceId.toList.all Text.isBlank then some .unset else none),
    ("consul.address", urlCause? c.controlPlane.address),
    ("dataplane.address", urlCause? c.dataplane.address),
    ("dataplane.request_timeout_secs", if c.dataplane.timeout = 0 then some .zero else none),
    ("haproxy.log_socket", if c.proxy.logSocket.isEmpty then some .unset else none),
    ("haproxy.spoe_config",
      if c.proxy.enableIntentions && c.proxy.spoeConfig.isEmpty then some .neededForIntentions
      else none),
    ("observability.metrics_address",
      if c.observability.metricsEnabled then socketCause? c.observability.metricsAddress else none),
    ("admin.bind_address",
      if c.admin.enabled then socketCause? c.admin.bindAddress else none)]

/-- The problems of settings. -/
def problems (c : Config) : List Problem :=
  (causes c).filterMap fun (field, cause) => cause.map fun cause => ⟨field, cause⟩

end MeshSync.Config
