import MeshSync.Json.Basic
import MeshSync.Snapshot

/-! # Status of the reconciler

    What the proxy runs, as far as the reconciler knows: the snapshot of the
    last commit and the error of the last pass, if it failed. -/

namespace MeshSync.Reconcile

/-- Where the downstream listens and what it forwards to. -/
structure DownstreamStatus where
  bind : String
  target : String
  deriving DecidableEq, Inhabited

/-- What the proxy runs. -/
structure Status where
  /-- Whether a snapshot has been committed. -/
  ready : Bool
  /-- The version after the last commit. -/
  version : UInt64
  service : Option String
  downstream : Option DownstreamStatus
  upstreams : List String
  lastError : Option String
  deriving DecidableEq, Inhabited

namespace Status

/-- Nothing has been committed yet. -/
def initial : Status := ⟨false, 0, none, none, [], none⟩

/-- A snapshot was committed and the store is at `version`. -/
def applied (s : Snapshot) (version : UInt64) : Status :=
  let d := s.downstream
  { ready := true
    version := version
    service := some s.serviceName
    downstream := some
      { bind := s!"{d.localBindAddress}:{d.localBindPort}"
        target := s!"{d.targetAddress}:{d.targetPort}" }
    upstreams := s.upstreams.map (·.service)
    lastError := none }

/-- A pass failed; what was committed before stands. -/
def failed (status : Status) (error : String) : Status := { status with lastError := some error }

/-- The JSON form of a status. -/
def json (s : Status) : Json :=
  .ofFields
    [("ready", .bool s.ready),
     ("version", .ofNat s.version.toNat),
     ("service", .ofOption .string s.service),
     ("downstream", .ofOption
        (fun d => .ofFields [("bind", .string d.bind), ("target", .string d.target)]) s.downstream),
     ("upstreams", .array (s.upstreams.map .string)),
     ("last_error", .ofOption .string s.lastError)]

end Status

end MeshSync.Reconcile
