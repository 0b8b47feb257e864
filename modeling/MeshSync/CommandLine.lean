import MeshSync.Config.Loader
import MeshSync.Text.Search

/-! # The command line

    Options say where the settings are and replace some of them.  The value of
    an option stands behind it, or behind an equals sign in the same word. -/

namespace MeshSync

/-- What the command line asks for. -/
structure CommandLine where
  /-- The file that holds the settings. -/
  file : Option String
  /-- The service to be the sidecar of. -/
  serviceId : Option String
  /-- What is logged. -/
  logLevel : Option String
  /-- Whether changes stay in memory. -/
  dryRun : Bool
  deriving DecidableEq, Inhabited

namespace CommandLine

/-- Why words are no command line. -/
inductive Error where
  | unexpected (word : String)
  | noValue (option : String)
  deriving DecidableEq

/-- The wording of an error. -/
def Error.message : Error → String
  | .unexpected word => s!"error: unexpected argument '{word}' found"
  | .noValue option => s!"error: a value is required for '{option}' but none was supplied"

/-- The command line that asks for nothing. -/
def empty : CommandLine := ⟨none, none, none, false⟩

/-- The option with a value that a word names. -/
def valued? : String → Option (String → CommandLine → CommandLine)
  | "-c" => some fun v l => { l with file := some v }
  | "--config" => some fun v l => { l with file := some v }
  | "--sidecar-for" => some fun v l => { l with serviceId := some v }
  | "--log-level" => some fun v l => { l with logLevel := some v }
  | _ => none

/-- Words behind what has been read already. -/
def readFrom (l : CommandLine) : List String → Except Error CommandLine
  | [] => .ok l
  | "--dry-run" :: rest => readFrom { l with dryRun := true } rest
  | word :: rest =>
    match Text.cut (· = '=') word.toList with
    | (name, some value) =>
      match valued? (String.ofList name) with
      | some set => readFrom (set (String.ofList value) l) rest
      | none => .error (.unexpected word)
    | (_, none) =>
      match valued? word, rest with
      | some set, value :: rest => readFrom (set value l) rest
      | some _, [] => .error (.noValue word)
      | none, _ => .error (.unexpected word)

/-- The command line of words. -/
def read (words : List String) : Except Error CommandLine := readFrom empty words

/-- Settings with what the command line replaces. -/
def replaceIn (l : CommandLine) (c : Config) : Config :=
  let c := match l.serviceId with
    | some id => c.forService id
    | none => c
  match l.logLevel with
  | some level => { c with observability := { c.observability with logLevel := level } }
  | none => c

/-- The settings to run with, from the content of the file if one is named. -/
def settings (l : CommandLine) (content : Option Bytes) : Except Config.LoadError Config := do
  let c ← if l.file.isSome then Config.ofFile content else .ok Config.standard
  (l.replaceIn c).validated

/-- What is told about the settings to run with. -/
def summary (l : CommandLine) (c : Config) : List String :=
  let dataplane := if l.dryRun then "memory" else c.dataplane.address
  let intentions := if c.proxy.enableIntentions then "true" else "false"
  [s!"service_id = {c.serviceId}",
    s!"consul = {c.controlPlane.address}",
    s!"dataplane = {dataplane}",
    s!"intentions = {intentions}",
    s!"log_level = {c.observability.logLevel}"]

end CommandLine

end MeshSync
