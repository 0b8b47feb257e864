import MeshSync.Bytes
import MeshSync.Config.Problem
import MeshSync.Toml.Document

/-! # Loading settings -/

namespace MeshSync.Config

/-- Why settings cannot be used. -/
inductive LoadError where
  /-- There is no such file. -/
  | missing
  /-- The file holds no text. -/
  | notText
  /-- The text is no TOML, or a setting has the wrong type. -/
  | unreadable
  | invalid (problems : List Problem)

/-- The wording of an error. -/
def LoadError.message : LoadError → String
  | .missing => "IO error: No such file or directory (os error 2)"
  | .notText => "IO error: stream did not contain valid UTF-8"
  | .unreadable => "Parse error"
  | .invalid problems =>
    "Validation failed: " ++ String.intercalate ", " (problems.map Problem.message)

/-- The settings that a text tells. -/
def parse (text : String) : Except LoadError Config :=
  match (Toml.parse? text).bind Config.read with
  | some config => .ok config
  | none => .error .unreadable

/-- The settings that a file tells, by its content. -/
def ofFile : Option Bytes → Except LoadError Config
  | none => .error .missing
  | some bytes =>
    match Bytes.text? bytes with
    | some text => parse text
    | none => .error .notText

/-- Settings without problems. -/
def validated (c : Config) : Except LoadError Config :=
  match c.problems with
  | [] => .ok c
  | problems => .error (.invalid problems)

end MeshSync.Config
