import MeshSync.Decimal
import MeshSync.Text.Search

/-! # Levels of a log -/

namespace MeshSync.LogFilter

/-- How much is logged. -/
inductive Level where
  | off
  | error
  | warn
  | info
  | debug
  | trace
  deriving DecidableEq, Inhabited

namespace Level

/-- All levels, with least first. -/
def all : List Level := [off, error, warn, info, debug, trace]

/-- The name of a level. -/
def name : Level → String
  | off => "off"
  | error => "error"
  | warn => "warn"
  | info => "info"
  | debug => "debug"
  | trace => "trace"

/-- The level with a name, in any letter case, or with a number from zero. -/
def ofText? (s : String) : Option Level :=
  match Decimal.natural? Decimal.max64 s.toList with
  | some n => all[n]?
  | none => all.find? fun l => l.name = Text.lower s

end Level

end MeshSync.LogFilter
