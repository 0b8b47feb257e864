import MeshSync.CommandLine

/-! # The program

    Loads the settings of a sidecar, checks them and tells what it would run
    with. -/

namespace MeshSync

/-- The content of a file, if it can be read. -/
def contentOf? (path : String) : IO (Option Bytes) := do
  try
    let content ← IO.FS.readBinFile path
    return some content.toList
  catch _ => return none

/-- Check the settings that the words of a command line lead to. -/
def checkSettings (words : List String) : IO UInt32 := do
  match CommandLine.read words with
  | .error e =>
    IO.eprintln e.message
    return 2
  | .ok line =>
    let content ← match line.file with
      | some path => contentOf? path
      | none => pure none
    match line.settings content with
    | .error e =>
      IO.eprintln s!"Error: {e.message}"
      return 1
    | .ok config =>
      for told in line.summary config do
        IO.println told
      return 0

end MeshSync

/-- Run the program. -/
def main (words : List String) : IO UInt32 := MeshSync.checkSettings words
