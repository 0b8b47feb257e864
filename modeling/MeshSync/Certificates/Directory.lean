import MeshSync.Bytes
import MeshSync.SortedMap

/-! # Directories

    A directory of files, which may be missing.  Writing a file may fail, and
    a failed write leaves no file; when it does is given beforehand, so that
    every way a run can fail can be looked at. -/

namespace MeshSync.Certificates

/-- Why a file or directory cannot be had. -/
inductive FileError where
  | missing
  | exists_
  | noDirectory
  | reported (text : String)
  deriving DecidableEq

/-- The wording of an error. -/
def FileError.message : FileError → String
  | .missing => "No such file or directory (os error 2)"
  | .exists_ => "File exists (os error 17)"
  | .noDirectory => "Not a directory (os error 20)"
  | .reported text => text

/-- A directory. -/
structure Directory where
  /-- The files, unless the directory is missing. -/
  files : Option (SortedMap String Bytes)
  /-- What befalls the writes to come; those beyond the list succeed. -/
  fates : List (Option FileError)

namespace Directory

/-- A directory without files, in which every write succeeds. -/
def empty : Directory := ⟨some ∅, []⟩

/-- What stands where a directory is wanted. -/
inductive Site where
  | free
  | plainFile
  /-- A plain file stands where its parent is wanted. -/
  | belowPlainFile
  deriving DecidableEq

/-- The directory at a site, which is made if it is missing. -/
def create : Site → Except FileError Directory
  | .free => .ok empty
  | .plainFile => .error .exists_
  | .belowPlainFile => .error .noDirectory

/-- The directory is made again, if it is missing. -/
def make (d : Directory) : Directory := { d with files := some (d.files.getD ∅) }

/-- The directory goes, with all its files. -/
def destroy (d : Directory) : Directory := { d with files := none }

/-- The content of a file. -/
def read? (d : Directory) (name : String) : Option Bytes := d.files.bind (·.get? name)

/-- The names of the files. -/
def names (d : Directory) : List String := (d.files.map (·.keys)).getD []

/-- Write a file. -/
def write (d : Directory) (name : String) (content : Bytes) : Directory × Except FileError Unit :=
  let rest := { d with fates := d.fates.drop 1 }
  match d.fates.head?.join, d.files with
  | some e, _ => (rest, .error e)
  | none, none => (rest, .error .missing)
  | none, some files => ({ rest with files := some (files.insert name content) }, .ok ())

/-- Remove a file, if it is there. -/
def remove (d : Directory) (name : String) : Directory :=
  { d with files := d.files.map (·.erase name) }

end Directory

end MeshSync.Certificates
