import MeshSync.Certificates.Directory

/-! # Certificate files of a listener -/

namespace MeshSync.Certificates

/-- Where the proxy finds the certificates of a listener. -/
structure Paths where
  /-- The certificate with its private key. -/
  certificate : String
  /-- The trusted authorities. -/
  caFile : String
  deriving DecidableEq, Inhabited

/-- The path of a file in a directory.  A slash parts them, unless the path of
    the directory is empty or ends with one. -/
def pathIn (place name : String) : String :=
  if place.toList.getLast?.all (· = '/') then place ++ name else s!"{place}/{name}"

/-- Why a listener has no certificate files. -/
inductive Error where
  | file (cause : FileError)
  deriving DecidableEq

/-- The wording of an error. -/
def Error.message : Error → String
  | .file cause => s!"certificate file error: {cause.message}"

end MeshSync.Certificates
