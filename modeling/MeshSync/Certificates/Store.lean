import MeshSync.Certificates.Paths
import MeshSync.Identifier
import MeshSync.Snapshot

/-! # Certificate store

    The files of the materials that were asked for.  A material keeps its
    files as long as it is cached; when more than `capacity` are, the oldest
    go whose material the proxy does not use, the newest never. -/

namespace MeshSync.Certificates

/-- How many materials keep their files. -/
def capacity : Nat := 8

/-- A newline behind bytes that do not end with one. -/
def terminated (bs : Bytes) : Bytes := if bs.getLast? = some 10 then bs else bs ++ [10]

/-- The certificate and, on lines of its own, its private key. -/
def bundle (tls : TlsMaterial) : Bytes := terminated tls.cert ++ tls.key

/-- The authorities, each on lines of its own. -/
def caBundle (tls : TlsMaterial) : Bytes := tls.cas.foldl (fun acc ca => terminated (acc ++ ca)) []

/-- The name of the `n`-th pair of files. -/
def pairId (n : Nat) : String := Identifier.text "63657274" n

/-- A material whose files are kept. -/
structure Kept where
  material : TlsMaterial
  /-- The name of its pair of files. -/
  id : String
  deriving DecidableEq, Inhabited

namespace Kept

/-- The name of the certificate file. -/
def certificateName (k : Kept) : String := s!"{k.id}.pem"

/-- The name of the file of authorities. -/
def caName (k : Kept) : String := s!"{k.id}-ca.pem"

/-- The paths of both files in a directory. -/
def paths (k : Kept) (place : String) : Paths :=
  ⟨pathIn place k.certificateName, pathIn place k.caName⟩

end Kept

/-- The cached materials and the directory with their files. -/
structure Store where
  /-- Where the directory is. -/
  place : String
  directory : Directory
  /-- The cached materials, oldest first. -/
  kept : List Kept
  /-- The materials that the proxy uses. -/
  committed : List TlsMaterial
  /-- How many pairs of files have been begun. -/
  begun : Nat

namespace Store

/-- A store without materials, over a directory. -/
def new (place : String) (directory : Directory) : Store := ⟨place, directory, [], [], 0⟩

/-- Split off the oldest material that is not in use. -/
def oldestUnused (committed : List TlsMaterial) : List Kept → Option (Kept × List Kept)
  | [] => none
  | k :: ks =>
    if committed.contains k.material then
      (oldestUnused committed ks).map fun (old, rest) => (old, k :: rest)
    else some (k, ks)

/-- The materials that stay of a list beside the newest, and those that go: of
    at most `excess` the oldest ones that are not in use. -/
def evict (committed : List TlsMaterial) : Nat → List Kept → List Kept × List Kept
  | 0, ks => (ks, [])
  | excess + 1, ks =>
    match oldestUnused committed ks with
    | none => (ks, [])
    | some (old, rest) =>
      let (stay, go) := evict committed excess rest
      (stay, old :: go)

/-- Remove the files of a material. -/
def removeFiles (d : Directory) (k : Kept) : Directory :=
  (d.remove k.certificateName).remove k.caName

/-- Keep a new material and let old ones go. -/
def keep (s : Store) (newest : Kept) : Store :=
  let (stay, go) := evict s.committed (s.kept.length + 1 - capacity) s.kept
  { s with kept := stay ++ [newest], directory := go.foldl removeFiles s.directory }

/-- Write the files of a material. -/
def write (s : Store) (material : TlsMaterial) : Store × Except Error Kept :=
  let k : Kept := ⟨material, pairId (s.begun + 1)⟩
  match s.directory.write k.certificateName (bundle material) with
  | (directory, .error e) => ({ s with directory := directory }, .error (.file e))
  | (directory, .ok ()) =>
    let s := { s with begun := s.begun + 1 }
    match directory.write k.caName (caBundle material) with
    | (directory, .error e) => ({ s with directory := directory }, .error (.file e))
    | (directory, .ok ()) => ({ s with directory := directory }, .ok k)

/-- The paths of a material's files, which are written if it is not cached. -/
def pathsFor (s : Store) (material : TlsMaterial) : Store × Except Error Paths :=
  match s.kept.find? (·.material = material) with
  | some k => (s, .ok (k.paths s.place))
  | none =>
    match s.write material with
    | (s, .error e) => (s, .error e)
    | (s, .ok k) => (s.keep k, .ok (k.paths s.place))

/-- Note which materials the proxy uses now. -/
def retain (s : Store) (materials : List TlsMaterial) : Store :=
  { s with committed := materials }

end Store

end MeshSync.Certificates
