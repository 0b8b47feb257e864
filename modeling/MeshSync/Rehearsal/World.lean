import MeshSync.Certificates.Store
import MeshSync.Dialogue
import MeshSync.Rehearsal.Wire

/-! # A world to rehearse in

    Everything a pass talks to: the store behind its wire, and a desk that
    hands out certificate files, numbers the materials it is asked for and can
    be told to fail. -/

namespace MeshSync.Rehearsal

/-- The desk that hands out certificate files. -/
structure Desk where
  /-- The materials in the order of their numbers, which begin at one. -/
  known : List TlsMaterial
  /-- How many calls pass before one fails, if one is to. -/
  fuse : Option Nat
  /-- The material of every call since the last report, none for one that was
      made to fail. -/
  calls : List (Option Nat)
  /-- The materials last named as committed since the last report. -/
  retained : Option (List Nat)
  /-- The files, if there are any. -/
  disk : Option Certificates.Store

namespace Desk

/-- A desk that has not been asked for anything. -/
def new (disk : Option Certificates.Store) : Desk := ⟨[], none, [], none, disk⟩

/-- The number of a material, which it gets when it has none. -/
def number (d : Desk) (m : TlsMaterial) : Desk × Nat :=
  let n := d.known.idxOf m
  (if n < d.known.length then d else { d with known := d.known ++ [m] }, n + 1)

/-- The numbers of materials. -/
def numbers (d : Desk) : List TlsMaterial → Desk × List Nat
  | [] => (d, [])
  | m :: ms =>
    let (d, n) := d.number m
    let (d, ns) := numbers d ms
    (d, n :: ns)

/-- Where the certificate files are. -/
def place : String := "/certs"

/-- The files of the material with a number. -/
def deliver (d : Desk) (n : Nat) (m : TlsMaterial) :
    Desk × Except Certificates.Error Certificates.Paths :=
  match d.disk with
  | none => (d, .ok ⟨s!"{place}/{n}.pem", s!"{place}/{n}-ca.pem"⟩)
  | some store =>
    let (store, paths) := store.pathsFor m
    ({ d with disk := some store }, paths)

/-- The files of a material. -/
def pathsFor (d : Desk) (m : TlsMaterial) : Desk × Except Certificates.Error Certificates.Paths :=
  let (d, n) := d.number m
  match d.fuse with
  | some 0 =>
    ({ d with fuse := none, calls := d.calls ++ [none] }, .error (.file (.reported "injected")))
  | fuse => { d with fuse := fuse.map (· - 1), calls := d.calls ++ [some n] }.deliver n m

/-- Note which materials the proxy uses. -/
def retain (d : Desk) (ms : List TlsMaterial) : Desk :=
  let (d, ns) := d.numbers ms
  { d with retained := some ns, disk := d.disk.map (·.retain ms) }

/-- Forget what was asked for. -/
def reported (d : Desk) : Desk := { d with calls := [], retained := none }

end Desk

/-- Everything a pass talks to. -/
structure World where
  wire : Wire
  desk : Desk

namespace World

/-- Everything a pass talks to answers. -/
def surroundings : Surroundings World where
  send w r :=
    let (wire, answer) := w.wire.send r
    ({ w with wire := wire }, answer)
  certs w m :=
    let (desk, paths) := w.desk.pathsFor m
    ({ w with desk := desk }, paths)
  retain w ms := { w with desk := w.desk.retain ms }

end World

end MeshSync.Rehearsal
