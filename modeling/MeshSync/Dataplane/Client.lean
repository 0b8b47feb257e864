import MeshSync.Dataplane.Operation
import MeshSync.Dialogue
import MeshSync.SortedMap

/-! # Client

    A client tracks the version that it takes the configuration to have.  A
    transaction is opened at that version; a commit is sent only while it is
    still tracked and, if it succeeds, moves it on by one. -/

namespace MeshSync.Dataplane

/-- What a client holds of a transaction that it opened. -/
structure Ticket where
  id : String
  /-- The version the transaction was opened at. -/
  version : UInt64
  deriving DecidableEq, Inhabited

namespace Client

variable {α : Type}

/-- Send a request and read its answer. -/
def ask (r : Request) (read : Json → Except Error α) : Dialogue (Except Error α) :=
  .send r fun answer => .done (answer.bind read)

/-- Accept any answer. -/
def accept (_ : Json) : Except Error Unit := .ok ()

/-- The path of a transaction. -/
def transactionPath (id : String) : String := s!"{transactionsPath}/{id}"

/-- Check that the interface answers. -/
def ping : Dialogue (Except Error Unit) := ask ⟨.get, specificationPath, none⟩ accept

/-- What the interface tells about the process. -/
def info : Dialogue (Except Error Json) := ask ⟨.get, infoPath, none⟩ .ok

/-- The version that a listing was taken at. -/
def listedVersion (listing : Json) : Except Error UInt64 :=
  match (listing.field? "_version").bind Json.natural? with
  | some version => .ok (UInt64.ofNat version)
  | none => .error (.decode .noVersion)

/-- The current version, which is tracked from then on. -/
def refreshVersion : Dialogue (Except Error UInt64) :=
  ask ⟨.get, s!"{configurationPath}/frontends", none⟩ listedVersion

/-- The names of the listed objects, in order. -/
def listedNames (collection : String) (listing : Json) : Except Error (List String) :=
  match (listing.field? "data").bind Json.array? with
  | none => .error (.decode (.noData collection))
  | some objects =>
    let names := objects.filterMap fun o => (o.field? "name").bind Json.string?
    .ok (SortedMap.ofList (names.map (·, ()))).keys

/-- The names of the committed objects of a collection. -/
def listNames (collection : String) : Dialogue (Except Error (List String)) :=
  ask ⟨.get, s!"{configurationPath}/{collection}", none⟩ (listedNames collection)

/-- The ticket for a transaction that was opened at a version. -/
def openedTicket (version : UInt64) (answer : Json) : Except Error Ticket :=
  match TransactionInfo.read answer.source with
  | .ok info => .ok ⟨info.id, version⟩
  | .error cause => .error (.decode (.noTransaction cause))

/-- Open a transaction at the tracked version. -/
def begin (tracked : UInt64) : Dialogue (Except Error Ticket) :=
  ask ⟨.post, s!"{transactionsPath}?version={tracked}", none⟩ (openedTicket tracked)

/-- Stage an operation. -/
def stage (ticket : Ticket) (op : Operation) : Dialogue (Except Error Unit) :=
  ask (op.request ticket.id) accept

/-- Make the staged operations visible at once; gives the version to track. -/
def commit (tracked : UInt64) (ticket : Ticket) : Dialogue (Except Error UInt64) :=
  if tracked ≠ ticket.version then .done (.error (.versionConflict ticket.version tracked))
  else ask ⟨.put, transactionPath ticket.id, none⟩ fun _ => .ok (tracked + 1)

/-- Drop the staged operations. -/
def abort (ticket : Ticket) : Dialogue (Except Error Unit) :=
  ask ⟨.delete, transactionPath ticket.id, none⟩ accept

end Client

end MeshSync.Dataplane
