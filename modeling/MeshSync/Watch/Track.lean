import MeshSync.Mesh.Error
import MeshSync.Watch.Cursor

/-! # Tracks

    A track follows one thing in the mesh: it asks for what comes after its
    cursor, writes what is new into the shared state, signals the change, and
    asks again.  After an error it starts over and pauses.  Each of these is a
    step of its own, so that steps of other tracks may come between. -/

namespace MeshSync.Watch

/-- An answer to a query. -/
abbrev Reply (α : Type) := Except Mesh.Error (α × Mesh.Position)

/-- What a track is about to do or waits for. -/
inductive Phase (α : Type) where
  /-- Ask. -/
  | asking
  /-- Wait for the answer. -/
  | waiting
  /-- Look at the answer. -/
  | received (reply : Reply α)
  /-- Signal the change that it wrote. -/
  | written
  /-- Arrive at the gate, if it has not, and ask again. -/
  | settled
  /-- Wait until it may start over. -/
  | pausing
  /-- Nothing any more. -/
  | stopped

/-- A track. -/
structure Track (α : Type) where
  cursor : Cursor
  phase : Phase α
  /-- Whether the readiness gate waits for it. -/
  awaited : Bool

/-- A phase without what it holds. -/
inductive Stage where
  | asking
  | waiting
  | received
  | written
  | settled
  | pausing
  | stopped
  deriving DecidableEq, Inhabited

/-- What a track is about to do. -/
def Track.stage {α : Type} (t : Track α) : Stage :=
  match t.phase with
  | .asking => .asking
  | .waiting => .waiting
  | .received _ => .received
  | .written => .written
  | .settled => .settled
  | .pausing => .pausing
  | .stopped => .stopped

/-- What an answer means to a track. -/
inductive News (α : Type) where
  | changed (content : α)
  | same
  | failed

namespace Track

variable {α : Type}

/-- A track that has not asked yet. -/
def new (cursor : Cursor) (awaited : Bool) : Track α := ⟨cursor, .asking, awaited⟩

/-- Ask. -/
def ask (t : Track α) : Option (Track α) :=
  match t.phase with
  | .asking => some { t with phase := .waiting }
  | _ => none

/-- Get the answer. -/
def receive (t : Track α) (reply : Reply α) : Option (Track α) :=
  match t.phase with
  | .waiting => some { t with phase := .received reply }
  | _ => none

/-- Look at the answer. -/
def process (t : Track α) : Option (Track α × News α) :=
  match t.phase with
  | .received (.error _) => some ({ t with cursor := t.cursor.reset, phase := .pausing }, .failed)
  | .received (.ok (content, position)) =>
    let (cursor, isNew) := t.cursor.advance position
    if isNew then some ({ t with cursor := cursor, phase := .written }, .changed content)
    else some ({ t with cursor := cursor, phase := .settled }, .same)
  | _ => none

/-- Signal the change. -/
def notify (t : Track α) : Option (Track α) :=
  match t.phase with
  | .written => some { t with phase := .settled }
  | _ => none

/-- Arrive at the gate. -/
def arrive (t : Track α) : Option (Track α) :=
  match t.phase with
  | .settled => some { t with phase := .asking, awaited := false }
  | _ => none

/-- Start over. -/
def wake (t : Track α) : Option (Track α) :=
  match t.phase with
  | .pausing => some { t with phase := .asking }
  | _ => none

/-- Stop, which a track does only where it waits. -/
def stop (t : Track α) : Option (Track α) :=
  match t.phase with
  | .waiting => some { t with phase := .stopped }
  | .pausing => some { t with phase := .stopped }
  | _ => none

/-- Stop without writing what was received. -/
def drop (t : Track α) : Track α := { t with phase := .stopped }

end Track

end MeshSync.Watch
