import MeshSync.Mesh.Query

/-! # Cursors

    How far a track has read.  `advance` tells whether an answer brings
    anything new; an index that goes back means that the other side started
    over, and so does the track. -/

namespace MeshSync.Watch

/-- How far a track has read. -/
inductive Cursor where
  | index (n : UInt64)
  | hash (h : String)
  deriving DecidableEq, Inhabited

namespace Cursor

/-- The query for what comes next. -/
def query (c : Cursor) (wait : Nat) (datacenter : Option String) : Mesh.Query :=
  match c with
  | index n => { Mesh.Query.after n with wait := wait, datacenter := datacenter }
  | hash h => { Mesh.Query.unlike h with wait := wait, datacenter := datacenter }

/-- The cursor after an answer, and whether the content is new. -/
def advance (c : Cursor) (p : Mesh.Position) : Cursor × Bool :=
  match c with
  | index n => (index (if p.index < n then 0 else p.index), n ≠ p.index)
  | hash h => (hash p.hash, h ≠ p.hash)

/-- The cursor of a track that starts over. -/
def reset : Cursor → Cursor
  | index _ => index 0
  | hash _ => hash ""

/-- Whether a query at this cursor is answered at once. -/
def isStart (c : Cursor) : Bool := c = c.reset

end Cursor

end MeshSync.Watch
