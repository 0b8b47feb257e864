import MeshSync.Mesh.Registration

/-! # Blocking queries

    A query says what it asks for and how far the asker has read.  The answer
    comes when there is more to read or the asker has waited long enough, and
    says how far it reads. -/

namespace MeshSync.Mesh

/-- What a query asks for. -/
inductive Subject where
  /-- A service registered on the local agent. -/
  | agentService (id : String)
  | caRoots
  | caLeaf (service : String)
  /-- The instances of a service that take part in the mesh. -/
  | instances (service : String)
  deriving DecidableEq, Inhabited

/-- How a query is asked. -/
structure Query where
  /-- The index that has been read; zero for none. -/
  index : UInt64
  /-- The content hash that has been read; empty for none. -/
  hash : String
  /-- How long the answer may take, in milliseconds; zero to get it at once. -/
  wait : Nat
  /-- The datacenter that is asked; the agent's own when there is none. -/
  datacenter : Option String
  deriving DecidableEq, Inhabited

namespace Query

/-- How long an answer may take where nothing else is said. -/
def standardWait : Nat := 600000

/-- Ask for the present content. -/
def immediate : Query := ⟨0, "", 0, none⟩

/-- Ask for what comes after an index. -/
def after (index : UInt64) : Query := ⟨index, "", standardWait, none⟩

/-- Ask for content with another hash. -/
def unlike (hash : String) : Query := ⟨0, hash, standardWait, none⟩

end Query

/-- How far an answer reads. -/
structure Position where
  index : UInt64
  hash : String
  deriving DecidableEq, Inhabited

end MeshSync.Mesh
