import MeshSync.Mesh.Error
import MeshSync.Mesh.Query

/-! # A control plane that follows a script

    What the mesh registers, set by hand, and failures that befall the next
    queries for something.  A query whose asker has read everything is not
    answered before its wait is over. -/

namespace MeshSync.Rehearsal

/-- The key that a query's subject is registered under. -/
def subjectKey : Mesh.Subject → String
  | .agentService id => s!"service:{id}"
  | .caRoots => "ca"
  | .caLeaf service => if service.isEmpty then "leaf" else s!"leaf:{service}"
  | .instances service => s!"health:{service}"

/-- What is registered under a key. -/
inductive Content where
  | service (s : Mesh.Service)
  | caRoots (r : Mesh.CaRoots)
  | leaf (l : Mesh.Leaf)
  | instances (es : List Mesh.Instance)

/-- A registered thing and how far one who knows it has read. -/
structure Resource where
  index : UInt64
  hash : String
  content : Content

namespace Resource

/-- How far an answer with this resource reads. -/
def position (r : Resource) : Mesh.Position := ⟨r.index, r.hash⟩

/-- Whether an asker has read this resource. -/
def isKnown (r : Resource) (q : Mesh.Query) : Bool :=
  match r.content with
  | .service _ => q.hash = r.hash
  | _ => q.index = r.index

end Resource

/-- A control plane. -/
structure ControlPlane where
  /-- The sidecar of each service, by their ids. -/
  sidecars : SortedMap String String
  resources : SortedMap String Resource
  /-- How many of the next queries for a key fail. -/
  failures : SortedMap String Nat

namespace ControlPlane

/-- The id of a service's sidecar. -/
def sidecar (p : ControlPlane) (serviceId : String) : Except Mesh.Error String :=
  match p.sidecars.get? serviceId with
  | some id => .ok id
  | none => .error (.notFound s!"sidecar for {serviceId}")

/-- Register something, in place of what was there. -/
def set (p : ControlPlane) (key : String) (r : Resource) : ControlPlane :=
  { p with resources := p.resources.insert key r }

/-- Remove what is registered. -/
def remove (p : ControlPlane) (key : String) : ControlPlane :=
  { p with resources := p.resources.erase key }

/-- Let so many of the next queries fail, whatever was said of them before. -/
def fail (p : ControlPlane) (key : String) (count : Nat) : ControlPlane :=
  { p with failures := p.failures.insert key count }

/-- The error of a query that was made to fail. -/
def injected (key : String) : Mesh.Error := .status key 500 "injected failure"

/-- The answer to a query, if it has one already; `expired` says that its wait
    is over. -/
def answer (p : ControlPlane) (key : String) (q : Mesh.Query) (expired : Bool) :
    ControlPlane × Option (Except Mesh.Error Resource) :=
  match p.failures.get? key with
  | some (n + 1) => ({ p with failures := p.failures.insert key n }, some (.error (injected key)))
  | _ =>
    match p.resources.get? key with
    | none => (p, some (.error (.notFound key)))
    | some r =>
      if r.isKnown q && q.wait ≠ 0 && !expired then (p, none) else (p, some (.ok r))

end ControlPlane

end MeshSync.Rehearsal
