import MeshSync.Dataplane.Store

/-! # Recording store

    A store that remembers the requests it got and can be told to refuse some
    of them.  A request counts as got before it is refused. -/

namespace MeshSync.Dataplane

/-- A store with the requests it got. -/
structure Recorder where
  store : Store
  /-- The requests, in their order. -/
  requests : List Request
  /-- Parts of paths whose next request is refused, each once. -/
  failures : List String

namespace Recorder

/-- A store without objects. -/
def new (version : UInt64) : Recorder := ⟨.new version, [], []⟩

/-- Refuse the next request whose path has this part. -/
def failNext (r : Recorder) (part : String) : Recorder :=
  { r with failures := r.failures ++ [part] }

/-- Forget the requests. -/
def clear (r : Recorder) : Recorder := { r with requests := [] }

/-- The requests that could change the store. -/
def mutations (r : Recorder) : List Request := r.requests.filter (·.method ≠ .get)

/-- Drop the first element that `p` picks, if there is one. -/
def dropFirst {α : Type} (p : α → Bool) : List α → Option (List α)
  | [] => none
  | a :: as => if p a then some as else (dropFirst p as).map (a :: ·)

/-- The recorder after a request, and the answer to it. -/
def send (r : Recorder) (request : Request) : Recorder × Except Error Json :=
  let r := { r with requests := r.requests ++ [request] }
  match dropFirst (Text.contains request.path ·) r.failures with
  | some failures => ({ r with failures := failures }, .error (Refusal.injected.error request))
  | none =>
    match r.store.handle request with
    | (store, .ok answer) => ({ r with store := store }, .ok answer)
    | (store, .error refusal) => ({ r with store := store }, .error (refusal.error request))

end Recorder

end MeshSync.Dataplane
