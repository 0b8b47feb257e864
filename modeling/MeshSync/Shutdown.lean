import MeshSync.Wait

/-! # Shutdown

    A signal that is given once and reaches everybody who subscribed to it,
    before or after.  A subscriber's own token can be cancelled without the
    others noticing. -/

namespace MeshSync

/-- The signal and the tokens given out for it. -/
structure Shutdown where
  triggered : Bool
  /-- For each token, whether it was cancelled on its own. -/
  children : List Bool
  /-- How many wait for the signal. -/
  waiters : Nat
  deriving DecidableEq, Inhabited

namespace Shutdown

/-- The signal has not been given. -/
def new : Shutdown := ⟨false, [], 0⟩

/-- Give out a token. -/
def subscribe (s : Shutdown) : Shutdown := { s with children := s.children ++ [false] }

/-- Give the signal. -/
def trigger (s : Shutdown) : Shutdown := { s with triggered := true }

/-- Cancel one token. -/
def cancelChild (s : Shutdown) (n : Nat) : Shutdown := { s with children := s.children.set n true }

/-- Somebody starts to wait for the signal. -/
def wait (s : Shutdown) : Shutdown := { s with waiters := s.waiters + 1 }

/-- For each token, whether it is cancelled. -/
def cancelled (s : Shutdown) : List Bool := s.children.map (s.triggered || ·)

/-- For each waiter, whether the signal reached it. -/
def woken (s : Shutdown) : List Bool := List.replicate s.waiters s.triggered

/-- How long it takes to wait for tasks that run for so many milliseconds each,
    none for a task that has ended, when the wait is given up after `timeout`. -/
def drainTime (tasks : List (Option Nat)) (timeout : Nat) : Nat :=
  Wait.time (min timeout (tasks.foldl (fun t d => max t (d.getD 0)) 0))

end Shutdown

end MeshSync
