/-! # Readiness gate

    A gate counts the tokens it has given out.  Each token arrives at most
    once, and the gate is open while none is outstanding.  A token that is
    lost keeps the gate closed.  Whoever waits passes at the first moment the
    gate is open and is not stopped again by tokens given out later. -/

namespace MeshSync.Watch

/-- What became of a token. -/
inductive Token where
  | held
  | arrived
  | lost
  deriving DecidableEq, Inhabited

/-- The tokens given out, and for each waiter whether it has passed. -/
structure Gate where
  tokens : List Token
  waiters : List Bool
  deriving DecidableEq, Inhabited

namespace Gate

/-- A gate that waits for nobody. -/
def new : Gate := ⟨[], []⟩

/-- How many tokens have not arrived. -/
def remaining (g : Gate) : Nat := g.tokens.countP (· ≠ .arrived)

/-- Whether the gate is open. -/
def isOpen (g : Gate) : Bool := g.remaining = 0

/-- Let waiters pass if the gate is open. -/
def admitted (g : Gate) : Gate :=
  if g.isOpen then { g with waiters := g.waiters.map fun _ => true } else g

/-- Give out a token. -/
def issue (g : Gate) : Gate := { g with tokens := g.tokens ++ [.held] }

/-- Change a token that is still held. -/
def settle (g : Gate) (n : Nat) (fate : Token) : Gate :=
  match g.tokens[n]? with
  | some .held => { g with tokens := g.tokens.set n fate }
  | _ => g

/-- A token arrives. -/
def arrive (g : Gate) (n : Nat) : Gate := (g.settle n .arrived).admitted

/-- A token is lost. -/
def lose (g : Gate) (n : Nat) : Gate := g.settle n .lost

/-- Somebody starts to wait. -/
def wait (g : Gate) : Gate := { g with waiters := g.waiters ++ [false] }.admitted

end Gate

end MeshSync.Watch
