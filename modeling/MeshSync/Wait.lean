/-! # Waits

    How long a wait takes.  None takes longer than thirty years. -/

namespace MeshSync.Wait

/-- The longest time that a wait takes, in milliseconds. -/
def longest : Nat := 30 * 365 * 24 * 60 * 60 * 1000

/-- The time that a wait for so many milliseconds takes. -/
def time (ms : Nat) : Nat := min ms longest

end MeshSync.Wait
