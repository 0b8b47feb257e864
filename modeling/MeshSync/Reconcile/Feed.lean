import MeshSync.Reconcile.Loop

/-! # Feeding the loop

    A loop with the channel that snapshots come by.  The loop ends when its
    end of the channel has nobody at the other one, or when it is told to. -/

namespace MeshSync.Reconcile

/-- A loop and its channel. -/
structure Feed where
  loop : Loop
  /-- Whether somebody may still send. -/
  attached : Bool

namespace Feed

/-- A loop that has seen no snapshot. -/
def new (options : Options) (tracked : UInt64) : Feed := ⟨.new options tracked, true⟩

/-- Send a snapshot and let it be applied; false if nobody takes it any more.
    Where nobody sends, nothing happens. -/
def push (f : Feed) (s : Snapshot) : Dialogue (Feed × Bool) :=
  if !f.attached then .done (f, true)
  else if !f.loop.running then .done (f, false)
  else (f.loop.receive s).bind fun l => .done ({ f with loop := l }, true)

/-- Nobody will send any more. -/
def close (f : Feed) : Feed := ⟨f.loop.stop, false⟩

/-- The loop is told to end. -/
def shutdown (f : Feed) : Feed := { f with loop := f.loop.stop }

end Feed

end MeshSync.Reconcile
