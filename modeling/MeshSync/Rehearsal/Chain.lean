import MeshSync.Reconcile.Feed
import MeshSync.Rehearsal.Trial
import MeshSync.Rehearsal.World

/-! # Watcher and reconciler together

    A watcher on trial whose snapshots feed a reconciler's loop. -/

namespace MeshSync.Rehearsal

/-- A watcher, a loop, and the world that the loop talks to. -/
structure Chain where
  trial : Trial
  feed : Reconcile.Feed
  world : World

namespace Chain

/-- Send snapshots, one after another. -/
def pushAll (world : World) (feed : Reconcile.Feed) : List Snapshot → World × Reconcile.Feed
  | [] => (world, feed)
  | s :: rest =>
    let (world, feed, _) := (feed.push s).run World.surroundings world
    pushAll world feed rest

/-- The loop gets what was read, and learns when there will be no more. -/
def forward (c : Chain) : Chain :=
  let (world, feed) := pushAll c.world c.feed c.trial.taken
  let feed := if c.trial.watcher.result?.isSome then feed.close else feed
  ⟨c.trial.reported, feed, world⟩

/-- The trial goes on. -/
def proceed (c : Chain) (f : Trial → Trial) : Chain := { c with trial := f c.trial }.forward

/-- Both are told to stop. -/
def shutdown (c : Chain) : Chain :=
  { c with feed := c.feed.shutdown }.proceed (·.impose .shutdown)

/-- A chain at its start. -/
def start (trial : Trial) (options : Reconcile.Options) (version : UInt64) : Chain :=
  forward ⟨trial, .new options version, ⟨.new version, .new none⟩⟩

end Chain

end MeshSync.Rehearsal
