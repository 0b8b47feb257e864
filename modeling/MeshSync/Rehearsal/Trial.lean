import MeshSync.Rehearsal.ControlPlane
import MeshSync.Wait
import MeshSync.Watch.Watcher

/-! # A watcher on trial

    A watcher over a control plane that follows a script, on a clock that only
    moves when it is told to.  Between two moves of the clock everything that
    can happen happens, one task at a time: a task runs until it has to wait,
    and tasks that it lets go on line up behind those that could before. -/

namespace MeshSync.Rehearsal

open Watch

/-- A query that has not been answered. -/
structure Asked where
  track : TrackId
  key : String
  query : Mesh.Query
  /-- When it was asked. -/
  since : Nat

/-- A query as it was asked, for the record. -/
structure Entry where
  key : String
  at_ : Nat
  query : Mesh.Query

/-- One that runs on its own. -/
inductive Task where
  | track (t : TrackId)
  | publisher
  | reader
  deriving DecidableEq

/-- A watcher on trial. -/
structure Trial where
  /-- The time, in milliseconds. -/
  now : Nat
  plane : ControlPlane
  watcher : Watcher
  /-- How long a track pauses after an error. -/
  delay : Nat
  asked : List Asked
  /-- When the pauses of tracks end. -/
  pauses : List (TrackId × Nat)
  /-- The queries since the last report. -/
  log : List Entry
  /-- The snapshots that were read since the last report. -/
  taken : List Snapshot
  /-- Whether somebody reads the output. -/
  reading : Bool
  /-- The tasks that can go on, in line; the first one runs. -/
  line : List Task

namespace Trial

/-! ## Tracks -/

/-- Let an event happen, if it may. -/
def happen (t : Trial) (e : Event) : Option Trial :=
  (t.watcher.step e).map fun w => { t with watcher := w }

/-- The event that brings an answer to a track. -/
def replyEvent (track : TrackId) : Except Mesh.Error Resource → Event
  | .error e =>
    match track with
    | .caRoots => .caRootsReply (.error e)
    | .leaf => .leafReply (.error e)
    | .proxy => .proxyReply (.error e)
    | .service => .serviceReply (.error e)
    | .upstream id => .upstreamReply id (.error e)
  | .ok r =>
    match track, r.content with
    | .caRoots, .caRoots c => .caRootsReply (.ok (c, r.position))
    | .leaf, .leaf c => .leafReply (.ok (c, r.position))
    | .proxy, .service c => .proxyReply (.ok (c, r.position))
    | .service, .service c => .serviceReply (.ok (c, r.position))
    | .upstream id, .instances c => .upstreamReply id (.ok (c, r.position))
    | .caRoots, _ => .caRootsReply (.error .http)
    | .leaf, _ => .leafReply (.error .http)
    | .proxy, _ => .proxyReply (.error .http)
    | .service, _ => .serviceReply (.error .http)
    | .upstream id, _ => .upstreamReply id (.error .http)

/-- Forget the query and the pause of a track. -/
def forget (t : Trial) (track : TrackId) : Trial :=
  { t with
    asked := t.asked.filter (·.track ≠ track)
    pauses := t.pauses.filter (·.1 ≠ track) }

/-- A track asks. -/
def ask (t : Trial) (track : TrackId) : Option Trial := do
  let (subject, query) ← t.watcher.question? track
  let t ← t.happen (.ask track)
  let key := subjectKey subject
  return { t with
    asked := t.asked ++ [⟨track, key, query, t.now⟩]
    log := t.log ++ [⟨key, t.now, query⟩] }

/-- A track gets its answer, if there is one. -/
def hear (t : Trial) (track : TrackId) : Option Trial := do
  let a ← t.asked.find? (·.track = track)
  let (plane, answer) := t.plane.answer a.key a.query (a.since + Wait.time a.query.wait ≤ t.now)
  let t := { t.forget track with plane := plane }
  t.happen (replyEvent track (← answer))

/-- A track looks at its answer; after an error its pause begins. -/
def look (t : Trial) (track : TrackId) : Option Trial := do
  let t ← t.happen (.process track)
  if t.watcher.stage? track = some .pausing then
    return { t with pauses := t.pauses ++ [(track, t.now + Wait.time t.delay)] }
  return t

/-- A track's pause ends, if its time has come. -/
def resume (t : Trial) (track : TrackId) : Option Trial := do
  let (_, time) ← t.pauses.find? (·.1 = track)
  if time ≤ t.now then (t.forget track).happen (.wake track) else none

/-- A track does what it can. -/
def moveTrack (t : Trial) (track : TrackId) : Option Trial := do
  let halt := (t.forget track).happen (.stop track)
  match ← t.watcher.stage? track with
  | .asking => t.ask track
  | .waiting => halt <|> t.hear track
  | .received => t.look track
  | .written => t.happen (.notify track)
  | .settled => t.happen (.arrive track)
  | .pausing => halt <|> t.resume track
  | .stopped => none

/-! ## Everything else -/

/-- What the publisher can do. -/
def publisherEvents : List Event := [.fail, .quit, .pass, .drain, .build, .deliver]

/-- The reader takes a snapshot, if it reads and there is one. -/
def read (t : Trial) : Option Trial := do
  if !t.reading then none
  let s ← t.watcher.output.held
  let t ← t.happen .take
  return { t with taken := t.taken ++ [s] }

/-! ## Tasks -/

/-- A task does what it can. -/
def moveTask (t : Trial) : Task → Option Trial
  | .track track => t.moveTrack track
  | .publisher => publisherEvents.findSome? t.happen
  | .reader => t.read

/-- Put a task into line, unless it is there. -/
def lineUp (line : List Task) (task : Task) : List Task :=
  if line.contains task then line else line ++ [task]

/-- Put tasks into line. -/
def wake (t : Trial) (tasks : List Task) : Trial := { t with line := tasks.foldl lineUp t.line }

/-- The tracks of some watches. -/
def watchTasks (us : List UpstreamWatch) : List Task := us.map fun u => .track (.upstream u.id)

/-- The tasks that can go on since the watcher has changed: tracks that are to
    stop or were started, the publisher where it waited for an arrival, for a
    signal or for room in the output, and the reader where there is something
    to read. -/
def wakes (old new : Watcher) : List Task :=
  let stopped := if new.stopping && !old.stopping then new.tracks.map Task.track else []
  let cancelled := watchTasks ((old.watches.zip new.watches).filterMap fun (u, v) =>
    if v.cancelled && !u.cancelled then some v else none)
  let started := watchTasks (new.watches.drop old.watches.length)
  let awaited (w : Watcher) :=
    [w.caRoots.awaited, w.leaf.awaited, w.proxy.awaited, w.service.awaited]
  let publisher : Bool := match new.publisher with
    | .gated => awaited new != awaited old
    | .listening => new.signal && !old.signal
    | .sending _ => old.output.held.isSome && new.output.held.isNone
    | .drained => false
    | .finished _ => false
  stopped ++ cancelled ++ started ++ (if publisher then [.publisher] else []) ++
    (if new.output.held.isSome && old.output.held.isNone then [.reader] else [])

/-- Every task. -/
def tasks (t : Trial) : List Task := t.watcher.tracks.map .track ++ [.publisher, .reader]

/-- The task in front does something, or makes room for the next; where none is
    in line, one that can go on steps up. -/
def move (t : Trial) : Option Trial :=
  match t.line with
  | task :: rest =>
    match t.moveTask task with
    | some moved => some (moved.wake (wakes t.watcher moved.watcher))
    | none => some { t with line := rest }
  | [] => (t.tasks.find? fun task => (t.moveTask task).isSome).map fun task => t.wake [task]

/-- Everything that can happen happens, in at most so many steps. -/
def settle : Nat → Trial → Trial
  | 0, t => t
  | fuel + 1, t =>
    match t.move with
    | some t => settle fuel t
    | none => t

/-! ## Time -/

/-- The queries and pauses that may end by themselves: their tracks, when they
    began and when they end. -/
def timers (t : Trial) : List (TrackId × Nat × Nat) :=
  let answers := t.asked.map fun a : Asked => (a.track, a.since, a.since + Wait.time a.query.wait)
  let pauses := t.pauses.map fun p : TrackId × Nat => (p.1, p.2 - Wait.time t.delay, p.2)
  (answers ++ pauses).mergeSort fun a b => a.2.1 ≤ b.2.1

/-- The next time at which something may happen by itself. -/
def nextTime? (t : Trial) : Option Nat := ((t.timers.map (·.2.2)).filter (t.now < ·)).min?

/-- Let it be a later time, with the tasks in line whose time has come. -/
def tick (t : Trial) (time : Nat) : Trial :=
  wake { t with now := time }
    ((t.timers.filter fun due => due.2.2 = time).map fun due => .track due.1)

/-- Let time pass until a given one, settling whenever something may happen,
    in at most so many steps of both kinds. -/
def passUntil (time : Nat) : Nat → Trial → Trial
  | 0, t => t
  | fuel + 1, t =>
    match t.nextTime? with
    | some next =>
      if next ≤ time then passUntil time fuel (settle (fuel + 1) (t.tick next))
      else { t with now := time }
    | none => { t with now := time }

/-! ## Steps -/

/-- How many steps there may be between two reports. -/
def patience : Nat := 1000000

/-- The trial of a watcher for a service, at its start. -/
def start (plane : ControlPlane) (serviceId : String) (delay wait : Nat) : Trial :=
  let trial (plane : ControlPlane) (log : List Entry) (watcher : Watcher) : Trial :=
    { now := 0, plane := plane, watcher := watcher, delay := delay, asked := [], pauses := []
      log := log, taken := [], reading := true
      line := [.track .caRoots, .track .leaf, .track .proxy, .track .service] }
  match plane.sidecar serviceId with
  | .error e => trial plane [] (.start serviceId wait (.error e) (.error e))
  | .ok proxyId =>
    let key := subjectKey (.agentService serviceId)
    let (plane, answer) := plane.answer key .immediate false
    let service : Except Mesh.Error Mesh.Service := match answer with
      | some (.ok ⟨_, _, .service s⟩) => .ok s
      | some (.error e) => .error e
      | _ => .error .http
    settle patience (trial plane [⟨key, 0, .immediate⟩] (.start serviceId wait (.ok proxyId) service))

/-- The control plane changes. -/
def change (t : Trial) (f : ControlPlane → ControlPlane) : Trial :=
  settle patience ({ t with plane := f t.plane }.wake (t.asked.map fun a : Asked => Task.track a.track))

/-- Time passes. -/
def elapse (t : Trial) (ms : Nat) : Trial := passUntil (t.now + Wait.time ms) patience (settle patience t)

/-- Something is done to the watcher from outside. -/
def impose (t : Trial) (e : Event) : Trial :=
  settle patience (((t.happen e).getD t).wake (.publisher :: t.watcher.tracks.map Task.track))

/-- The output is read from now on, or no longer. -/
def setReading (t : Trial) (reading : Bool) : Trial :=
  settle patience ({ t with reading := reading }.wake [.reader])

/-- Forget what was reported. -/
def reported (t : Trial) : Trial := { t with log := [], taken := [] }

end Trial

end MeshSync.Rehearsal
