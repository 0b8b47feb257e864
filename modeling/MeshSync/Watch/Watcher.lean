import MeshSync.Metrics
import MeshSync.Watch.Definition
import MeshSync.Watch.Track

/-! # The watcher

    Four tracks follow the authorities, the certificate, the sidecar and the
    service, and one more follows each declared upstream.  A publisher waits
    until each of the four has had an answer; from then on it turns every
    signal that it takes into one snapshot of the state as it then is, and
    sends it to an output that holds one.  Signals that are not yet taken
    collapse into one, which loses nothing, as snapshots are of the whole
    state.

    `Watcher.step` says which events may happen in a state and what they lead
    to.  Everything else - when answers come, how long a pause is, who runs
    first - is left to whoever chooses the events. -/

namespace MeshSync.Watch

/-- Why the watcher ended without being told to. -/
inductive WatchError where
  | proxyLookup (serviceId : String) (cause : Mesh.Error)
  | serviceLookup (serviceId : String) (cause : Mesh.Error)
  | outputClosed
  deriving DecidableEq

/-- The wording of an error. -/
def WatchError.message : WatchError → String
  | .proxyLookup id cause => s!"failed to resolve sidecar proxy for '{id}': {cause.message}"
  | .serviceLookup id cause => s!"failed to look up service '{id}': {cause.message}"
  | .outputClosed => "snapshot receiver closed"

/-- The watch of an upstream. -/
structure UpstreamWatch where
  id : WatchId
  service : String
  datacenter : String
  /-- Whether the upstream it was started for is gone. -/
  cancelled : Bool
  track : Track (List Mesh.Instance)

/-- What the publisher is about to do or waits for. -/
inductive Publisher where
  /-- Wait for the gate. -/
  | gated
  /-- Wait for a signal. -/
  | listening
  /-- Take a snapshot. -/
  | drained
  /-- Send a snapshot. -/
  | sending (s : Snapshot)
  /-- Nothing any more. -/
  | finished (result : Except WatchError Unit)

/-- The output. -/
structure Output where
  /-- A snapshot that was sent and not yet taken. -/
  held : Option Snapshot
  isOpen : Bool

/-- How often a query failed, by what was followed. -/
structure ErrorCounts where
  caRoots : Nat
  leaf : Nat
  proxy : Nat
  service : Nat
  upstream : Nat
  deriving DecidableEq, Inhabited

/-- The lines of the counts, in order. -/
def ErrorCounts.lines (c : ErrorCounts) : List String :=
  let line := Metrics.counter "sidecar_watch_errors_total" "track"
  line "ca_roots" c.caRoots ++ line "leaf" c.leaf ++ line "proxy" c.proxy ++
    line "service" c.service ++ line "upstream" c.upstream

/-- Who is watched for. -/
structure Identity where
  serviceId : String
  serviceName : String
  proxyId : String
  deriving DecidableEq, Inhabited

/-- A watcher. -/
structure Watcher where
  identity : Identity
  /-- How long an answer may take, in milliseconds. -/
  wait : Nat
  state : State
  caRoots : Track Mesh.CaRoots
  leaf : Track Mesh.Leaf
  proxy : Track Mesh.Service
  service : Track Mesh.Service
  /-- The watches of upstreams, in the order in which they were started. -/
  watches : List UpstreamWatch
  /-- Whether a change has been signalled that the publisher has not taken. -/
  signal : Bool
  publisher : Publisher
  output : Output
  /-- Whether everything has been told to stop. -/
  stopping : Bool
  /-- How many snapshots were taken. -/
  snapshots : Nat
  errors : ErrorCounts

/-- Names a track. -/
inductive TrackId where
  | caRoots
  | leaf
  | proxy
  | service
  | upstream (id : WatchId)
  deriving DecidableEq, Inhabited

/-- What may happen. -/
inductive Event where
  | ask (t : TrackId)
  | caRootsReply (r : Reply Mesh.CaRoots)
  | leafReply (r : Reply Mesh.Leaf)
  | proxyReply (r : Reply Mesh.Service)
  | serviceReply (r : Reply Mesh.Service)
  | upstreamReply (id : WatchId) (r : Reply (List Mesh.Instance))
  | process (t : TrackId)
  | notify (t : TrackId)
  | arrive (t : TrackId)
  | wake (t : TrackId)
  | stop (t : TrackId)
  /-- The publisher finds the gate open. -/
  | pass
  /-- The publisher takes the signal. -/
  | drain
  /-- The publisher takes a snapshot, if there is one. -/
  | build
  /-- The publisher puts the snapshot into the output. -/
  | deliver
  /-- The publisher finds the output closed. -/
  | fail
  /-- The publisher stops. -/
  | quit
  /-- Somebody takes the snapshot out of the output. -/
  | take
  /-- Nobody will take snapshots any more. -/
  | closeOutput
  /-- Everything is told to stop. -/
  | shutdown

namespace Watcher

/-- A watcher at its start. -/
def new (identity : Identity) (wait : Nat) : Watcher :=
  { identity := identity
    wait := wait
    state := .empty
    caRoots := .new (.index 0) true
    leaf := .new (.index 0) true
    proxy := .new (.hash "") true
    service := .new (.hash "") true
    watches := []
    signal := false
    publisher := .gated
    output := ⟨none, true⟩
    stopping := false
    snapshots := 0
    errors := ⟨0, 0, 0, 0, 0⟩ }

/-- A watcher that ended before its tracks began. -/
def ended (identity : Identity) (wait : Nat) (e : WatchError) : Watcher :=
  let w := new identity wait
  { w with
    caRoots := w.caRoots.drop
    leaf := w.leaf.drop
    proxy := w.proxy.drop
    service := w.service.drop
    publisher := .finished (.error e)
    stopping := true }

/-- The watcher of a service: its sidecar is looked up first, then the service
    itself, and without them nothing is watched. -/
def start (serviceId : String) (wait : Nat) (proxy : Except Mesh.Error String)
    (service : Except Mesh.Error Mesh.Service) : Watcher :=
  match proxy, service with
  | .error e, _ => ended ⟨serviceId, "", ""⟩ wait (.proxyLookup serviceId e)
  | .ok proxyId, .error e => ended ⟨serviceId, "", proxyId⟩ wait (.serviceLookup serviceId e)
  | .ok proxyId, .ok s => new ⟨serviceId, s.name, proxyId⟩ wait

/-- The result, once the watcher has ended. -/
def result? (w : Watcher) : Option (Except WatchError Unit) :=
  match w.publisher with
  | .finished result => some result
  | _ => none

/-! ## Tracks -/

/-- The watch with an id. -/
def watch? (w : Watcher) (id : WatchId) : Option UpstreamWatch := w.watches.find? (·.id = id)

/-- Put a watch in place of the one with its id. -/
def setWatch (w : Watcher) (u : UpstreamWatch) : Watcher :=
  { w with watches := w.watches.map fun v => if v.id = u.id then u else v }

/-- Change the track of a watch. -/
def onWatch (w : Watcher) (id : WatchId)
    (f : Track (List Mesh.Instance) → Option (Track (List Mesh.Instance))) : Option Watcher := do
  let u ← w.watch? id
  let track ← f u.track
  return w.setWatch { u with track := track }

/-- Change a track in a way that does not look at its content. -/
def onTrack (w : Watcher) (t : TrackId) (f : {α : Type} → Track α → Option (Track α)) :
    Option Watcher :=
  match t with
  | .caRoots => (f w.caRoots).map ({ w with caRoots := · })
  | .leaf => (f w.leaf).map ({ w with leaf := · })
  | .proxy => (f w.proxy).map ({ w with proxy := · })
  | .service => (f w.service).map ({ w with service := · })
  | .upstream id => w.onWatch id f

/-- What a track is about to do. -/
def stage? (w : Watcher) (t : TrackId) : Option Stage :=
  match t with
  | .caRoots => some w.caRoots.stage
  | .leaf => some w.leaf.stage
  | .proxy => some w.proxy.stage
  | .service => some w.service.stage
  | .upstream id => (w.watch? id).map (·.track.stage)

/-- Whether a track is to stop. -/
def isCancelled (w : Watcher) (t : TrackId) : Bool :=
  w.stopping || match t with
    | .upstream id => (w.watch? id).any (·.cancelled)
    | _ => false

/-- What a track asks for, and how. -/
def question? (w : Watcher) (t : TrackId) : Option (Mesh.Subject × Mesh.Query) :=
  match t with
  | .caRoots => some (.caRoots, w.caRoots.cursor.query w.wait none)
  | .leaf => some (.caLeaf w.identity.serviceName, w.leaf.cursor.query w.wait none)
  | .proxy => some (.agentService w.identity.proxyId, w.proxy.cursor.query w.wait none)
  | .service => some (.agentService w.identity.serviceId, w.service.cursor.query w.wait none)
  | .upstream id => (w.watch? id).map fun u =>
    (.instances u.service,
      u.track.cursor.query w.wait (if u.datacenter.isEmpty then none else some u.datacenter))

/-- The tracks, in order. -/
def tracks (w : Watcher) : List TrackId :=
  [.caRoots, .leaf, .proxy, .service] ++ w.watches.map (.upstream ·.id)

/-! ## Looking at answers -/

/-- The sidecar's definition has changed. -/
def redefine (w : Watcher) (service : Mesh.Service) : Watcher :=
  let d := w.state.define w.watches.length service
  let watches := w.watches.map fun u =>
    if d.cancelled.contains u.id then { u with cancelled := true } else u
  let started := d.started.map fun s : Start =>
    { id := s.id
      service := s.service
      datacenter := s.datacenter
      cancelled := false
      track := .new (.index 0) false : UpstreamWatch }
  { w with state := d.state, watches := watches ++ started }

/-- The instances of an upstream have changed: they are written unless the
    watch is cancelled, and then it stops. -/
def reportInstances (w : Watcher) (u : UpstreamWatch) (instances : List Mesh.Instance) : Watcher :=
  match w.state.upstreams.get? u.service with
  | none => w.setWatch { u with track := u.track.drop }
  | some record =>
    if w.isCancelled (.upstream u.id) then w.setWatch { u with track := u.track.drop }
    else { w.setWatch u with state := w.state.setInstances u.service record instances }

/-- A track looks at its answer. -/
def process (w : Watcher) (t : TrackId) : Option Watcher :=
  match t with
  | .caRoots => do
    let (track, news) ← w.caRoots.process
    let w := { w with caRoots := track }
    match news with
    | .changed roots => return { w with state := w.state.setRoots roots }
    | .same => return w
    | .failed => return { w with errors := { w.errors with caRoots := w.errors.caRoots + 1 } }
  | .leaf => do
    let (track, news) ← w.leaf.process
    let w := { w with leaf := track }
    match news with
    | .changed leaf => return { w with state := w.state.setLeaf leaf }
    | .same => return w
    | .failed => return { w with errors := { w.errors with leaf := w.errors.leaf + 1 } }
  | .proxy => do
    let (track, news) ← w.proxy.process
    let w := { w with proxy := track }
    match news with
    | .changed service => return w.redefine service
    | .same => return w
    | .failed => return { w with errors := { w.errors with proxy := w.errors.proxy + 1 } }
  | .service => do
    let (track, news) ← w.service.process
    let w := { w with service := track }
    match news with
    | .changed service => return { w with state := w.state.setService service }
    | .same => return w
    | .failed => return { w with errors := { w.errors with service := w.errors.service + 1 } }
  | .upstream id => do
    let u ← w.watch? id
    let (track, news) ← u.track.process
    let u := { u with track := track }
    match news with
    | .changed instances => return w.reportInstances u instances
    | .same => return w.setWatch u
    | .failed =>
      return { w.setWatch u with errors := { w.errors with upstream := w.errors.upstream + 1 } }

/-- A track signals its change; nobody hears it when the publisher has ended. -/
def notify (w : Watcher) (t : TrackId) : Option Watcher :=
  (w.onTrack t Track.notify).map fun w => { w with signal := w.result?.isNone }

/-! ## The publisher -/

/-- Whether each of the four tracks has had an answer. -/
def gateOpen (w : Watcher) : Bool :=
  !(w.caRoots.awaited || w.leaf.awaited || w.proxy.awaited || w.service.awaited)

/-- The snapshot of the present state. -/
def snapshot? (w : Watcher) : Option Snapshot :=
  w.state.snapshot? w.identity.serviceName w.identity.serviceId

/-- The publisher ends; so does everything else. -/
def finish (w : Watcher) (result : Except WatchError Unit) : Watcher :=
  { w with publisher := .finished result, signal := false, stopping := true }

/-- The publisher finds the gate open. -/
def pass (w : Watcher) : Option Watcher :=
  match w.publisher with
  | .gated => if w.gateOpen then some { w with publisher := .listening } else none
  | _ => none

/-- The publisher takes the signal. -/
def drain (w : Watcher) : Option Watcher :=
  match w.publisher with
  | .listening => if w.signal then some { w with publisher := .drained, signal := false } else none
  | _ => none

/-- The publisher takes a snapshot; without a certificate there is none, and it
    waits for the next signal. -/
def build (w : Watcher) : Option Watcher :=
  match w.publisher with
  | .drained =>
    match w.snapshot? with
    | some s => some { w with publisher := .sending s, snapshots := w.snapshots + 1 }
    | none => some { w with publisher := .listening }
  | _ => none

/-- The publisher puts the snapshot into the output. -/
def deliver (w : Watcher) : Option Watcher :=
  match w.publisher, w.output.held with
  | .sending s, none =>
    if w.output.isOpen then
      some { w with publisher := .listening, output := { w.output with held := some s } }
    else none
  | _, _ => none

/-- The publisher finds the output closed. -/
def fail (w : Watcher) : Option Watcher :=
  match w.publisher with
  | .sending _ => if w.output.isOpen then none else some (w.finish (.error .outputClosed))
  | _ => none

/-- The publisher stops. -/
def quit (w : Watcher) : Option Watcher :=
  if !w.stopping then none
  else
    match w.publisher with
    | .gated => some (w.finish (.ok ()))
    | .listening => some (w.finish (.ok ()))
    | .sending _ => some (w.finish (.ok ()))
    | .drained => none
    | .finished _ => none

/-- Somebody takes the snapshot out of the output. -/
def take (w : Watcher) : Option Watcher :=
  if w.output.held.isSome then some { w with output := { w.output with held := none } } else none

/-! ## Steps -/

/-- The watcher after an event, if it may happen. -/
def step (w : Watcher) : Event → Option Watcher
  | .ask t => w.onTrack t Track.ask
  | .caRootsReply r => (w.caRoots.receive r).map ({ w with caRoots := · })
  | .leafReply r => (w.leaf.receive r).map ({ w with leaf := · })
  | .proxyReply r => (w.proxy.receive r).map ({ w with proxy := · })
  | .serviceReply r => (w.service.receive r).map ({ w with service := · })
  | .upstreamReply id r => w.onWatch id (·.receive r)
  | .process t => w.process t
  | .notify t => w.notify t
  | .arrive t => w.onTrack t Track.arrive
  | .wake t => w.onTrack t Track.wake
  | .stop t => if w.isCancelled t then w.onTrack t Track.stop else none
  | .pass => w.pass
  | .drain => w.drain
  | .build => w.build
  | .deliver => w.deliver
  | .fail => w.fail
  | .quit => w.quit
  | .take => w.take
  | .closeOutput => some { w with output := ⟨none, false⟩ }
  | .shutdown => some { w with stopping := true }

/-- The watcher after events, if they may happen one after another. -/
def run (w : Watcher) : List Event → Option Watcher
  | [] => some w
  | e :: es => (w.step e).bind (·.run es)

end Watcher

end MeshSync.Watch
