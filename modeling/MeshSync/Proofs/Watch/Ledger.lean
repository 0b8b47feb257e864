import MeshSync.Proofs.SortedMap
import MeshSync.Proofs.Watch.Steps

/-! # The ledger

    What a snapshot should say is a matter of the answers alone, not of cursors
    and phases.  A ledger keeps, of everything that is followed, the latest
    answer that was looked at.

    * `Heard` - an answer that a track looks at; `heard` lists those of a run.
    * **`Ledger.hear`** - what an answer changes.  A definition of the sidecar
      lets go of the upstreams that it does not declare, or declares in another
      datacenter, and gives each that is new a watch without an answer.
    * `Trusted` - what a run relies on: answers name a cursor, and an answer
      with the same cursor as the one before says the same.
    * **`Ledger.Assembles`** - the snapshot that the latest answers make. -/

namespace MeshSync.Watch

/-- A successful answer that a track looks at. -/
inductive Heard where
  | caRoots (a : Answer Mesh.CaRoots)
  | leaf (a : Answer Mesh.Leaf)
  | proxy (a : Answer Mesh.Service)
  | service (a : Answer Mesh.Service)
  | instances (id : WatchId) (a : Answer (List Mesh.Instance))

/-- The answer that is looked at in an event.  When everything has been told to
    stop, the watch of an upstream stops without looking. -/
def Watcher.heard? : Watcher × Event → Option Heard
  | (w, .process .caRoots) => w.caRoots.answer?.map .caRoots
  | (w, .process .leaf) => w.leaf.answer?.map .leaf
  | (w, .process .proxy) => w.proxy.answer?.map .proxy
  | (w, .process .service) => w.service.answer?.map .service
  | (w, .process (.upstream id)) =>
    if w.stopping then none
    else (w.watch? id).bind fun u => u.track.answer?.map (.instances id)
  | _ => none

/-- The answers that are looked at in a run, in order. -/
def Watcher.heard (ms : List (Watcher × Event)) : List Heard := ms.filterMap heard?

/-- An upstream that is declared, the watch that is current for it, and the
    latest answer to that watch. -/
structure Followed where
  datacenter : String
  watch : WatchId
  latest : Option (Answer (List Mesh.Instance))

/-- Take down an answer to a watch. -/
def Followed.report (f : Followed) (id : WatchId) (a : Answer (List Mesh.Instance)) : Followed :=
  if f.watch = id then { f with latest := some a } else f

/-- The latest answers. -/
structure Ledger where
  caRoots : Option (Answer Mesh.CaRoots)
  leaf : Option (Answer Mesh.Leaf)
  proxy : Option (Answer Mesh.Service)
  service : Option (Answer Mesh.Service)
  followed : String → Option Followed
  /-- How many watches of upstreams have been started. -/
  started : Nat

/-- The upstreams that a service's sidecar declares. -/
def upstreamsOf (service : Mesh.Service) : SortedMap String Mesh.UpstreamDeclaration :=
  declared (service.sidecar.getD blankSidecar)

/-- What a service's sidecar declares under a name; of several declarations the
    last one counts. -/
def declaration? (service : Mesh.Service) (name : String) : Option Mesh.UpstreamDeclaration :=
  (service.sidecar.getD blankSidecar).upstreams.reverse.find? (·.destinationName = name)

/-- The declarations by name are those that count. -/
theorem get?_upstreamsOf (service : Mesh.Service) (name : String) :
    (upstreamsOf service).get? name = declaration? service name := by
  rw [upstreamsOf, declared, declaration?]
  induction (service.sidecar.getD blankSidecar).upstreams using List.reverseRecOn with
  | nil => rfl
  | append_singleton us u ih =>
      rw [List.map_append, List.map_singleton, SortedMap.ofList_append_single,
        List.reverse_append, List.reverse_singleton, List.singleton_append]
      by_cases hname : u.destinationName = name
      · have hfind : List.find? (·.destinationName = name) (u :: us.reverse) = some u :=
          List.find?_cons_of_pos (decide_eq_true hname)
        rw [hfind, ← hname]
        exact SortedMap.get?_insert_self _ _ _
      · have hfind : List.find? (·.destinationName = name) (u :: us.reverse) =
            us.reverse.find? (·.destinationName = name) :=
          List.find?_cons_of_neg (by simpa using hname)
        rw [hfind, ← ih]
        exact SortedMap.get?_insert_of_ne _ (Ne.symm hname) _

namespace Ledger

/-- No answer yet. -/
def blank : Ledger := ⟨none, none, none, none, fun _ => none, 0⟩

/-- Whether an upstream is followed in a datacenter. -/
def follows (l : Ledger) (name datacenter : String) : Bool :=
  (l.followed name).any (·.datacenter = datacenter)

/-- The declared upstreams that need a new watch, in the order of their names. -/
def unfollowed (l : Ledger) (service : Mesh.Service) : List (String × Mesh.UpstreamDeclaration) :=
  (upstreamsOf service).entries.filter fun e => !l.follows e.1 e.2.datacenter

/-- What is followed for a declared upstream: what was followed so far, if in
    the same datacenter, and otherwise a new watch. -/
def refollow (l : Ledger) (service : Mesh.Service) (name : String)
    (u : Mesh.UpstreamDeclaration) : Option Followed :=
  if l.follows name u.datacenter then l.followed name
  else some
    { datacenter := u.datacenter
      watch := l.started + ((l.unfollowed service).map (·.1)).idxOf name
      latest := none }

/-- What an answer changes. -/
def hear (l : Ledger) : Heard → Ledger
  | .caRoots a => { l with caRoots := some a }
  | .leaf a => { l with leaf := some a }
  | .proxy a =>
    { l with
      proxy := some a
      followed := fun name => ((upstreamsOf a.1).get? name).bind (l.refollow a.1 name)
      started := l.started + (l.unfollowed a.1).length }
  | .service a => { l with service := some a }
  | .instances id a => { l with followed := fun name => (l.followed name).map (·.report id a) }

/-- The ledger after these answers. -/
def after (hs : List Heard) : Ledger := hs.foldl hear blank

/-- An answer that may come next: it names a cursor, and if it names the same
    one as the answer before on the same track, it says the same. -/
def Admits (l : Ledger) : Heard → Prop
  | .caRoots a => Track.Follows (.index 0) l.caRoots a
  | .leaf a => Track.Follows (.index 0) l.leaf a
  | .proxy a => Track.Follows (.hash "") l.proxy a
  | .service a => Track.Follows (.hash "") l.service a
  | .instances id a => ∀ name f, l.followed name = some f → f.watch = id →
      Track.Follows (.index 0) f.latest a

/-- Answers each of which may come where it does. -/
def Trusted : Ledger → List Heard → Prop
  | _, [] => True
  | l, h :: hs => l.Admits h ∧ (l.hear h).Trusted hs

theorem trusted_append (l : Ledger) (hs ks : List Heard) :
    l.Trusted (hs ++ ks) ↔ l.Trusted hs ∧ (hs.foldl hear l).Trusted ks := by
  induction hs generalizing l with
  | nil => exact (iff_of_eq (true_and _)).symm
  | cons h hs ih =>
      show l.Admits h ∧ (l.hear h).Trusted (hs ++ ks) ↔ _
      rw [ih]
      exact and_assoc.symm

theorem after_snoc (hs : List Heard) (h : Heard) : after (hs ++ [h]) = (after hs).hear h := by
  rw [after, List.foldl_append]
  rfl

/-! ## What the latest answers make -/

/-- The instances in the latest answer to the current watch of an upstream. -/
def reported (l : Ledger) (name : String) : List Mesh.Instance :=
  (((l.followed name).bind (·.latest)).map (·.1)).getD []

/-- The address that the sidecar is bound to. -/
def bindAddress (proxy : Mesh.Service) : String :=
  ((proxy.sidecar.getD blankSidecar).configText? bindAddressKey).getD standardBindAddress

/-- The address of the application. -/
def targetAddress (proxy : Mesh.Service) : String :=
  ((proxy.sidecar.getD blankSidecar).configText? targetAddressKey).getD standardTargetAddress

/-- The snapshot that answers make. -/
def assembly (identity : Identity) (caRoots : Mesh.CaRoots) (leaf : Mesh.Leaf)
    (proxy service : Mesh.Service) (reported : String → List Mesh.Instance) : Snapshot :=
  let (pems, pool) := State.takeRoots caRoots.roots
  let tls : TlsMaterial :=
    { cas := pems, cert := Bytes.ofText leaf.certPem, key := Bytes.ofText leaf.keyPem }
  { serviceName := identity.serviceName
    serviceId := identity.serviceId
    caPool := pool
    downstream :=
      { localBindAddress := bindAddress proxy
        localBindPort := proxy.port
        targetAddress := targetAddress proxy
        targetPort := service.port
        tls := tls }
    upstreams := (upstreamsOf proxy).entries.map fun (name, u) =>
      { service := name
        localBindAddress := u.localBindAddress
        localBindPort := u.localBindPort
        tls := tls
        endpoints := Mesh.selectEndpoints (reported name) } }

/-- **The snapshot that the latest answers make**, which is one only where each
    of the four tracks has had an answer. -/
def Assembles (l : Ledger) (identity : Identity) (s : Snapshot) : Prop :=
  ∃ caRoots leaf proxy service, l.caRoots = some caRoots ∧ l.leaf = some leaf ∧
    l.proxy = some proxy ∧ l.service = some service ∧
    s = assembly identity caRoots.1 leaf.1 proxy.1 service.1 l.reported

end Ledger

end MeshSync.Watch
