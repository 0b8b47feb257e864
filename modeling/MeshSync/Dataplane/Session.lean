import MeshSync.Dataplane.Client

/-! # Sessions

    What a client keeps between calls: the version that it tracks, and the
    transactions that it holds.  A client has one request under way at a time,
    and what it keeps changes when a call is over.  Committing or aborting a
    transaction uses it up, whatever comes of it. -/

namespace MeshSync.Dataplane

/-- What a client can be called for.  A transaction is meant by the number of
    those that were opened before it. -/
inductive Call where
  | ping
  | info
  | refreshVersion
  | listNames (collection : String)
  | begin
  | stage (n : Nat) (op : Operation)
  | commit (n : Nat)
  | abort (n : Nat)

/-- What a call gives. -/
inductive Reply where
  | accepted
  | information (json : Json)
  /-- The version to track. -/
  | version (version : UInt64)
  | names (names : List String)
  | opened (ticket : Ticket)

/-- What a client keeps. -/
structure Session where
  /-- The version that the store is taken to have. -/
  tracked : UInt64
  /-- The transactions that were opened, in order; none where one is used up. -/
  tickets : List (Option Ticket)

namespace Session

/-- A client that has opened nothing. -/
def new (tracked : UInt64) : Session := ⟨tracked, []⟩

/-- The transaction with a number, if it is not used up. -/
def ticket? (s : Session) (n : Nat) : Option Ticket := (s.tickets[n]?).join

/-- The session with a transaction used up. -/
def without (s : Session) (n : Nat) : Session := { s with tickets := s.tickets.set n none }

/-- What a call asks for; nothing where it means a transaction that is not
    held. -/
def ask (s : Session) : Call → Option (Dialogue (Except Error Reply))
  | .ping => some (Client.ping.bind fun a => .done (a.map fun _ => .accepted))
  | .info => some (Client.info.bind fun a => .done (a.map .information))
  | .refreshVersion => some (Client.refreshVersion.bind fun a => .done (a.map .version))
  | .listNames collection =>
    some ((Client.listNames collection).bind fun a => .done (a.map .names))
  | .begin => some ((Client.begin s.tracked).bind fun a => .done (a.map .opened))
  | .stage n op => (s.ticket? n).map fun ticket =>
    (Client.stage ticket op).bind fun a => .done (a.map fun _ => .accepted)
  | .commit n => (s.ticket? n).map fun ticket =>
    (Client.commit s.tracked ticket).bind fun a => .done (a.map .version)
  | .abort n => (s.ticket? n).map fun ticket =>
    (Client.abort ticket).bind fun a => .done (a.map fun _ => .accepted)

/-- The session after a call that gave this. -/
def finish (s : Session) : Call → Except Error Reply → Session
  | .refreshVersion, .ok (.version v) => { s with tracked := v }
  | .begin, .ok (.opened ticket) => { s with tickets := s.tickets ++ [some ticket] }
  | .commit n, .ok (.version v) => { s.without n with tracked := v }
  | .commit n, _ => s.without n
  | .abort n, _ => s.without n
  | _, _ => s

end Session

end MeshSync.Dataplane
