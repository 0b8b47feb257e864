import MeshSync.Proofs.Dataplane.Exchange
import MeshSync.Proofs.Reconcile.Ownership

/-! # What a client intends and what a store files

    A client means an object: a frontend or a backend by its name, or something
    that belongs to one of the two.  `Subject` is that object and `Deed` is what
    is to be done about it, both read off an operation without a look at
    requests.  Names go into a request in three ways: in its body, in its path
    and in its query, where the owner is told by one parameter or by two.

    The store files a change under a key.  Every subject has a key of its own
    (`Subject.key_inj`), and a request whose names stand for themselves adds the
    intended deed at the key of its subject to the transaction that it names, and
    does nothing else (`filed_as_intended`). -/

namespace MeshSync.Dataplane

open Reconcile (Listener)
open Url (Unreserved PlainSegment)

/-! ## Subjects -/

/-- An object as a client means it. -/
inductive Subject where
  | frontend (name : String)
  | backend (name : String)
  | bind (frontend name : String)
  | server (backend name : String)
  | logTarget (owner : Owner) (id : UInt32)
  | filter (owner : Owner) (id : UInt32)
  | tcpRequestRule (owner : Owner) (id : UInt32)
  deriving DecidableEq

namespace Subject

/-- The collection of an object. -/
def collection : Subject → String
  | frontend _ => "frontends"
  | backend _ => "backends"
  | bind _ _ => "binds"
  | server _ _ => "servers"
  | logTarget _ _ => "log_targets"
  | filter _ _ => "filters"
  | tcpRequestRule _ _ => "tcp_request_rules"

/-- The frontend or backend that an object belongs to. -/
def owner? : Subject → Option Owner
  | frontend _ => none
  | backend _ => none
  | bind f _ => some (.frontend f)
  | server b _ => some (.backend b)
  | logTarget owner _ => some owner
  | filter owner _ => some owner
  | tcpRequestRule owner _ => some owner

/-- The name of an object, or its number as a numeral. -/
def name : Subject → String
  | frontend name => name
  | backend name => name
  | bind _ name => name
  | server _ name => name
  | logTarget _ id => Decimal.text id.toNat
  | filter _ id => Decimal.text id.toNat
  | tcpRequestRule _ id => Decimal.text id.toNat

/-- The key that an object is to be filed under. -/
def key (x : Subject) : ObjectKey := ⟨x.collection, x.owner?.map (·.key.owner), x.name⟩

end Subject

theorem Owner.isRoot_key (o : Owner) : o.key.IsRoot := by
  cases o with
  | frontend name => exact ObjectKey.isRoot_frontend name
  | backend name => exact ObjectKey.isRoot_backend name

theorem Owner.parent_key (o : Owner) : o.key.parent = none := by
  cases o with
  | frontend name => rfl
  | backend name => rfl

/-- Owners are told apart by what they are called. -/
theorem Owner.called_inj {o p : Owner} (h : o.key.owner = p.key.owner) : o = p := by
  have hkey := Listener.root_inj o.isRoot_key o.parent_key p.isRoot_key p.parent_key h
  have hname := congrArg ObjectKey.name hkey
  have hkind := congrArg ObjectKey.kind hkey
  cases o with
  | frontend a =>
      cases p with
      | frontend b => exact congrArg frontend hname
      | backend b => exact absurd hkind (by decide : ¬ (("frontends" : String) = "backends"))
  | backend a =>
      cases p with
      | frontend b => exact absurd hkind (by decide : ¬ (("backends" : String) = "frontends"))
      | backend b => exact congrArg backend hname

/-- Numbers are told apart by their numerals. -/
theorem number_inj {m n : UInt32} (h : Decimal.text m.toNat = Decimal.text n.toNat) : m = n := by
  have hdigits := congrArg String.toList h
  rw [Decimal.text, Decimal.text, String.toList_ofList, String.toList_ofList] at hdigits
  refine UInt32.toNat_inj.1 ?_
  rw [← Decimal.value_digits m.toNat, hdigits, Decimal.value_digits]

namespace Subject

/-- **No two subjects have the same key.** -/
theorem key_inj {a b : Subject} (h : a.key = b.key) : a = b := by
  have hkind : a.collection = b.collection := congrArg ObjectKey.kind h
  have howner : a.owner? = b.owner? :=
    Option.map_injective (fun _ _ => Owner.called_inj) (congrArg ObjectKey.parent h)
  have hname : a.name = b.name := congrArg ObjectKey.name h
  -- subjects of one collection are made in one way
  cases a with
  | frontend n =>
      cases b with
      | frontend m => exact congrArg frontend hname
      | _ => simp [collection] at hkind
  | backend n =>
      cases b with
      | backend m => exact congrArg backend hname
      | _ => simp [collection] at hkind
  | bind f n =>
      cases b with
      | bind g m => exact congrArg₂ bind (Owner.frontend.inj (Option.some.inj howner)) hname
      | _ => simp [collection] at hkind
  | server f n =>
      cases b with
      | server g m => exact congrArg₂ server (Owner.backend.inj (Option.some.inj howner)) hname
      | _ => simp [collection] at hkind
  | logTarget o n =>
      cases b with
      | logTarget p m => exact congrArg₂ logTarget (Option.some.inj howner) (number_inj hname)
      | _ => simp [collection] at hkind
  | filter o n =>
      cases b with
      | filter p m => exact congrArg₂ filter (Option.some.inj howner) (number_inj hname)
      | _ => simp [collection] at hkind
  | tcpRequestRule o n =>
      cases b with
      | tcpRequestRule p m =>
          exact congrArg₂ tcpRequestRule (Option.some.inj howner) (number_inj hname)
      | _ => simp [collection] at hkind

end Subject

/-! ## Intents -/

/-- What is to be done about an object, with the body that tells how it is to
    be. -/
inductive Intent where
  | create (body : Json)
  | replace (body : Json)
  | delete

/-- The change of an object that is intended. -/
def Intent.on : Intent → ObjectKey → Change
  | create body, key => .create key body
  | replace body, key => .replace key body
  | delete, key => .delete key

namespace Operation

/-- The object that an operation is about. -/
def subject : Operation → Subject
  | createFrontend f => .frontend f.name
  | createBind frontend b => .bind frontend b.name
  | createBackend b => .backend b.name
  | createServer backend s => .server backend s.name
  | replaceServer backend s => .server backend s.name
  | deleteServer backend name => .server backend name
  | deleteFrontend name => .frontend name
  | deleteBackend name => .backend name
  | createLogTarget owner t => .logTarget owner t.id
  | createFilter owner f => .filter owner f.id
  | createTcpRequestRule owner r => .tcpRequestRule owner r.id

/-- What an operation is to do about its subject. -/
def intent : Operation → Intent
  | createFrontend f => .create f.json
  | createBind _ b => .create b.json
  | createBackend b => .create b.json
  | createServer _ s => .create s.json
  | replaceServer _ s => .replace s.json
  | deleteServer _ _ => .delete
  | deleteFrontend _ => .delete
  | deleteBackend _ => .delete
  | createLogTarget _ t => .create t.json
  | createFilter _ f => .create f.json
  | createTcpRequestRule _ r => .create r.json

/-- The change that an operation means is its intent at the key of its
    subject. -/
theorem change_eq (op : Operation) : op.change = op.intent.on op.subject.key := by
  cases op <;> rfl

/-- The name that an operation puts into the path of its request: objects that
    are created have theirs in the body alone. -/
def addressed? (op : Operation) : Option String :=
  match op.intent with
  | .create _ => none
  | .replace _ => some op.subject.name
  | .delete => some op.subject.name

/-- Names of unreserved characters stand for themselves in a request, but for
    dot segments in its path. -/
theorem plain_of_unreserved {op : Operation}
    (howner : ∀ owner, op.subject.owner? = some owner → Unreserved owner.name)
    (haddressed : ∀ name, op.addressed? = some name →
      Unreserved name ∧ name ≠ "." ∧ name ≠ "..") : op.Plain := by
  have hsegment : ∀ name, op.addressed? = some name → PlainSegment name.toList := fun name h =>
    have ⟨hname, hhere, habove⟩ := haddressed name h
    .of_unreserved hname hhere habove
  cases op with
  | createFrontend f => trivial
  | createBind frontend b => exact howner _ rfl
  | createBackend b => trivial
  | createServer backend s => exact howner _ rfl
  | replaceServer backend s => exact ⟨howner _ rfl, hsegment _ rfl⟩
  | deleteServer backend name => exact ⟨howner _ rfl, hsegment _ rfl⟩
  | deleteFrontend name => exact hsegment _ rfl
  | deleteBackend name => exact hsegment _ rfl
  | createLogTarget owner t => exact howner _ rfl
  | createFilter owner f => exact howner _ rfl
  | createTcpRequestRule owner r => exact howner _ rfl

end Operation

/-! ## What the store files -/

/-- A store before and after a change was added to one of its transactions. -/
structure Store.Filed (s s' : Store) (id : String) (change : Change) : Prop where
  added : ∃ t, s.transactions.get? id = some t ∧
    s'.transactions.get? id = some ⟨t.version, t.changes ++ [change]⟩
  others : ∀ other, other ≠ id → s'.transactions.get? other = s.transactions.get? other
  opened : s'.opened = s.opened
  version : s'.version = s.version
  objects : s'.objects = s.objects

/-- What a store makes of a change for one of its transactions. -/
theorem Store.filed_withChange {s : Store} {id : String} {t : Transaction} (change : Change)
    (ht : s.transactions.get? id = some t) : s.Filed (s.withChange id t change) id change where
  added := ⟨t, ht, SortedMap.get?_insert_self _ _ _⟩
  others _ hother := SortedMap.get?_insert_of_ne _ hother _
  opened := rfl
  version := rfl
  objects := rfl

section

variable (paths : TlsMaterial → Certificates.Paths) {s : Store} {ticket : Ticket} {op : Operation}

theorem run_stage_there {t : Transaction} (hid : Unreserved ticket.id) (hop : op.Legible)
    (ht : s.transactions.get? ticket.id = some t) :
    (Client.stage ticket op).run (calm paths) s = (s.withChange ticket.id t op.change, .ok ()) := by
  have hanswer := answer_eq (s := s) (ofRequest_request hid hop) (by
    rw [Store.perform, Store.stage, ht])
  rw [Client.stage, run_ask, hanswer]
  rfl

theorem run_stage_missing (hid : Unreserved ticket.id) (hop : op.Legible)
    (ht : s.transactions.get? ticket.id = none) :
    ∃ e, (Client.stage ticket op).run (calm paths) s = (s, .error e) := by
  have hanswer : s.answer (op.request ticket.id) =
      (s, .error ((Refusal.noTransaction ticket.id).error (op.request ticket.id))) := by
    rw [Store.answer, Store.handle, ofRequest_request hid hop]
    dsimp only
    rw [Store.perform, Store.stage, ht]
  rw [Client.stage, run_ask, hanswer]
  exact ⟨_, rfl⟩

/-- **Client and store agree on every operation.**  With names that are made of
    unreserved characters, those in paths no dot segments, an operation adds
    its intent at the key of its subject to the transaction that it is staged
    in, if that one is open, and nothing else happens to the store; and
    operations about different subjects are filed under different keys. -/
theorem filed_as_intended (s : Store) (ticket : Ticket) (op : Operation)
    (hid : Unreserved ticket.id)
    (howner : ∀ owner, op.subject.owner? = some owner → Unreserved owner.name)
    (haddressed : ∀ name, op.addressed? = some name →
      Unreserved name ∧ name ≠ "." ∧ name ≠ "..") :
    (∀ t, s.transactions.get? ticket.id = some t →
      ∃ s', (Client.stage ticket op).run (calm paths) s = (s', .ok ()) ∧
        s.Filed s' ticket.id (op.intent.on op.subject.key)) ∧
    (s.transactions.get? ticket.id = none →
      ∃ e, (Client.stage ticket op).run (calm paths) s = (s, .error e)) ∧
    ∀ other : Operation, other.subject ≠ op.subject → other.subject.key ≠ op.subject.key := by
  have hop := (Operation.plain_of_unreserved howner haddressed).legible
  refine ⟨fun t ht => ?_, run_stage_missing paths hid hop, fun _ hne hkey => ?_⟩
  · rw [← op.change_eq]
    exact ⟨_, run_stage_there paths hid hop ht, Store.filed_withChange op.change ht⟩
  · exact hne (Subject.key_inj hkey)

/-- A server of an upstream is given another weight. -/
theorem weight_filed :
    let server := { (default : Server) with name := "db_0", weight := some 5 }
    ∃ s', (Client.stage ⟨transactionId 1, 1⟩ (.replaceServer "back_upstream_db" server)).run
        (calm fun _ => default) (Store.new 1).withNext = (s', .ok ()) ∧
      (Store.new 1).withNext.Filed s' (transactionId 1)
        (.replace ⟨"servers", some "backends/back_upstream_db", "db_0"⟩ server.json) := by
  intro server
  have howner : ∀ owner, (Operation.replaceServer "back_upstream_db" server).subject.owner? =
      some owner → Unreserved owner.name := by
    rintro owner ⟨rfl⟩
    exact (by decide : Unreserved "back_upstream_db")
  have haddressed : ∀ name, (Operation.replaceServer "back_upstream_db" server).addressed? =
      some name → Unreserved name ∧ name ≠ "." ∧ name ≠ ".." := by
    rintro name ⟨rfl⟩
    exact (by decide : Unreserved "db_0" ∧ "db_0" ≠ "." ∧ "db_0" ≠ "..")
  exact (filed_as_intended (fun _ => default) (Store.new 1).withNext ⟨transactionId 1, 1⟩
    (.replaceServer "back_upstream_db" server) (plain_transactionId 1).unreserved howner
    haddressed).1 ⟨1, []⟩ (SortedMap.get?_insert_self _ _ _)

end

end MeshSync.Dataplane
