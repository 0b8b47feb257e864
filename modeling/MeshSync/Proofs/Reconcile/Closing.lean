import MeshSync.Proofs.Reconcile.Atomicity

/-! # What becomes of the transaction of a pass

    A pass that opened a transaction ends by an abort or by a commit of it, and
    either closes it as soon as the store carries it out: if the commit is
    refused the store drops the transaction, and if only the answer gets lost it
    is committed.  So after a pass whose abort or commit came to the store its
    transaction is closed, for good (`pass_closes_its_transaction`).

    A commit that does not come to the store is not followed by an abort, as
    staging that fails is; then the transaction stays open
    (`lost_commit_leaves_transaction_open`). -/

namespace MeshSync.Reconcile

open Dataplane
open Dialogue (Runs)

/-! ## The line to a store -/

/-- What went over the line for a request: what the client was told, and whether
    the store has carried the request out. -/
structure Exchange where
  request : Request
  answer : Except Error Json
  carried : Bool

/-- A store, and what went over the line to it. -/
structure Line where
  store : Store
  exchanges : List Exchange

/-- A line to a store that others use too; certificate files may be had or
    not. -/
def line : Environment Line where
  send l q l' a := ∃ (st : Store) (d : Delivery), Used l.store st ∧
    l'.store = (d.outcome st q).1 ∧ a = (d.outcome st q).2 ∧
    l'.exchanges = l.exchanges ++ [⟨q, a, d.arrives⟩]
  certs l _ l' _ := l' = l
  retain l _ l' := l' = l

/-- The request to commit a transaction. -/
def committing (id : String) : Request := ⟨.put, Client.transactionPath id, none⟩

/-- The request to abort a transaction. -/
def aborting (id : String) : Request := ⟨.delete, Client.transactionPath id, none⟩

namespace Exchange

/-- Whether a transaction was opened, as the client was told. -/
def Opens (x : Exchange) (id : String) : Prop :=
  ∃ v j ticket, x.request = ⟨.post, s!"{transactionsPath}?version={v}", none⟩ ∧ x.answer = .ok j ∧
    Client.openedTicket v j = .ok ticket ∧ ticket.id = id

/-- Whether a transaction was to be committed or aborted. -/
def Closes (x : Exchange) (id : String) : Prop :=
  x.request = committing id ∨ x.request = aborting id

end Exchange

/-- Whether the client was not told of a transaction. -/
def Line.Unopened (l : Line) (id : String) : Prop := ∀ x ∈ l.exchanges, ¬ x.Opens id

variable {l l' : Line} {id : String} {r r' : Reconciler} {next : Snapshot} {q : Request}
  {a : Except Error Json} {s s' : Store}

/-- The version that a transaction is asked for does not matter to its name. -/
theorem openedTicket_id {v v' : UInt64} {j : Json} {ticket : Ticket}
    (h : Client.openedTicket v j = .ok ticket) :
    Client.openedTicket v' j = .ok ⟨ticket.id, v'⟩ := by
  rw [Client.openedTicket] at h ⊢
  split at h
  · rw [← Except.ok.inj h]
  · cases h

/-! ## What goes on along the line -/

/-- All that a dialogue may ask for. -/
def anything : Footprint := ⟨fun _ => True, fun _ => True, fun _ => True⟩

/-- Nothing is forbidden. -/
theorem within_anything {α : Type} (d : Dialogue α) : d.Within anything := by
  induction d with
  | done a => trivial
  | send q next ih => exact ⟨trivial, ih⟩
  | certs m next ih => exact ⟨trivial, ih⟩
  | retain ms next ih => exact ⟨trivial, ih⟩

/-- A line before and after some time: the store was used, and there was more to
    be heard. -/
structure Line.Later (l l' : Line) : Prop where
  used : Used l.store l'.store
  heard : l.exchanges <+: l'.exchanges

/-- Whatever is asked for, a line goes on. -/
theorem keeps_line_later : line.Keeps anything Line.Later where
  refl l := ⟨.refl, List.prefix_refl _⟩
  trans h h' := ⟨h.used.trans h'.used, h.heard.trans h'.heard⟩
  send := by
    rintro l q l' a - ⟨st, d, hused, hstore, -, hheard⟩
    constructor
    · rw [hstore]
      exact hused.trans (d.used st q)
    · rw [hheard]
      exact List.prefix_append _ _
  certs := by
    rintro l m l' a - rfl
    exact ⟨.refl, List.prefix_refl _⟩
  retain := by
    rintro l ms l' - rfl
    exact ⟨.refl, List.prefix_refl _⟩

/-- After any dialogue a line is a later one. -/
theorem Line.later_of_runs {α : Type} {d : Dialogue α} {res : α} (h : Runs line d l l' res) :
    l.Later l' := h.keeps keeps_line_later (within_anything d)

/-- What a pass asks for besides opening a transaction. -/
def unopening : Footprint where
  sends q := q.method ≠ .post ∨ q.body ≠ none
  asks _ := True
  tells _ := True

/-- What opens no transaction leaves one that is not opened so. -/
theorem keeps_unopened (id : String) :
    line.Keeps unopening fun l l' => l.Unopened id → l'.Unopened id where
  refl _ := fun h => h
  trans h h' := h' ∘ h
  send := by
    rintro l q l' a hq ⟨st, d, -, -, -, hheard⟩ h x hx
    rw [hheard] at hx
    rcases List.mem_append.1 hx with hx | hx
    · exact h x hx
    · rw [List.mem_singleton.1 hx]
      rintro ⟨v, j, ticket, hrequest, -⟩
      dsimp only at hrequest
      rw [hrequest] at hq
      rcases hq with hpost | hbody
      · exact hpost rfl
      · exact hbody rfl
  certs := by
    rintro l m l' a - rfl
    exact fun h => h
  retain := by
    rintro l ms l' - rfl
    exact fun h => h

/-- Reading opens no transaction. -/
theorem within_unopening {α : Type} {d : Dialogue α} (h : d.Within reading) :
    d.Within unopening := by
  refine h.mono (fun q hq => .inl ?_) (fun _ => False.elim) fun _ => False.elim
  rw [show q.method = .get from hq]
  exact Method.noConfusion

/-- What is staged has a body or is no `POST`. -/
theorem unopening_request (op : Operation) (id : String) : unopening.sends (op.request id) := by
  cases op with
  | replaceServer backend s => exact .inl Method.noConfusion
  | deleteServer backend name => exact .inl Method.noConfusion
  | deleteFrontend name => exact .inl Method.noConfusion
  | deleteBackend name => exact .inl Method.noConfusion
  | _ => exact .inr nofun

/-- Neither does staging. -/
theorem within_staged (ticket : Ticket) (parts : List Part) :
    (Reconciler.stageParts ticket parts).Within unopening := by
  refine Reconciler.within_stageParts fun p _ => ?_
  cases p with
  | plain op => exact unopening_request op
  | sealed m ops => exact ⟨trivial, fun _ op _ => unopening_request op⟩

/-- Nor does anything that is put. -/
theorem unopening_of_put (path : String) (body : Option Json) :
    unopening.sends ⟨.put, path, body⟩ := .inl nofun

/-- Nor does anything that is deleted. -/
theorem unopening_of_delete (path : String) (body : Option Json) :
    unopening.sends ⟨.delete, path, body⟩ := .inl nofun

/-- A commit opens no transaction. -/
theorem within_closing (v : UInt64) (ticket : Ticket) :
    (Client.commit v ticket).Within unopening := by
  rw [Client.commit]
  split
  · trivial
  · exact within_ask (unopening_of_put _ _)

/-! ## Passes -/

/-- Whether every commit or abort of a transaction came to the store. -/
def Line.Reached (l : Line) (id : String) : Prop :=
  ∀ x ∈ l.exchanges, x.Closes id → x.carried = true

/-- What came to the store of all there was to hear came to it of what there
    was before. -/
theorem Line.Reached.earlier (h : l'.Reached id) (hlater : l.Later l') : l.Reached id :=
  fun x hx => h x (hlater.heard.subset hx)

/-- A request to close a transaction closes it, if it is carried out. -/
theorem closed_of_ask {α : Type} {read : Json → Except Error α} {res : Except Error α}
    (h : Runs line (Client.ask q read) l l' res) (hid : l.store.Given id)
    (hcloses : q = committing id ∨ q = aborting id) (hreached : l'.Reached id) :
    l'.store.Closed id := by
  obtain ⟨answer, ⟨st, d, hused, hstore, -, hheard⟩, -⟩ := ask_iff.1 h
  have harrives : d.arrives = true :=
    hreached ⟨q, answer, d.arrives⟩ (by rw [hheard]; simp) hcloses
  rw [hstore, Delivery.store_of_arrives harrives]
  refine closed_of_closing (hid.mono hused.opened_le) ?_
  rcases hcloses with rfl | rfl
  · exact .inl (ofRequest_commit hid.plain)
  · exact .inr (ofRequest_abort hid.plain)

namespace Reconciler

/-- **Opened, then closed**: whatever happens on the way. -/
theorem transact_closes {v : UInt64} {parts : List Part}
    {res : Except PassError (UInt64 × UInt64)} (h : Runs line (transact v parts) l l' res)
    (hunopened : l.Unopened id) (hreached : l'.Reached id) :
    l'.Unopened id ∨ l'.store.Closed id := by
  obtain ⟨l₁, opened, hbegin, hrest⟩ := Runs.bind_iff.1 h
  obtain ⟨answer, ⟨st, d, -, hstore, hanswer, hheard⟩, rfl⟩ := ask_iff.1 hbegin
  -- the client was told of no transaction, or of one that the store gave a name
  have hopened : (∀ ticket, answer.bind (Client.openedTicket v) = .ok ticket → ticket.id ≠ id) →
      l₁.Unopened id := by
    intro hne x hx
    rw [hheard] at hx
    rcases List.mem_append.1 hx with hx | hx
    · exact hunopened x hx
    · rw [List.mem_singleton.1 hx]
      rintro ⟨v', j, ticket, -, hanswer, hread, hid⟩
      dsimp only at hanswer
      rw [hanswer] at hne
      exact hne _ (openedTicket_id hread) hid
  cases hticket : answer.bind (Client.openedTicket v) with
  | error e =>
      rw [hticket] at hrest hopened
      obtain ⟨rfl, -⟩ := Runs.done_iff.1 hrest
      exact .inl (hopened nofun)
  | ok ticket =>
      rw [hticket] at hrest hopened
      dsimp only at hrest
      obtain ⟨l₂, staged, hstage, hend⟩ := Runs.bind_iff.1 hrest
      by_cases hid : ticket.id = id
      · subst hid
        cases answer with
        | error e => cases hticket
        | ok j =>
            rw [Delivery.eq_answer hanswer.symm] at hstore hanswer
            have hgiven : l₁.store.Given ticket.id := by
              rw [hstore]
              exact given_of_begin hanswer.symm hticket
            have hgiven₂ := hgiven.mono (Line.later_of_runs hstage).used.opened_le
            refine .inr ?_
            cases staged with
            | error e =>
                obtain ⟨l₃, aborted, habort, hdone⟩ := Runs.bind_iff.1 hend
                obtain ⟨rfl, -⟩ := Runs.done_iff.1 hdone
                exact closed_of_ask habort hgiven₂ (.inr rfl) hreached
            | ok done =>
                obtain ⟨l₃, committed, hcommit, hdone⟩ := Runs.bind_iff.1 hend
                have hl : l' = l₃ := by
                  cases committed with
                  | error e => exact (Runs.done_iff.1 hdone).1
                  | ok version => exact (Runs.done_iff.1 hdone).1
                subst hl
                have hversion : ¬ v ≠ ticket.version := by
                  rw [Except.ok.inj (hticket.symm.trans (openedTicket_id hticket))]
                  exact not_not.2 rfl
                rw [Client.commit, if_neg hversion] at hcommit
                exact closed_of_ask hcommit hgiven₂ (.inl rfl) hreached
      · have hbesides : l₁.Unopened id := hopened fun t ht => by rwa [← Except.ok.inj ht]
        have hstaged := hstage.keeps (keeps_unopened id) (within_staged ticket parts) hbesides
        refine .inl (hend.keeps (keeps_unopened id) ?_ hstaged)
        cases staged with
        | error e =>
            exact Dialogue.Within.bind (within_ask (unopening_of_delete _ _)) fun _ => trivial
        | ok done =>
            refine Dialogue.Within.bind (within_closing v ticket) fun committed => ?_
            cases committed with
            | error e => trivial
            | ok version => trivial

/-- What only reads opens nothing, and what is closed stays closed. -/
theorem still_closed {α : Type} {d : Dialogue α} {res : α} (hd : d.Within unopening)
    (h : Runs line d l l' res) (hl : l.Unopened id ∨ l.store.Closed id) :
    l'.Unopened id ∨ l'.store.Closed id :=
  hl.imp (h.keeps (keeps_unopened id) hd) fun hclosed =>
    hclosed.used (Line.later_of_runs h).used

/-- Carrying a plan out closes the transaction that it opens, if the
    requests to close it come to the store. -/
theorem carryOut_closes {plan : Plan} {out : Except PassError Outcome}
    (h : Runs line (r.carryOut next plan) l l' (r', out)) (hunopened : l.Unopened id)
    (hreached : l'.Reached id) : l'.Unopened id ∨ l'.store.Closed id := by
  rw [carryOut] at h
  split at h
  · obtain ⟨rfl, -⟩ := Runs.done_iff.1 h
    exact .inl hunopened
  · obtain ⟨l₁, res, htransact, hrest⟩ := Runs.bind_iff.1 h
    have hreached₁ := hreached.earlier (Line.later_of_runs hrest)
    have hclosed := transact_closes htransact hunopened hreached₁
    cases res with
    | error e => exact still_closed (within_unopening (within_recover r e)) hrest hclosed
    | ok versions =>
        have hsettle : (r.settle next plan versions.1 versions.2).Within unopening :=
          ⟨trivial, trivial⟩
        exact still_closed hsettle hrest hclosed

/-- So does a pass. -/
theorem apply_closes {out : Except PassError Outcome}
    (h : Runs line (r.apply next) l l' (r', out)) (hunopened : l.Unopened id)
    (hreached : l'.Reached id) : l'.Unopened id ∨ l'.store.Closed id := by
  rw [apply] at h
  split at h
  · obtain ⟨l₁, ⟨tracked, stock⟩, htake, hrest⟩ := Runs.bind_iff.1 h
    have hunopened₁ := htake.keeps (keeps_unopened id)
      (within_unopening (within_takeStock r.tracked)) hunopened
    cases stock with
    | error e =>
        obtain ⟨rfl, -⟩ := Runs.done_iff.1 hrest
        exact .inl hunopened₁
    | ok inventory => exact carryOut_closes hrest hunopened₁ hreached
  · exact carryOut_closes h hunopened hreached

end Reconciler

/-- **The transaction of a pass is closed when the pass is over**, for good,
    whatever was refused or got lost on the way and whoever else uses the store,
    if only a request to abort or to commit it came to the store. -/
theorem pass_closes_its_transaction {out : Except PassError Outcome}
    (h : Runs line (r.apply next) ⟨s, []⟩ l (r', out)) (hopens : ∃ x ∈ l.exchanges, x.Opens id)
    (hreached : ∀ x ∈ l.exchanges, x.Closes id → x.carried = true) :
    l.store.transactions.get? id = none ∧
      ∀ s', Used l.store s' → s'.transactions.get? id = none := by
  have hunopened : (⟨s, []⟩ : Line).Unopened id := fun x hx => absurd hx List.not_mem_nil
  rcases Reconciler.apply_closes h hunopened hreached with hnone | hclosed
  · obtain ⟨x, hx, hid⟩ := hopens
    exact absurd hid (hnone x hx)
  · exact ⟨hclosed.absent, fun s' hlater => (hclosed.used hlater).absent⟩

/-! ## A pass without faults, up to its commit -/

/-- A line after a request was answered. -/
def Line.serve (l : Line) (q : Request) : Line :=
  ⟨(l.store.answer q).1, l.exchanges ++ [⟨q, (l.store.answer q).2, true⟩]⟩

/-- A line that nobody else is on and where nothing gets lost. -/
def faultless : Environment Line where
  send l q l' a := l' = l.serve q ∧ a = (l.store.answer q).2
  certs l m l' a := l' = l ∧ a = .ok (oneFile m)
  retain l _ l' := l' = l

/-- The same line as a world. -/
def serving : Surroundings Line where
  send l q := (l.serve q, (l.store.answer q).2)
  certs l m := (l, .ok (oneFile m))
  retain l _ := l

/-- Every request is answered. -/
theorem serving_send (l : Line) (q : Request) :
    serving.send l q = (l.serve q, (l.store.answer q).2) := rfl

/-- On a faultless line nothing but the answer of the store can come of a
    request. -/
theorem faultless_send_iff : faultless.send l q l' a ↔
    l' = l.serve q ∧ a = (l.store.answer q).2 := Iff.rfl

/-- To be answered is one thing that may become of a request on a line. -/
theorem line_serve (l : Line) (q : Request) : line.send l q (l.serve q) (l.store.answer q).2 := by
  refine ⟨l.store, .served, .refl, ?_, ?_, ?_⟩
  · rw [Line.serve, Delivery.outcome]
  · rw [Delivery.outcome]
  · rw [Line.serve, Delivery.arrives]

/-- A faultless line is served as a world is. -/
theorem faultless_allows_serving : faultless.Allows serving where
  send l q := by
    rw [serving_send, faultless_send_iff]
    dsimp only
    exact ⟨rfl, rfl⟩
  certs _ _ := ⟨rfl, rfl⟩
  retain _ _ := rfl

/-- What happens on a faultless line may happen on any. -/
theorem line_of_faultless {α : Type} {d : Dialogue α} {res : α}
    (h : Runs faultless d l l' res) : Runs line d l l' res := by
  induction h with
  | done a l => exact .done a l
  | @send q next l l₁ l₂ answer res asked rest ih =>
      obtain ⟨hl, ha⟩ := faultless_send_iff.1 asked
      have hserve := line_serve l q
      rw [← hl, ← ha] at hserve
      exact .send hserve ih
  | certs asked rest ih =>
      obtain ⟨rfl, -⟩ := asked
      exact .certs rfl ih
  | retain told rest ih => exact .retain told ih

/-- Nothing gets lost on such a line. -/
theorem keeps_carried : faultless.Keeps anything fun l l' =>
    (∀ x ∈ l.exchanges, x.carried = true) → ∀ x ∈ l'.exchanges, x.carried = true where
  refl _ := fun h => h
  trans h h' := h' ∘ h
  send := by
    rintro l q l' a - ⟨rfl, -⟩ h x hx
    rw [Line.serve] at hx
    rcases List.mem_append.1 hx with hx | hx
    · exact h x hx
    · rw [List.mem_singleton.1 hx]
  certs := by
    rintro l m l' a - ⟨rfl, -⟩
    exact fun h => h
  retain := by
    rintro l ms l' - rfl
    exact fun h => h

/-- On such a line a client is told what it is told by a calm store. -/
theorem serving_eq_calm {α : Type} (d : Dialogue α) (l : Line) :
    (d.run serving l).2 = (d.run (calm oneFile) l.store).2 := by
  induction d generalizing l with
  | done a => rfl
  | send q next ih =>
      have hcalm : (calm oneFile).send l.store q = ((l.serve q).store, (l.store.answer q).2) := by
        rw [Line.serve, calm]
      rw [Dialogue.run, Dialogue.run, serving_send, hcalm]
      exact ih _ _
  | certs m next ih => exact ih _ _
  | retain ms next ih => exact ih _

/-- A transaction that was committed was open. -/
theorem open_of_commit {j : Json} (hid : Url.PlainSegment id.toList)
    (h : (s.answer ⟨.put, Client.transactionPath id, none⟩).2 = .ok j) :
    ∃ t, s.transactions.get? id = some t := by
  rw [Store.answer, Store.handle, ofRequest_commit hid] at h
  dsimp only at h
  rw [Store.perform, Store.commit] at h
  cases hget : s.transactions.get? id with
  | none =>
      rw [hget] at h
      cases h
  | some t => exact ⟨t, rfl⟩

/-- Where a transaction was committed without a fault, its commit may fail in
    any way; until then it is open and everything was carried out. -/
theorem transact_cut {v : UInt64} {parts : List Part} {versions : UInt64 × UInt64}
    (h : Runs faultless (Reconciler.transact v parts) l l' (.ok versions))
    (hl : ∀ x ∈ l.exchanges, x.carried = true) : ∃ (l₂ : Line) (t : Transaction),
      (∃ x ∈ l₂.exchanges, x.Opens (transactionId (l.store.opened + 1))) ∧
      (∀ x ∈ l₂.exchanges, x.carried = true) ∧
      l₂.store.transactions.get? (transactionId (l.store.opened + 1)) = some t ∧
      ∀ st (d : Delivery) cause,
        d.outcome l₂.store (committing (transactionId (l.store.opened + 1))) = (st, .error cause) →
        Runs line (Reconciler.transact v parts) l
          ⟨st, l₂.exchanges ++
            [⟨committing (transactionId (l.store.opened + 1)), .error cause, d.arrives⟩]⟩
          (.error (.dataplane cause)) := by
  obtain ⟨ticket, l₁, l₂, version, hbegin, hstage, hcommit⟩ := Reconciler.transact_ok h
  have hcarried := hbegin.keeps keeps_carried (within_anything _) hl
  have hcarried₂ := hstage.keeps keeps_carried (within_anything _) hcarried
  have hheard := (Line.later_of_runs (line_of_faultless hstage)).heard
  rw [Client.commit] at hcommit
  split at hcommit
  · cases (Runs.done_iff.1 hcommit).2
  · rename_i hversion
    obtain ⟨opened, ⟨hl₁, hopened⟩, hread⟩ := ask_iff.1 hbegin
    obtain ⟨committed, ⟨-, hcommitted⟩, hok⟩ := ask_iff.1 hcommit
    cases opened with
    | error e => cases hread
    | ok j =>
        cases committed with
        | error e => cases hok
        | ok j' =>
            have hid := ticket_of_begin hopened.symm hread.symm
            have hplain : Url.PlainSegment ticket.id.toList := by
              rw [hid]
              exact plain_transactionId _
            obtain ⟨t, ht⟩ := open_of_commit hplain hcommitted.symm
            rw [← hid]
            refine ⟨l₂, t, ⟨⟨_, _, true⟩, hheard.subset ?_, v, j, ticket, rfl, rfl, hread.symm,
              rfl⟩, hcarried₂, ht, fun st d cause houtcome => ?_⟩
            · rw [hl₁, Line.serve, ← hopened]
              exact List.mem_append_right _ (List.mem_singleton.2 rfl)
            · -- the same run up to the commit, whose answer is replaced by the fault
              have hlost : Runs line (Client.commit v ticket) l₂
                  ⟨st, l₂.exchanges ++ [⟨committing ticket.id, .error cause, d.arrives⟩]⟩
                  (.error cause) := by
                rw [Client.commit, if_neg hversion]
                refine ask_iff.2 ⟨.error cause, ⟨l₂.store, d, .refl, ?_, ?_, rfl⟩, rfl⟩
                · exact (congrArg Prod.fst houtcome).symm
                · exact (congrArg Prod.snd houtcome).symm
              exact Runs.bind_iff.2 ⟨l₁, _, line_of_faultless hbegin, Runs.bind_iff.2
                ⟨l₂, _, line_of_faultless hstage, Runs.bind_iff.2 ⟨_, _, hlost, .done _ _⟩⟩⟩

/-- The first pass of a reconciler comes up to its commit without a fault; there
    the commit may fail in any way. -/
theorem first_pass_up_to_commit : ∃ (l : Line) (t : Transaction),
    (∃ x ∈ l.exchanges, x.Opens (transactionId 1)) ∧ (∀ x ∈ l.exchanges, x.carried = true) ∧
    l.store.transactions.get? (transactionId 1) = some t ∧
    ∀ st (d : Delivery), d.outcome l.store (committing (transactionId 1)) = (st, .error .http) →
      ∃ r', Runs line ((Reconciler.new .standard 1).apply (nodeOn 20000)) ⟨.new 1, []⟩
        ⟨st, l.exchanges ++ [⟨committing (transactionId 1), .error .http, d.arrives⟩]⟩
        (r', .error (.dataplane .http)) := by
  obtain ⟨st, r₁, downstream, rebuilt, removed, hcalm⟩ := run_first 1 20000
  have hruns := Runs.of_run faultless_allows_serving
    ((Reconciler.new .standard 1).apply (nodeOn 20000)) ⟨.new 1, []⟩
  rw [serving_eq_calm, hcalm] at hruns
  rcases Reconciler.apply_applied hruns with ⟨hforce, -⟩ | ⟨hforce, hcarryOut⟩
  · cases hforce
  · obtain ⟨hempty, versions, l', htransact, -⟩ := Reconciler.carryOut_applied hcarryOut
    obtain ⟨l, t, hopens, hcarried, ht, hcut⟩ := transact_cut htransact fun x hx => nomatch hx
    refine ⟨l, t, hopens, hcarried, ht, fun st d houtcome => ?_⟩
    refine ⟨{ Reconciler.new .standard 1 with force := true }, ?_⟩
    rw [Reconciler.apply, hforce, if_neg Bool.noConfusion, Reconciler.carryOut, if_neg hempty]
    refine Runs.bind_iff.2 ⟨_, _, hcut st d .http houtcome, ?_⟩
    exact .done _ _

/-- The commit of the first pass is carried out, but its answer gets lost. -/
theorem muted_commit_closes_transaction : ∃ (l : Line) (r' : Reconciler),
    Runs line ((Reconciler.new .standard 1).apply (nodeOn 20000)) ⟨.new 1, []⟩ l
      (r', .error (.dataplane .http)) ∧
    (∃ x ∈ l.exchanges, x.Opens (transactionId 1)) ∧
    (∀ x ∈ l.exchanges, x.Closes (transactionId 1) → x.carried = true) ∧
    l.store.transactions.get? (transactionId 1) = none ∧
      ∀ s', Used l.store s' → s'.transactions.get? (transactionId 1) = none := by
  obtain ⟨l, t, ⟨x, hx, hid⟩, hcarried, -, hcut⟩ := first_pass_up_to_commit
  obtain ⟨r', hrun⟩ := hcut _ (.muted .http) rfl
  let last : Exchange := ⟨committing (transactionId 1), .error .http, true⟩
  have hopens : ∃ x ∈ l.exchanges ++ [last], x.Opens (transactionId 1) :=
    ⟨x, List.mem_append_left _ hx, hid⟩
  have hreached : ∀ x ∈ l.exchanges ++ [last], x.Closes (transactionId 1) → x.carried = true := by
    intro x hx _
    rcases List.mem_append.1 hx with hx | hx
    · exact hcarried x hx
    · rw [List.mem_singleton.1 hx]
  exact ⟨_, r', hrun, hopens, hreached, pass_closes_its_transaction hrun hopens hreached⟩

/-- **A commit that gets lost leaves its transaction open**, though every other
    request of the pass was carried out: there is no abort after it. -/
theorem lost_commit_leaves_transaction_open : ∃ (l : Line) (r' : Reconciler) (t : Transaction),
    Runs line ((Reconciler.new .standard 1).apply (nodeOn 20000)) ⟨.new 1, []⟩ l
      (r', .error (.dataplane .http)) ∧
    (∃ x ∈ l.exchanges, x.Opens (transactionId 1)) ∧
    (∀ x ∈ l.exchanges, x.carried = true ∨ x.request = committing (transactionId 1)) ∧
    l.store.transactions.get? (transactionId 1) = some t := by
  obtain ⟨l, t, ⟨x, hx, hid⟩, hcarried, ht, hcut⟩ := first_pass_up_to_commit
  obtain ⟨r', hrun⟩ := hcut _ (.lost .http) rfl
  refine ⟨_, r', t, hrun, ⟨x, List.mem_append_left _ hx, hid⟩, fun x hx => ?_, ht⟩
  rcases List.mem_append.1 hx with hx | hx
  · exact .inl (hcarried x hx)
  · rw [List.mem_singleton.1 hx]
    exact .inr rfl

end MeshSync.Reconcile
