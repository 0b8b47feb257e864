import MeshSync.Proofs.Dataplane.Writing
import MeshSync.Proofs.Reconcile.Closing
import MeshSync.Proofs.Reconcile.Rendering

/-! # What is said in a transaction

    A transaction is opened, then operations are staged in it up to the first
    failure (`Staged`), then it is committed, or aborted after a failure
    (`Transacted`); so it goes whatever is answered, with any certificate files
    for each part (`Reconciler.transact_traced`). -/

namespace MeshSync.Reconcile

open Dataplane
open Dialogue (Runs Traced)
open Url (Unreserved PlainSegment)

variable {paths : TlsMaterial → Certificates.Paths} {s s' : Store} {rounds : List (Round Store)}
  {ticket : Ticket}

/-! ## Files that cannot be relied on -/

/-- A store that others use too, behind a wire that loses requests and answers,
    where asking for certificate files may give anything at any time. -/
def fickle : Environment Store where
  send s r s' a := ∃ s₁, Meddled s s₁ ∧ Answers s₁ r s' a
  certs s _ s' _ := s' = s
  retain s _ s' := s' = s

/-- Asking for no certificate files. -/
def unfiled : Footprint := ⟨fun _ => True, fun _ => False, fun _ => True⟩

theorem within_unfiled {α : Type} {d : Dialogue α} (h : d.Within reading) : d.Within unfiled :=
  h.mono (fun _ _ => trivial) (fun _ => id) fun _ => False.elim

/-- Without certificate files it goes as where each material has its own. -/
theorem troubled_of_fickle {α : Type} (paths : TlsMaterial → Certificates.Paths)
    {d : Dialogue α} {res : α} (hd : d.Within unfiled) (h : Runs fickle d s s' res) :
    Runs (troubled paths) d s s' res := by
  have hrefines : fickle.Refines (troubled paths) unfiled fun _ => True :=
    ⟨fun _ _ hsend => ⟨hsend, trivial⟩, fun _ hasks _ => hasks.elim,
      fun _ _ htold => ⟨htold, trivial⟩⟩
  exact (h.transfer hrefines hd trivial).1

/-- Files that each material has for itself are files all the same. -/
theorem fickle_of_troubled {α : Type} {d : Dialogue α} {res : α}
    (h : Runs (troubled paths) d s s' res) : Runs fickle d s s' res := by
  induction h with
  | done a s => exact .done a s
  | send asked rest ih => exact .send asked ih
  | certs asked rest ih => exact .certs asked.1 ih
  | retain told rest ih => exact .retain told ih

/-! ## Staging -/

/-- What is said while operations are staged in a transaction, up to the first
    failure; the last index tells that there was none. -/
inductive Staged (id : String) : List Operation → List (Round Store) → Bool → Prop
  | done : Staged id [] [] true
  | staged {op : Operation} {ops : List Operation} {rounds : List (Round Store)} {all : Bool}
      (j : Json) (s : Store) (rest : Staged id ops rounds all) :
      Staged id (op :: ops) (.sent (op.request id) (.ok j) s :: rounds) all
  | refused (op : Operation) (ops : List Operation) (e : Error) (s : Store) :
      Staged id (op :: ops) [.sent (op.request id) (.error e) s] false
  | had {ops : List Operation} {rounds : List (Round Store)} {all : Bool} (m : TlsMaterial)
      (files : Certificates.Paths) (rest : Staged id ops rounds all) :
      Staged id ops (.asked m (.ok files) :: rounds) all
  | missing (ops : List Operation) (m : TlsMaterial) (e : Certificates.Error) :
      Staged id ops [.asked m (.error e)] false

namespace Staged

variable {id : String} {ops ops' : List Operation} {rounds' : List (Round Store)} {all : Bool}

/-- What comes after operations that were all staged. -/
theorem append (h : Staged id ops rounds true) (h' : Staged id ops' rounds' all) :
    Staged id (ops ++ ops') (rounds ++ rounds') all := by
  generalize hdone : true = done at h
  induction h with
  | done => exact h'
  | staged j s rest ih => exact .staged j s (ih hdone)
  | refused op ops e s => cases hdone
  | had m files rest ih => exact .had m files (ih hdone)
  | missing ops m e => cases hdone

/-- After a failure nothing comes. -/
theorem broken (h : Staged id ops rounds false) (ops' : List Operation) :
    Staged id (ops ++ ops') rounds false := by
  generalize hdone : false = done at h
  induction h with
  | done => cases hdone
  | staged j s rest ih => exact .staged j s (ih hdone)
  | refused op ops e s => exact .refused op _ e s
  | had m files rest ih => exact .had m files (ih hdone)
  | missing ops m e => exact .missing _ m e

/-- Only the last of it can have failed. -/
theorem eq_nil_of_fails (h : Staged id ops rounds all) {before after : List (Round Store)}
    {x : Round Store} (hsplit : rounds = before ++ x :: after) (hx : x.Fails) :
    all = false ∧ after = [] := by
  induction h generalizing before with
  | done => cases before <;> cases hsplit
  | staged j s rest ih =>
      cases before with
      | nil =>
          cases hsplit
          obtain ⟨e, he⟩ := hx
          cases he
      | cons y before => exact ih (List.cons.inj hsplit).2
  | refused op ops e s =>
      cases before with
      | nil =>
          cases hsplit
          exact ⟨rfl, rfl⟩
      | cons y before => cases before <;> cases (List.cons.inj hsplit).2
  | had m files rest ih =>
      cases before with
      | nil =>
          cases hsplit
          obtain ⟨e, he⟩ := hx
          cases he
      | cons y before => exact ih (List.cons.inj hsplit).2
  | missing ops m e =>
      cases before with
      | nil =>
          cases hsplit
          exact ⟨rfl, rfl⟩
      | cons y before => cases before <;> cases (List.cons.inj hsplit).2

/-- What is staged is a beginning of the changes that the operations mean. -/
theorem changes (h : Staged id ops rounds all) (hid : Unreserved id)
    (hlegible : ∀ op ∈ ops, op.Legible) :
    rounds.filterMap Round.change? <+: ops.map (·.change) := by
  have hchange : ∀ {op : Operation} (_ : op.Legible) (a : Except Error Json) (s : Store),
      (Round.sent (op.request id) a s).change? = some op.change := by
    intro op hop a s
    rw [Round.change?, Round.command?_sent (ofRequest_request hid hop)]
  induction h with
  | done => exact List.prefix_refl _
  | staged j s rest ih =>
      rw [List.filterMap_cons_some (hchange (hlegible _ List.mem_cons_self) _ s), List.map_cons]
      exact List.prefix_cons_inj _ |>.2 (ih fun op hop => hlegible op (List.mem_cons_of_mem _ hop))
  | refused op ops e s =>
      rw [List.filterMap_cons_some (hchange (hlegible _ List.mem_cons_self) _ s), List.map_cons]
      exact List.prefix_cons_inj _ |>.2 (List.nil_prefix)
  | had m files rest ih => exact ih hlegible
  | missing ops m e => exact List.nil_prefix

/-- An operation is staged, or files are asked for. -/
theorem mem (h : Staged id ops rounds all) :
    ∀ x ∈ rounds, (∃ op ∈ ops, ∃ a s, x = .sent (op.request id) a s) ∨ ∃ m a, x = .asked m a := by
  induction h with
  | done => exact fun x hx => absurd hx List.not_mem_nil
  | staged j s rest ih =>
      intro x hx
      rcases List.mem_cons.1 hx with rfl | hx
      · exact .inl ⟨_, List.mem_cons_self, _, s, rfl⟩
      · exact (ih x hx).imp_left fun ⟨op, hop, hsent⟩ => ⟨op, List.mem_cons_of_mem _ hop, hsent⟩
  | refused op ops e s =>
      intro x hx
      exact .inl ⟨op, List.mem_cons_self, _, s, List.mem_singleton.1 hx⟩
  | had m files rest ih =>
      intro x hx
      rcases List.mem_cons.1 hx with rfl | hx
      · exact .inr ⟨m, _, rfl⟩
      · exact ih x hx
  | missing ops m e => exact fun x hx => .inr ⟨m, _, List.mem_singleton.1 hx⟩

/-- All that is written names the transaction, and no other is opened. -/
theorem named (h : Staged id ops rounds all) (hid : Unreserved id)
    (hlegible : ∀ op ∈ ops, op.Legible) :
    ∀ x ∈ rounds, ¬ x.Opens ∧ (x.writes = true → x.transaction? = some id) := by
  intro x hx
  rcases h.mem x hx with ⟨op, hop, a, s, rfl⟩ | ⟨m, a, rfl⟩
  · have hcommand := Round.command?_sent (a := a) (s := s) (ofRequest_request hid (hlegible op hop))
    refine ⟨?_, fun _ => ?_⟩
    · rintro ⟨v, hv⟩
      rw [hcommand] at hv
      cases hv
    · rw [Round.transaction?, hcommand]
  · refine ⟨?_, nofun⟩
    rintro ⟨v, hv⟩
    cases hv

end Staged

namespace Reconciler

theorem stageOps_traced {ops : List Operation} {res : Except PassError Unit}
    (h : Traced fickle (stageOps ticket ops) s rounds s' res) :
    Staged ticket.id ops rounds res.isOk := by
  induction ops generalizing s rounds with
  | nil =>
      obtain ⟨rfl, rfl, rfl⟩ := Traced.done_iff.1 h
      exact .done
  | cons op ops ih =>
      obtain ⟨s₁, answer, first, last, rfl, hstage, hrest⟩ := Traced.bind_iff.1 h
      obtain ⟨a, rfl, -, rfl⟩ := traced_ask_iff.1 hstage
      cases a with
      | error e =>
          obtain ⟨rfl, rfl, rfl⟩ := Traced.done_iff.1 hrest
          exact .refused op ops e _
      | ok j => exact .staged j _ (ih hrest)

/-- Operations are staged, and then something else, unless one of them failed. -/
theorem andThen_traced {ops : List Operation} {cs : List Change}
    {rest : Dialogue (Except PassError Unit)} {res : Except PassError Unit}
    (hlegible : ∀ op ∈ ops, op.Legible) (hs : s.Holds ticket cs)
    (h : Traced fickle ((stageOps ticket ops).andThen fun _ => rest) s rounds s' res) :
    (Staged ticket.id ops rounds false ∧ Drift s s' ∧ ∃ e, res = .error e) ∨
      ∃ s₁ first last, rounds = first ++ last ∧ Staged ticket.id ops first true ∧ Drift s s₁ ∧
        s₁.Holds ticket (cs ++ ops.map (·.change)) ∧ Traced fickle rest s₁ last s' res := by
  obtain ⟨s₁, answer, first, last, rfl, hops, hrest⟩ := Traced.bind_iff.1 h
  have hfirst := stageOps_traced hops
  have hunfiled : (stageOps ticket ops).Within unfiled := within_stageOps fun _ _ _ => trivial
  obtain ⟨hdrift, hholds⟩ :=
    stageOps_runs hlegible hs (troubled_of_fickle (fun _ => default) hunfiled hops.runs)
  cases answer with
  | error e =>
      obtain ⟨rfl, rfl, rfl⟩ := Traced.done_iff.1 hrest
      rw [List.append_nil]
      exact .inl ⟨hfirst, hdrift, e, rfl⟩
  | ok done => exact .inr ⟨s₁, first, last, rfl, hfirst, hdrift, hholds rfl, hrest⟩

/-- **What is said while parts are staged**, and what the transaction holds if
    nothing failed. -/
theorem stageParts_traced {parts : List Part} {cs : List Change} {res : Except PassError Unit}
    (hlegible : ∀ ops, Rendered parts ops → ∀ op ∈ ops, op.Legible) (hs : s.Holds ticket cs)
    (h : Traced fickle (stageParts ticket parts) s rounds s' res) :
    ∃ ops, Rendered parts ops ∧ Staged ticket.id ops rounds res.isOk ∧ Drift s s' ∧
      (res = .ok () → s'.Holds ticket (cs ++ ops.map (·.change))) := by
  induction parts generalizing s cs rounds with
  | nil =>
      obtain ⟨rfl, rfl, rfl⟩ := Traced.done_iff.1 h
      refine ⟨[], .nil, .done, .refl s', fun _ => ?_⟩
      rwa [List.map_nil, List.append_nil]
  | cons part parts ih =>
      -- once the operations of the first part are known, both kinds go alike
      have staged : ∀ {os : List Operation} {said : List (Round Store)},
          (∀ ops, Rendered parts ops → Rendered (part :: parts) (os ++ ops)) →
          Traced fickle ((stageOps ticket os).andThen fun _ => stageParts ticket parts)
            s said s' res →
          ∃ ops, Rendered (part :: parts) ops ∧ Staged ticket.id ops said res.isOk ∧ Drift s s' ∧
            (res = .ok () → s'.Holds ticket (cs ++ ops.map (·.change))) := by
        intro os said hos h
        obtain ⟨some, hsome⟩ := Rendered.exists_rendered parts
        rcases andThen_traced (fun op hop =>
          hlegible _ (hos some hsome) op (List.mem_append_left _ hop)) hs h with
          ⟨hbroken, hdrift, e, rfl⟩ | ⟨s₁, first, last, rfl, hfirst, hdrift, hholds, hrest⟩
        · exact ⟨_, hos some hsome, hbroken.broken _, hdrift, nofun⟩
        · obtain ⟨ops, hrendered, hlast, hdrift', hholds'⟩ := ih
            (fun ops hops op hop => hlegible _ (hos ops hops) op (List.mem_append_right _ hop))
            hholds hrest
          refine ⟨os ++ ops, hos ops hrendered, hfirst.append hlast, hdrift.trans hdrift',
            fun hres => ?_⟩
          rw [List.map_append, ← List.append_assoc]
          exact hholds' hres
      cases part with
      | plain op => exact staged (fun ops hops => .plain op hops) h
      | sealed material f =>
          obtain ⟨s₁, answer, rest, rfl, rfl, hrest⟩ := Traced.certs_iff.1 h
          cases answer with
          | error e =>
              obtain ⟨rfl, rfl, rfl⟩ := Traced.done_iff.1 hrest
              obtain ⟨ops, hops⟩ := Rendered.exists_rendered (.sealed material f :: parts)
              exact ⟨ops, hops, .missing ops material e, .refl s', nofun⟩
          | ok files =>
              obtain ⟨ops, hops, hstaged, hlater⟩ :=
                staged (fun ops hops => .sealed files hops) hrest
              exact ⟨ops, hops, .had material files hstaged, hlater⟩

end Reconciler

/-! ## Transactions -/

/-- The request to open a transaction. -/
def opening (v : UInt64) : Request := ⟨.post, s!"{transactionsPath}?version={v}", none⟩

/-- The request that closes a transaction: a commit if all was staged, and an
    abort if not. -/
def closing (id : String) : Bool → Request
  | true => committing id
  | false => aborting id

/-- What is said in a transaction for operations: it is not opened, or it is
    opened at the version `v`, operations are staged in it, and it is closed. -/
inductive Transacted (v : UInt64) (ops : List Operation) (s : Store) : List (Round Store) → Prop
  | unopened {a : Except Error Json} {s' : Store}
      (unread : ∀ ticket, a.bind (Client.openedTicket v) ≠ .ok ticket) :
      Transacted v ops s [.sent (opening v) a s']
  | closed {j : Json} {a : Except Error Json} {s₁ s' : Store} {ticket : Ticket} {all : Bool}
      {staged : List (Round Store)} (read : Client.openedTicket v j = .ok ticket)
      (drift : Drift s s₁) (current : s₁.version = v) (plain : PlainSegment ticket.id.toList)
      (staging : Staged ticket.id ops staged all) :
      Transacted v ops s
        (.sent (opening v) (.ok j) s₁ :: (staged ++ [.sent (closing ticket.id all) a s']))

namespace Reconciler

variable {res : Except PassError (UInt64 × UInt64)}

/-- What is said to abort a transaction, and how it ends then. -/
theorem abort_traced {v : UInt64} {cs : List Change} {e : PassError}
    (hid : PlainSegment ticket.id.toList)
    (h : Traced fickle ((Client.abort ticket).bind fun _ => .done (.error e)) s rounds s' res) :
    (∃ a, rounds = [.sent (closing ticket.id false) a s']) ∧ Ends v cs s s' res := by
  have hunfiled : ((Client.abort ticket).bind fun _ =>
      .done (.error e : Except PassError (UInt64 × UInt64))).Within unfiled :=
    Dialogue.Within.bind (within_ask trivial) fun _ => trivial
  refine ⟨?_, abort_ends hid (troubled_of_fickle (fun _ => default) hunfiled h.runs)⟩
  obtain ⟨s₁, aborted, first, last, rfl, habort, hdone⟩ := Traced.bind_iff.1 h
  obtain ⟨a, rfl, -, -⟩ := traced_ask_iff.1 habort
  obtain ⟨rfl, rfl, -⟩ := Traced.done_iff.1 hdone
  exact ⟨a, rfl⟩

/-- What is said to commit a transaction, and how it ends then. -/
theorem commit_traced {cs : List Change} (hs : s.Holds ticket cs)
    (h : Traced fickle ((Client.commit ticket.version ticket).bind fun
      | .error e => .done (.error (.dataplane e))
      | .ok version => .done (.ok (ticket.version, version))) s rounds s' res) :
    (∃ a, rounds = [.sent (closing ticket.id true) a s']) ∧ Ends ticket.version cs s s' res := by
  have hasked : Client.commit ticket.version ticket =
      Client.ask (committing ticket.id) fun _ => .ok (ticket.version + 1) := by
    rw [Client.commit, if_neg (not_not.2 rfl)]
    rfl
  refine ⟨?_, commit_ends hs (troubled_of_fickle (fun _ => default) ?_ h.runs)⟩
  · obtain ⟨s₁, committed, first, last, rfl, hcommit, hdone⟩ := Traced.bind_iff.1 h
    rw [hasked] at hcommit
    obtain ⟨a, rfl, -, -⟩ := traced_ask_iff.1 hcommit
    cases committed with
    | error e =>
        obtain ⟨rfl, rfl, -⟩ := Traced.done_iff.1 hdone
        exact ⟨a, rfl⟩
    | ok version =>
        obtain ⟨rfl, rfl, -⟩ := Traced.done_iff.1 hdone
        exact ⟨a, rfl⟩
  · rw [hasked]
    refine Dialogue.Within.bind (within_ask trivial) fun committed => ?_
    cases committed <;> trivial

/-- **What is said in the transaction of a pass, and what becomes of it.** -/
theorem transact_traced {v : UInt64} {parts : List Part}
    (hlegible : ∀ ops, Rendered parts ops → ∀ op ∈ ops, op.Legible)
    (h : Traced fickle (transact v parts) s rounds s' res) :
    ∃ ops, Rendered parts ops ∧ Transacted v ops s rounds ∧
      Ends v (ops.map (·.change)) s s' res := by
  obtain ⟨s₁, opened, first, last, rfl, hbegin, hrest⟩ := Traced.bind_iff.1 h
  obtain ⟨hdrift, hopened⟩ :=
    begin_runs (troubled_of_fickle (fun _ => default) (within_ask trivial) hbegin.runs)
  obtain ⟨a, rfl, -, rfl⟩ := traced_ask_iff.1 hbegin
  -- without a ticket nothing more is said; with one the transaction is closed either way
  cases hread : a.bind (Client.openedTicket v) with
  | error e =>
      rw [hread] at hrest
      obtain ⟨rfl, rfl, rfl⟩ := Traced.done_iff.1 hrest
      obtain ⟨ops, hops⟩ := Rendered.exists_rendered parts
      refine ⟨ops, hops, .unopened fun ticket hticket => ?_, .inl ⟨⟨_, rfl⟩, .inl hdrift⟩⟩
      rw [hread] at hticket
      cases hticket
  | ok ticket =>
      rw [hread] at hrest
      obtain ⟨rfl, hcurrent, hholds⟩ := hopened ticket hread
      obtain ⟨s₂, staged, said, last, rfl, hstage, hend⟩ := Traced.bind_iff.1 hrest
      obtain ⟨ops, hops, hstaged, hdrift₂, hheld⟩ := stageParts_traced hlegible hholds hstage
      have hclosed : (∃ a, last = [.sent (closing ticket.id staged.isOk) a s']) ∧
          Ends ticket.version (ops.map (·.change)) s₂ s' res := by
        cases staged with
        | error e => exact abort_traced hholds.plain hend
        | ok done => exact commit_traced (hheld rfl) hend
      obtain ⟨⟨a', rfl⟩, hends⟩ := hclosed
      cases a with
      | error e => cases hread
      | ok j =>
          exact ⟨ops, hops, .closed hread hdrift hcurrent hholds.plain hstaged,
            hends.of_drift (hdrift.trans hdrift₂)⟩

end Reconciler

end MeshSync.Reconcile
