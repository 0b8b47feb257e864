import MeshSync.Proofs.Dataplane.Answers
import MeshSync.Proofs.Dataplane.Performing
import MeshSync.Proofs.Dialogue

/-! # A client and a store with trouble between them

    Requests may get lost, answers may get lost after the store did what it was
    asked for, and others may commit changes between two requests
    (`troubled`).  Whatever happens, a request that commits nothing
    lets the store `Drift`: it stays as it is, or others raise its version.
    Two consequences are used again and again: a store that drifted to a version
    it had before has the objects it had before (`Drift.objects_eq`), and what
    a client is told to have been done was done to the store as it was at that
    moment (`commit_runs`). -/

namespace MeshSync.Dataplane

open Url (Unreserved PlainSegment)

/-! ## Trouble -/

/-- What others may have done to a store between two requests: they raised the
    version, left the objects well formed, and did not touch transactions that
    were open. -/
structure Foreign (s s' : Store) : Prop where
  raised : s.version < s'.version
  formed : s'.objects.WellFormed
  kept : ∀ id t, s.transactions.get? id = some t → s'.transactions.get? id = some t

/-- Others leave every version behind that the store had reached. -/
theorem Foreign.outruns {s s' : Store} {t : UInt64} (h : Foreign s s') (hle : t ≤ s.version) :
    t < s'.version := UInt64.lt_of_le_of_lt hle h.raised

/-- A store before and after the time between two requests. -/
def Meddled (s s' : Store) : Prop := s' = s ∨ Foreign s s'

/-- The store after a request, and what the client is told. -/
def Store.answer (s : Store) (r : Request) : Store × Except Error Json :=
  match s.handle r with
  | (s', .ok j) => (s', .ok j)
  | (s', .error refusal) => (s', .error (refusal.error r))

/-- What may become of a request. -/
inductive Answers (s : Store) (r : Request) : Store → Except Error Json → Prop
  /-- It is answered. -/
  | served : Answers s r (s.answer r).1 (s.answer r).2
  /-- It does not reach the store. -/
  | lost (e : Error) : Answers s r s (.error e)
  /-- It is answered, but the answer does not reach the client. -/
  | muted (e : Error) : Answers s r (s.answer r).1 (.error e)

/-- What becomes of a request on its way to a store and back. -/
inductive Delivery where
  /-- It is answered. -/
  | served
  /-- It does not come to the store. -/
  | lost (e : Error)
  /-- It is carried out, but its answer does not come to the client. -/
  | muted (e : Error)

namespace Delivery

/-- The store after a request, and what the client is told. -/
def outcome (d : Delivery) (s : Store) (r : Request) : Store × Except Error Json :=
  match d with
  | served => s.answer r
  | lost e => (s, .error e)
  | muted e => ((s.answer r).1, .error e)

/-- Whether the store carries the request out. -/
def arrives : Delivery → Bool
  | served => true
  | lost _ => false
  | muted _ => true

end Delivery

/-- A store that others use too, behind a wire that loses requests and answers,
    and certificate files, one pair for a material, that cannot always be had. -/
def troubled (paths : TlsMaterial → Certificates.Paths) : Environment Store where
  send s r s' a := ∃ s₁, Meddled s s₁ ∧ Answers s₁ r s' a
  certs s m s' a := s' = s ∧ (a = .ok (paths m) ∨ ∃ e, a = .error e)
  retain s _ s' := s' = s

/-- The same store and files where nothing is lost and nobody else is there. -/
def calm (paths : TlsMaterial → Certificates.Paths) : Surroundings Store where
  send s r := s.answer r
  certs s m := (s, .ok (paths m))
  retain s _ := s

variable {paths : TlsMaterial → Certificates.Paths} {s s' s'' : Store} {r : Request}

/-- No trouble at all is among the troubles there can be. -/
theorem troubled_allows_calm : (troubled paths).Allows (calm paths) where
  send s _ := ⟨s, .inl rfl, .served⟩
  certs _ _ := ⟨rfl, .inl rfl⟩
  retain _ _ := rfl

/-- What a store answers is what it does, with the refusal told as an error. -/
theorem answer_cases (s : Store) (r : Request) :
    (∃ s' j, s.handle r = (s', .ok j) ∧ s.answer r = (s', .ok j)) ∨
      ∃ s' refusal, s.handle r = (s', .error refusal) ∧
        s.answer r = (s', .error (refusal.error r)) := by
  cases h : s.handle r with
  | mk s' a =>
      cases a with
      | ok j => exact .inl ⟨s', j, rfl, by rw [Store.answer, h]⟩
      | error refusal => exact .inr ⟨s', refusal, rfl, by rw [Store.answer, h]⟩

/-- What the client is told does not change what the store did. -/
theorem answer_store (s : Store) (r : Request) : (s.answer r).1 = (s.handle r).1 := by
  rcases answer_cases s r with ⟨s', j, hs, ha⟩ | ⟨s', refusal, hs, ha⟩
  · rw [hs, ha]
  · rw [hs, ha]

/-- A request whose answer comes through was done. -/
theorem answer_of_ok {j : Json} (h : Answers s r s' (.ok j)) : s.handle r = (s', .ok j) := by
  generalize ha : (Except.ok j : Except Error Json) = a at h
  cases h with
  | served =>
      rcases answer_cases s r with ⟨s', i, hs, hanswer⟩ | ⟨s', refusal, hs, hanswer⟩
      · rw [hanswer] at ha ⊢
        cases ha
        exact hs
      · rw [hanswer] at ha
        cases ha
  | lost e => cases ha
  | muted e => cases ha

/-- Whatever the client is told, the store did the request or did not. -/
theorem store_of_answers {a : Except Error Json} (h : Answers s r s' a) :
    s' = s ∨ s' = (s.handle r).1 := by
  cases h with
  | served => exact .inr (answer_store s r)
  | lost e => exact .inl rfl
  | muted e => exact .inr (answer_store s r)

/-! ## Drifting -/

/-- A store before and after some time in which its client committed nothing. -/
structure Drift (s s' : Store) : Prop where
  moved : (s'.version = s.version ∧ s'.objects = s.objects) ∨ s.version < s'.version
  formed : s.objects.WellFormed → s'.objects.WellFormed

namespace Drift

/-- Nothing may have happened. -/
theorem refl (s : Store) : Drift s s := ⟨.inl ⟨rfl, rfl⟩, id⟩

/-- A store with the same objects at the same version has drifted nowhere. -/
theorem of_eq (hv : s'.version = s.version) (ho : s'.objects = s.objects) : Drift s s' :=
  ⟨.inl ⟨hv, ho⟩, fun h => by rwa [ho]⟩

/-- What others do is drift. -/
theorem of_meddled (h : Meddled s s') : Drift s s' := by
  rcases h with rfl | h
  · exact refl s'
  · exact ⟨.inr h.raised, fun _ => h.formed⟩

/-- Drift upon drift is drift. -/
theorem trans (h : Drift s s') (h' : Drift s' s'') : Drift s s'' := by
  refine ⟨?_, fun hs => h'.formed (h.formed hs)⟩
  rcases h.moved with ⟨hv, ho⟩ | hlt
  · rcases h'.moved with ⟨hv', ho'⟩ | hlt'
    · exact .inl ⟨hv'.trans hv, ho'.trans ho⟩
    · exact .inr (hv ▸ hlt')
  · rcases h'.moved with ⟨hv', -⟩ | hlt'
    · exact .inr (hv' ▸ hlt)
    · exact .inr (UInt64.lt_trans hlt hlt')

/-- The version does not go back. -/
theorem version_le (h : Drift s s') : s.version ≤ s'.version := by
  rcases h.moved with ⟨hv, -⟩ | hlt
  · exact hv ▸ UInt64.le_refl _
  · exact UInt64.le_of_lt hlt

/-- **A version that is not higher means the same objects.** -/
theorem objects_eq (h : Drift s s') (hv : s'.version ≤ s.version) :
    s'.version = s.version ∧ s'.objects = s.objects := by
  rcases h.moved with heq | hlt
  · exact heq
  · exact absurd hlt (UInt64.not_lt.2 hv)

/-- A store can only come back to a version that it had by staying there. -/
theorem still {t : UInt64} (h : Drift s s') (hle : t ≤ s.version) (hv : s'.version = t) :
    t = s.version ∧ s'.objects = s.objects := by
  obtain ⟨hversion, hobjects⟩ := h.objects_eq (hv ▸ hle)
  exact ⟨hv.symm.trans hversion, hobjects⟩

end Drift

/-- A command that commits nothing leaves version and objects as they are. -/
theorem perform_keeps {c : Command} (hc : ∀ id, c ≠ .commit id) :
    (s.perform c).1.version = s.version ∧ (s.perform c).1.objects = s.objects :=
  (does_perform s c).keeps (.inl hc)

/-- A request that commits nothing is drift. -/
theorem drift_of_handle {c : Command} (hr : Command.ofRequest r = .ok c)
    (hc : ∀ id, c ≠ .commit id) : Drift s (s.handle r).1 := by
  rw [Store.handle, hr]
  exact .of_eq (perform_keeps hc).1 (perform_keeps hc).2

/-- What was said of a request that commits nothing. -/
theorem drift_of_send {c : Command} {a : Except Error Json} (hr : Command.ofRequest r = .ok c)
    (hc : ∀ id, c ≠ .commit id) (h : (troubled paths).send s r s' a) : Drift s s' := by
  obtain ⟨s₁, hmeddled, hanswers⟩ := h
  refine (Drift.of_meddled hmeddled).trans ?_
  rcases store_of_answers hanswers with h | h
  · rw [h]
    exact .refl s₁
  · rw [h]
    exact drift_of_handle hr hc

/-- A request whose answer comes through was done by the store that others had
    left. -/
theorem perform_of_send {c : Command} {j : Json} (hr : Command.ofRequest r = .ok c)
    (h : (troubled paths).send s r s' (.ok j)) :
    ∃ s₁, Meddled s s₁ ∧ s₁.perform c = (s', .ok j) := by
  obtain ⟨s₁, hmeddled, hanswers⟩ := h
  refine ⟨s₁, hmeddled, ?_⟩
  have := answer_of_ok hanswers
  rwa [Store.handle, hr] at this

/-! ## What a client does -/

section Client

open Dialogue (Runs)

variable {α : Type}

/-- A dialogue of one request ends as its answer reads. -/
theorem ask_iff {σ : Type} {env : Environment σ} {w w' : σ} {read : Json → Except Error α}
    {res : Except Error α} :
    Runs env (Client.ask r read) w w' res ↔ ∃ a, env.send w r w' a ∧ res = a.bind read := by
  rw [Client.ask, Runs.send_iff]
  constructor
  · rintro ⟨w₁, a, hsend, hdone⟩
    obtain ⟨rfl, rfl⟩ := Runs.done_iff.1 hdone
    exact ⟨a, hsend, rfl⟩
  · rintro ⟨a, hsend, rfl⟩
    exact ⟨w', a, hsend, .done _ _⟩

/-- Asking for something that commits nothing: the store drifts, and an answer
    is that of the store as others had left it. -/
theorem ask_runs {c : Command} {read : Json → Except Error α} {res : Except Error α}
    (hr : Command.ofRequest r = .ok c) (hc : ∀ id, c ≠ .commit id)
    (h : Runs (troubled paths) (Client.ask r read) s s' res) :
    Drift s s' ∧ ∀ a, res = .ok a →
      ∃ s₁ j, Meddled s s₁ ∧ s₁.perform c = (s', .ok j) ∧ read j = .ok a := by
  obtain ⟨answer, hsend, rfl⟩ := ask_iff.1 h
  refine ⟨drift_of_send hr hc hsend, fun a ha => ?_⟩
  cases answer with
  | error e => exact nomatch ha
  | ok j =>
      obtain ⟨s₁, hmeddled, hperform⟩ := perform_of_send hr hsend
      exact ⟨s₁, j, hmeddled, hperform, ha⟩

/-- A version that was read is that of the store, with nobody in between. -/
theorem refreshVersion_runs {res : Except Error UInt64}
    (h : Runs (troubled paths) Client.refreshVersion s s' res) :
    Drift s s' ∧ ∀ v, res = .ok v → v = s'.version := by
  obtain ⟨hdrift, hok⟩ := ask_runs ofRequest_frontends (fun _ => nofun) h
  refine ⟨hdrift, fun v hv => ?_⟩
  obtain ⟨s₁, j, -, hperform, hread⟩ := hok v hv
  obtain ⟨rfl, hj⟩ := Prod.mk.inj hperform
  rw [← Except.ok.inj hj, listedVersion_listing] at hread
  exact (Except.ok.inj hread).symm

/-- Names that were read are those that the store lists. -/
theorem listNames_runs {kind : String} {res : Except Error (List String)}
    (hkind : PlainSegment kind.toList)
    (h : Runs (troubled paths) (Client.listNames kind) s s' res) :
    Drift s s' ∧ ∀ names, res = .ok names → names = s'.listed kind := by
  obtain ⟨hdrift, hok⟩ := ask_runs (ofRequest_list hkind) (fun _ => nofun) h
  refine ⟨hdrift, fun names hnames => ?_⟩
  obtain ⟨s₁, j, -, hperform, hread⟩ := hok names hnames
  obtain ⟨rfl, hj⟩ := Prod.mk.inj hperform
  rw [← Except.ok.inj hj, listedNames_listing] at hread
  exact (Except.ok.inj hread).symm

/-- Whether a transaction is open with these changes staged in it. -/
structure Store.Holds (s : Store) (ticket : Ticket) (changes : List Change) : Prop where
  plain : PlainSegment ticket.id.toList
  staged : s.transactions.get? ticket.id = some ⟨ticket.version, changes⟩

/-- A transaction that is open stays so, with its changes, whatever others
    do. -/
theorem Store.Holds.meddled {ticket : Ticket} {changes : List Change} (h : s.Holds ticket changes)
    (hm : Meddled s s') : s'.Holds ticket changes := by
  rcases hm with rfl | hf
  · exact h
  · exact ⟨h.plain, hf.kept _ _ h.staged⟩

/-- A transaction that was opened is open, empty, at the version asked for. -/
theorem begin_runs {v : UInt64} {res : Except Error Ticket}
    (h : Runs (troubled paths) (Client.begin v) s s' res) :
    Drift s s' ∧ ∀ ticket, res = .ok ticket →
      ticket.version = v ∧ s'.version = v ∧ s'.Holds ticket [] := by
  obtain ⟨hdrift, hok⟩ := ask_runs (ofRequest_begin v) (fun _ => nofun) h
  refine ⟨hdrift, fun ticket hticket => ?_⟩
  obtain ⟨s₁, j, -, hperform, hread⟩ := hok ticket hticket
  rw [Store.perform, Store.begin] at hperform
  split at hperform
  · cases (Prod.mk.inj hperform).2
  · rename_i hv
    obtain ⟨rfl, hj⟩ := Prod.mk.inj hperform
    rw [← Except.ok.inj hj, openedTicket_begin] at hread
    rw [← Except.ok.inj hread]
    exact ⟨rfl, (not_not.1 hv).symm, plain_transactionId _, SortedMap.get?_insert_self _ _ _⟩

/-- A change that was staged is the last of its transaction. -/
theorem stage_runs {ticket : Ticket} {op : Operation} {changes : List Change}
    {res : Except Error Unit} (hop : op.Legible) (hs : s.Holds ticket changes)
    (h : Runs (troubled paths) (Client.stage ticket op) s s' res) :
    Drift s s' ∧ (res = .ok () → s'.Holds ticket (changes ++ [op.change])) := by
  obtain ⟨hdrift, hok⟩ := ask_runs (ofRequest_request hs.plain.unreserved hop) (fun _ => nofun) h
  refine ⟨hdrift, fun hres => ⟨hs.plain, ?_⟩⟩
  obtain ⟨s₁, j, hmeddled, hperform, -⟩ := hok () hres
  rw [Store.perform, Store.stage, (hs.meddled hmeddled).staged] at hperform
  rw [← (Prod.mk.inj hperform).1]
  exact SortedMap.get?_insert_self _ _ _

/-- To abort is to commit nothing. -/
theorem abort_runs {ticket : Ticket} {res : Except Error Unit}
    (hid : PlainSegment ticket.id.toList)
    (h : Runs (troubled paths) (Client.abort ticket) s s' res) : Drift s s' :=
  (ask_runs (ofRequest_abort hid) (fun _ => nofun) h).1

/-- A store before and after some time in which its client committed once: the
    changes were made to the objects of a store that had the version they were
    planned for. -/
structure Committed (v : UInt64) (changes : List Change) (s s' : Store) : Prop where
  made : ∃ s₁, Drift s s₁ ∧ s₁.version = v ∧ s₁.objects.applyAll changes = .ok s'.objects
  version : s'.version = v + 1

/-- What drifted before a commit does not matter to it. -/
theorem Committed.of_drift {v : UInt64} {changes : List Change} (h : Drift s s')
    (h' : Committed v changes s' s'') : Committed v changes s s'' := by
  obtain ⟨⟨s₁, hdrift, hrest⟩, hv⟩ := h'
  exact ⟨⟨s₁, h.trans hdrift, hrest⟩, hv⟩

/-- What a store makes of a commit. -/
theorem perform_commit {ticket : Ticket} {changes : List Change} (h : s.Holds ticket changes) :
    Drift s (s.perform (.commit ticket.id)).1 ∧
        (∃ e, (s.perform (.commit ticket.id)).2 = .error e) ∨
      Committed ticket.version changes s (s.perform (.commit ticket.id)).1 := by
  rw [Store.perform, Store.commit, h.staged]
  dsimp only
  split
  · exact .inl ⟨.of_eq rfl rfl, _, rfl⟩
  · rename_i hv
    split
    · exact .inl ⟨.of_eq rfl rfl, _, rfl⟩
    · rename_i objects hobjects
      have hv := (not_not.1 hv).symm
      exact .inr ⟨⟨s, .refl s, hv, hobjects⟩, by rw [hv]⟩

/-- **A commit is made as a whole or not at all**, whatever the client is told;
    if it is told that the commit was made, it was. -/
theorem commit_runs {ticket : Ticket} {changes : List Change} {res : Except Error UInt64}
    (hs : s.Holds ticket changes)
    (h : Runs (troubled paths) (Client.commit ticket.version ticket) s s' res) :
    (Drift s s' ∧ ∃ e, res = .error e) ∨
      (Committed ticket.version changes s s' ∧
        ((∃ e, res = .error e) ∨ res = .ok (ticket.version + 1))) := by
  rw [Client.commit, if_neg (not_not.2 rfl)] at h
  obtain ⟨answer, ⟨s₁, hmeddled, hanswers⟩, rfl⟩ := ask_iff.1 h
  have hdrift := Drift.of_meddled hmeddled
  have hhandle : s₁.handle ⟨.put, Client.transactionPath ticket.id, none⟩ =
      s₁.perform (.commit ticket.id) := by
    rw [Store.handle, ofRequest_commit hs.plain]
  cases answer with
  | ok j =>
      have hdone := (hhandle.symm.trans (answer_of_ok hanswers))
      refine .inr ⟨?_, .inr rfl⟩
      rcases perform_commit (hs.meddled hmeddled) with ⟨-, e, he⟩ | hcommitted
      · rw [hdone] at he
        cases he
      · rw [hdone] at hcommitted
        exact hcommitted.of_drift hdrift
  | error e =>
      -- an error says nothing: the request may not have come, or its answer not
      rcases store_of_answers hanswers with hlost | hdone
      · rw [hlost]
        exact .inl ⟨hdrift, e, rfl⟩
      · rw [hdone, hhandle]
        rcases perform_commit (hs.meddled hmeddled) with ⟨hkept, -⟩ | hcommitted
        · exact .inl ⟨hdrift.trans hkept, e, rfl⟩
        · exact .inr ⟨hcommitted.of_drift hdrift, .inl ⟨e, rfl⟩⟩

end Client

/-! ## Without trouble -/

section Calm

variable {α : Type}

/-- Without trouble a request is answered by the store as it is. -/
theorem run_ask (read : Json → Except Error α) :
    (Client.ask r read).run (calm paths) s = ((s.answer r).1, (s.answer r).2.bind read) := by
  rw [Client.ask, Dialogue.run]
  dsimp only [calm]
  generalize s.answer r = answered
  rfl

/-- A command that is carried out is answered with what it gave. -/
theorem answer_eq {c : Command} {j : Json} (hr : Command.ofRequest r = .ok c)
    (h : s.perform c = (s', .ok j)) : s.answer r = (s', .ok j) := by
  rw [Store.answer, Store.handle, hr]
  dsimp only
  rw [h]

variable (paths)

/-- The version that is read is the current one. -/
theorem run_refreshVersion :
    Client.refreshVersion.run (calm paths) s = (s, .ok s.version) := by
  have hanswer : s.answer ⟨.get, s!"{configurationPath}/frontends", none⟩ =
      (s, .ok (s.listing "frontends")) := answer_eq ofRequest_frontends rfl
  rw [Client.refreshVersion, run_ask, hanswer]
  dsimp only [Except.bind]
  rw [listedVersion_listing]

/-- The names that are read are those of the present objects. -/
theorem run_listNames {kind : String} (hkind : PlainSegment kind.toList) :
    (Client.listNames kind).run (calm paths) s = (s, .ok (s.listed kind)) := by
  have hanswer : s.answer ⟨.get, s!"{configurationPath}/{kind}", none⟩ =
      (s, .ok (s.listing kind)) := answer_eq (ofRequest_list hkind) rfl
  rw [Client.listNames, run_ask, hanswer]
  dsimp only [Except.bind]
  rw [listedNames_listing]

/-- A transaction is opened at the current version. -/
theorem run_begin : ∃ s' ticket, (Client.begin s.version).run (calm paths) s = (s', .ok ticket) ∧
    s'.objects = s.objects ∧ ticket.version = s'.version ∧ s'.version = s.version ∧
    s'.Holds ticket [] := by
  have hanswer := answer_eq (r := ⟨.post, s!"{transactionsPath}?version={s.version}", none⟩)
    (s := s) (ofRequest_begin s.version) (by
      rw [Store.perform, Store.begin, if_neg (not_not.2 rfl)])
  rw [Client.begin, run_ask, hanswer]
  dsimp only [Except.bind]
  rw [openedTicket_begin]
  exact ⟨_, _, rfl, rfl, rfl, rfl, plain_transactionId _, SortedMap.get?_insert_self _ _ _⟩

/-- A transaction is not opened at another version than the current one. -/
theorem run_begin_stale {v : UInt64} (h : v ≠ s.version) :
    ∃ e, (Client.begin v).run (calm paths) s = (s, .error e) := by
  have hanswer : s.answer ⟨.post, s!"{transactionsPath}?version={v}", none⟩ =
      (s, .error ((Refusal.mismatch s.version).error
        ⟨.post, s!"{transactionsPath}?version={v}", none⟩)) := by
    rw [Store.answer, Store.handle, ofRequest_begin]
    dsimp only
    rw [Store.perform, Store.begin, if_pos h]
  rw [Client.begin, run_ask, hanswer]
  exact ⟨_, rfl⟩

/-- A change is staged behind those of its transaction, and nothing else
    happens. -/
theorem run_stage {ticket : Ticket} {op : Operation} {changes : List Change} (hop : op.Legible)
    (hs : s.Holds ticket changes) :
    ∃ s', (Client.stage ticket op).run (calm paths) s = (s', .ok ()) ∧ s'.objects = s.objects ∧
      s'.version = s.version ∧ s'.Holds ticket (changes ++ [op.change]) := by
  have hanswer := answer_eq (s := s) (ofRequest_request hs.plain.unreserved hop) (by
    rw [Store.perform, Store.stage, hs.staged])
  rw [Client.stage, run_ask, hanswer]
  exact ⟨_, rfl, rfl, rfl, hs.plain, SortedMap.get?_insert_self _ _ _⟩

/-- Changes that apply are committed at the version they were planned for. -/
theorem run_commit {ticket : Ticket} {changes : List Change} {objects : Objects}
    (hs : s.Holds ticket changes) (hv : ticket.version = s.version)
    (h : s.objects.applyAll changes = .ok objects) :
    ∃ s', (Client.commit ticket.version ticket).run (calm paths) s =
      (s', .ok (ticket.version + 1)) := by
  have hanswer := answer_eq (s := s) (ofRequest_commit hs.plain) (by
    rw [Store.perform, Store.commit, hs.staged]
    dsimp only
    rw [if_neg (not_not.2 hv), h])
  rw [Client.commit, if_neg (not_not.2 rfl), run_ask, hanswer]
  exact ⟨_, rfl⟩

end Calm

end MeshSync.Dataplane
