import Mathlib.Logic.Function.Basic
import MeshSync.Dataplane.Session
import MeshSync.Proofs.Dataplane.Numbering

/-! # Clients that share a store

    Any number of clients work on one store.  A client takes up a call, sends
    what the call asks for, and is done with it later; between any two of these
    steps the others may do what they like.  Requests and answers get lost, and
    strangers send requests and raise the version.

    Of a client this asks two things (`Session.Fits`): it tracks no version that
    the store has not had, and a transaction that it holds is open at the
    version of its ticket if it is open at all.  A call that was answered keeps
    its answer until the client is done with it, so it is asked as well of what
    the client will then keep (`Pending`); `pending_of_send` says so of every
    call, whatever becomes of its request. -/

namespace MeshSync.Dataplane

/-! ## Scenes -/

/-- A client, with its call under way and what is left of that. -/
structure Party where
  session : Session
  /-- The call that holds the client's lock; none where the lock is free. -/
  task : Option (Call × Dialogue (Except Error Reply))

/-- A store with its clients. -/
structure Scene (ι : Type) where
  store : Store
  /-- How often the version was raised. -/
  raised : Nat
  parties : ι → Option Party

namespace Scene

variable {ι : Type} [DecidableEq ι]

/-- A store without objects, and nobody there. -/
def new (first : UInt64) : Scene ι := ⟨.new first, 0, fun _ => none⟩

/-- The scene with a client as it is now. -/
def put (s : Scene ι) (i : ι) (p : Party) : Scene ι :=
  { s with parties := Function.update s.parties i (some p) }

/-- The scene with the store as it is now. -/
def turn (s : Scene ι) (st : Store) : Scene ι :=
  { s with
    store := st
    raised := s.raised + if st.version = s.store.version then 0 else 1 }

end Scene

/-- What can happen on a scene. -/
inductive Happening (ι : Type) where
  /-- A client comes that tracks a version. -/
  | create (i : ι) (version : UInt64)
  /-- A client takes up a call. -/
  | call (i : ι) (c : Call)
  /-- The request of a client is delivered, or not. -/
  | exchange (i : ι) (d : Delivery)
  /-- A client is done with its call. -/
  | finish (i : ι)
  /-- Somebody else sends a request. -/
  | stranger (q : Request)
  | bump

/-- The client that something happens to. -/
def Happening.party? {ι : Type} : Happening ι → Option ι
  | create i _ => some i
  | call i _ => some i
  | exchange i _ => some i
  | finish i => some i
  | stranger _ => none
  | bump => none

section Steps

variable {ι : Type} [DecidableEq ι]

/-- What happens on a scene, and when it can. -/
inductive Step : Scene ι → Happening ι → Scene ι → Prop
  | create {s : Scene ι} {i : ι} {version : UInt64} (absent : s.parties i = none)
      (known : version ≤ s.store.version) :
      Step s (.create i version) (s.put i ⟨.new version, none⟩)
  /-- A client has a lock that a call holds from its request to its end:
      `idle` says that the lock is free, `finish` gives it back. -/
  | call {s : Scene ι} {i : ι} {session : Session} {c : Call} {d : Dialogue (Except Error Reply)}
      (idle : s.parties i = some ⟨session, none⟩) (asks : session.ask c = some d) :
      Step s (.call i c) (s.put i ⟨session, some (c, d)⟩)
  | exchange {s : Scene ι} {i : ι} {session : Session} {c : Call} {q : Request}
      {next : Except Error Json → Dialogue (Except Error Reply)} (d : Delivery)
      (waits : s.parties i = some ⟨session, some (c, .send q next)⟩) :
      Step s (.exchange i d) ((s.turn (d.outcome s.store q).1).put i
        ⟨session, some (c, next (d.outcome s.store q).2)⟩)
  | finish {s : Scene ι} {i : ι} {session : Session} {c : Call} {a : Except Error Reply}
      (told : s.parties i = some ⟨session, some (c, .done a)⟩) :
      Step s (.finish i) (s.put i ⟨session.finish c a, none⟩)
  | stranger {s : Scene ι} (q : Request) : Step s (.stranger q) (s.turn (s.store.handle q).1)
  | bump {s : Scene ι} : Step s .bump (s.turn s.store.bump)

/-- The scenes that a run of happenings can lead to. -/
inductive Run (first : UInt64) : List (Happening ι) → Scene ι → Prop
  | nil : Run first [] (.new first)
  | snoc {es : List (Happening ι)} {s s' : Scene ι} {e : Happening ι} (before : Run first es s)
      (last : Step s e s') : Run first (es ++ [e]) s'

end Steps

/-! ## What a store has to do with a client -/

variable {s s' : Store} {q : Request} {ticket : Ticket} {x : Session}

/-- Whether a ticket is of a transaction that is open at its version, if it is
    open at all. -/
structure Store.Bears (s : Store) (ticket : Ticket) : Prop where
  given : s.Given ticket.id
  version : ∀ t, s.transactions.get? ticket.id = some t → t.version = ticket.version

/-- Whether a store is the other one some time later. -/
structure Store.Later (s s' : Store) : Prop where
  version : s.version.toNat ≤ s'.version.toNat
  bears : ∀ ticket, s.Bears ticket → s'.Bears ticket

/-- A store is later than itself. -/
theorem Store.Later.refl (s : Store) : s.Later s := ⟨Nat.le_refl _, fun _ => id⟩

/-- A request moves the version of the store by at most one. -/
theorem version_handle (s : Store) (q : Request) :
    (s.handle q).1.version = s.version ∨ (s.handle q).1.version = s.version + 1 := by
  rcases handle_cases s q with ⟨refusal, hr⟩ | ⟨c, -, hdoes⟩
  · rw [hr]
    exact .inl rfl
  · exact hdoes.version_cases

/-- A request leaves a later store, unless it takes the version past the
    largest number. -/
theorem later_handle (h : (s.handle q).1.version = s.version ∨ s.version.toNat + 1 < UInt64.size) :
    s.Later (s.handle q).1 := by
  constructor
  · rcases version_handle s q with hv | hv
    · exact Nat.le_of_eq (congrArg UInt64.toNat hv.symm)
    · rcases h with h | h
      · exact Nat.le_of_eq (congrArg UInt64.toNat h.symm)
      · rw [hv, toNat_next h]
        exact Nat.le_succ _
  · intro ticket hticket
    refine ⟨hticket.given.mono (opened_le_handle s q), fun t ht => ?_⟩
    rcases handle_cases s q with ⟨refusal, hr⟩ | ⟨c, -, hdoes⟩
    · rw [hr] at ht
      exact hticket.version t ht
    · rcases hdoes.open_cases ht with ⟨t₀, ht₀, hversion⟩ | ⟨hid, -, -⟩
      · rw [← hversion]
        exact hticket.version t₀ ht₀
      · -- a new transaction has no number that was given out
        obtain ⟨n, hn, hname⟩ := hticket.given
        rw [transactionId_inj (hname.symm.trans hid)] at hn
        exact absurd hn (Nat.not_succ_le_self _)

/-- A request whose answer may be lost leaves a later store as well. -/
theorem later_outcome (d : Delivery)
    (h : (d.outcome s q).1.version = s.version ∨ s.version.toNat + 1 < UInt64.size) :
    s.Later (d.outcome s q).1 := by
  rcases d.store_cases s q with hd | hd
  · rw [hd]
    exact .refl s
  · rw [hd] at h ⊢
    exact later_handle h

/-- A foreign commit leaves a later store. -/
theorem later_bump (h : s.version.toNat + 1 < UInt64.size) : s.Later s.bump := by
  refine ⟨?_, fun ticket hticket => ⟨hticket.given, hticket.version⟩⟩
  rw [show s.bump.version.toNat = s.version.toNat + 1 from toNat_next h]
  exact Nat.le_succ _

/-! ## What a client keeps -/

/-- Whether a client tracks no version that the store has not had, and holds
    transactions of the store. -/
structure Session.Fits (s : Store) (x : Session) : Prop where
  tracked : x.tracked.toNat ≤ s.version.toNat
  tickets : ∀ ticket, some ticket ∈ x.tickets → s.Bears ticket

/-- Whether what a client will keep after a call fits as well. -/
structure Pending (s : Store) (x : Session) (c : Call) (a : Except Error Reply) : Prop where
  fits : (x.finish c a).Fits s
  grows : x.tracked.toNat ≤ (x.finish c a).tracked.toNat

/-- Whether a client fits: its call has not been answered yet, or will leave it
    fitting. -/
structure Party.Fits (s : Store) (p : Party) : Prop where
  session : p.session.Fits s
  task : ∀ c d, p.task = some (c, d) →
    p.session.ask c = some d ∨ ∃ a, d = .done a ∧ Pending s p.session c a

/-- What a session knows of a store stays true of a later one. -/
theorem Session.Fits.later (h : x.Fits s) (hs : s.Later s') : x.Fits s' :=
  ⟨Nat.le_trans h.tracked hs.version, fun ticket ht => hs.bears ticket (h.tickets ticket ht)⟩

/-- What a client in the middle of a request knows of a store stays true of
    a later one. -/
theorem Party.Fits.later {p : Party} (h : p.Fits s) (hs : s.Later s') : p.Fits s' := by
  refine ⟨h.session.later hs, fun c d hd => ?_⟩
  rcases h.task c d hd with hask | ⟨a, ha, hpending⟩
  · exact .inl hask
  · exact .inr ⟨a, ha, hpending.fits.later hs, hpending.grows⟩

namespace Session

/-- A ticket that is found is among the tickets of the session. -/
theorem mem_of_ticket? {n : Nat} (h : x.ticket? n = some ticket) : some ticket ∈ x.tickets := by
  rw [ticket?, Option.join_eq_some_iff] at h
  exact List.mem_of_getElem? h

/-- Forgetting a ticket adds none. -/
theorem mem_of_without {n : Nat} (h : some ticket ∈ (x.without n).tickets) :
    some ticket ∈ x.tickets := by
  rcases List.mem_or_eq_of_mem_set h with h | h
  · exact h
  · cases h

end Session

/-- A call that leaves what is tracked leaves the client fitting. -/
theorem Pending.of_kept {c : Call} {a : Except Error Reply} (h : x.Fits s)
    (hkept : x.finish c a = x ∨ ∃ n, x.finish c a = x.without n) : Pending s x c a := by
  rcases hkept with hkept | ⟨n, hkept⟩
  · refine ⟨?_, Nat.le_of_eq ?_⟩
    · rwa [hkept]
    · rw [hkept]
  · refine ⟨?_, Nat.le_of_eq ?_⟩
    · rw [hkept]
      exact ⟨h.tracked, fun ticket ht => h.tickets ticket (Session.mem_of_without ht)⟩
    · rw [hkept]
      rfl

/-- Nothing but a version, or a transaction, that was given changes what a
    client keeps. -/
theorem finish_error (x : Session) (c : Call) (e : Error) :
    x.finish c (.error e) = x ∨ ∃ n, x.finish c (.error e) = x.without n := by
  cases c with
  | commit n => exact .inr ⟨n, rfl⟩
  | abort n => exact .inr ⟨n, rfl⟩
  | _ => exact .inl rfl

/-- A request with its answer still to come. -/
theorem bind_ask_eq_send {α : Type} {q q' : Request} {read : Json → Except Error α}
    {f : α → Reply} {next : Except Error Json → Dialogue (Except Error Reply)}
    (h : (Client.ask q' read).bind (fun a => .done (a.map f)) = .send q next) :
    q = q' ∧ ∀ answer, next answer = .done ((answer.bind read).map f) := by
  rw [Client.ask, Dialogue.bind] at h
  cases h
  exact ⟨rfl, fun _ => rfl⟩

/-! ## What becomes of a call -/

/-- A version that was read is that of the store. -/
theorem pending_refreshVersion {d : Delivery} (h : x.Fits s)
    (hq : q = ⟨.get, s!"{configurationPath}/frontends", none⟩) (hs : s.Later (d.outcome s q).1) :
    Pending (d.outcome s q).1 x .refreshVersion
      (((d.outcome s q).2.bind Client.listedVersion).map .version) := by
  cases hanswer : (d.outcome s q).2 with
  | error e => exact .of_kept (h.later hs) (finish_error x _ e)
  | ok j =>
      have hlisting : s.answer q = (s, .ok (s.listing "frontends")) := by
        rw [hq]
        exact answer_eq ofRequest_frontends rfl
      have houtcome := Delivery.eq_answer hanswer
      rw [houtcome, hlisting] at hanswer
      rw [houtcome, hlisting, ← Except.ok.inj hanswer]
      have hread : (Except.ok (s.listing "frontends") : Except Error Json).bind
          Client.listedVersion = .ok s.version := listedVersion_listing s "frontends"
      rw [hread]
      exact ⟨⟨Nat.le_refl _, h.tickets⟩, h.tracked⟩

/-- A transaction that was opened is open at the version that is tracked. -/
theorem pending_begin {d : Delivery} (h : x.Fits s)
    (hq : q = ⟨.post, s!"{transactionsPath}?version={x.tracked}", none⟩)
    (hs : s.Later (d.outcome s q).1) :
    Pending (d.outcome s q).1 x .begin
      (((d.outcome s q).2.bind (Client.openedTicket x.tracked)).map .opened) := by
  cases hanswer : (d.outcome s q).2 with
  | error e => exact .of_kept (h.later hs) (finish_error x _ e)
  | ok j =>
      have hfits := h.later hs
      have houtcome := Delivery.eq_answer hanswer
      rw [houtcome] at hanswer hfits ⊢
      subst hq
      obtain ⟨hversion, hopened⟩ := answer_of_begin hanswer
      rw [hopened] at hanswer hfits ⊢
      have hread : (Except.ok j : Except Error Json).bind (Client.openedTicket x.tracked) =
          .ok ⟨transactionId (s.opened + 1), x.tracked⟩ := by
        rw [← Except.ok.inj hanswer, Store.openedNext]
        exact openedTicket_begin _ _ _
      rw [hread]
      refine ⟨⟨hfits.tracked, fun ticket ht => ?_⟩, Nat.le_refl _⟩
      rcases List.mem_append.1 ht with ht | ht
      · exact hfits.tickets ticket ht
      · rw [Option.some.inj (List.mem_singleton.1 ht)]
        refine ⟨⟨s.opened + 1, Nat.le_refl _, rfl⟩, fun t hget => ?_⟩
        rw [Store.withNext, SortedMap.get?_insert_self] at hget
        rw [← Option.some.inj hget, hversion]

/-- A commit that is answered with success is made at the version of its
    ticket. -/
theorem answer_of_commit {j : Json} (hticket : s.Bears ticket)
    (h : (s.answer ⟨.put, Client.transactionPath ticket.id, none⟩).2 = .ok j) :
    s.version = ticket.version ∧
      s.Does (.commit ticket.id) (s.answer ⟨.put, Client.transactionPath ticket.id, none⟩).1
        (.ok j) := by
  rw [Store.answer, Store.handle, ofRequest_commit hticket.given.plain] at h ⊢
  dsimp only at h ⊢
  have hdoes := does_perform s (.commit ticket.id)
  generalize s.perform (.commit ticket.id) = done at h hdoes ⊢
  obtain ⟨s', a⟩ := done
  cases hdoes with
  | committed there current applies =>
      cases h
      exact ⟨(hticket.version _ there ▸ current).symm, .committed there current applies⟩
  | dropped there => cases h
  | refused => cases h

/-- A commit that is answered with success moves the version that is tracked to
    the version that it gave the store. -/
theorem pending_commit {d : Delivery} {n : Nat} (h : x.Fits s) (hticket : x.ticket? n = some ticket)
    (hversion : x.tracked = ticket.version)
    (hq : q = ⟨.put, Client.transactionPath ticket.id, none⟩)
    (hroom : (d.outcome s q).1.version = s.version ∨ s.version.toNat + 1 < UInt64.size) :
    Pending (d.outcome s q).1 x (.commit n)
      (((d.outcome s q).2.bind fun _ => .ok (x.tracked + 1)).map .version) := by
  have hs := later_outcome d hroom
  cases hanswer : (d.outcome s q).2 with
  | error e => exact .of_kept (h.later hs) (finish_error x _ e)
  | ok j =>
      have hfits := h.later hs
      have houtcome := Delivery.eq_answer hanswer
      rw [houtcome] at hanswer hroom hfits ⊢
      subst hq
      obtain ⟨hcurrent, hdoes⟩ :=
        answer_of_commit (h.tickets ticket (Session.mem_of_ticket? hticket)) hanswer
      have hraised := hdoes.raises
      have hroom : s.version.toNat + 1 < UInt64.size := by
        -- a commit that is answered with success raises the version
        refine hroom.resolve_left fun hsame => ?_
        rw [hraised] at hsame
        exact ne_add_one _ hsame
      have htracked : x.tracked = s.version := hversion.trans hcurrent.symm
      refine ⟨⟨?_, fun ticket ht => hfits.tickets ticket (Session.mem_of_without ht)⟩, ?_⟩
      · refine Nat.le_of_eq (congrArg UInt64.toNat ?_)
        rw [hraised, ← htracked]
        rfl
      · show x.tracked.toNat ≤ (x.tracked + 1).toNat
        rw [htracked, toNat_next hroom]
        exact Nat.le_succ _

/-- **A call that is answered leaves its client fitting**, and so does one whose
    request or answer gets lost. -/
theorem pending_of_send {c : Call} {next : Except Error Json → Dialogue (Except Error Reply)}
    {d : Delivery} (h : x.Fits s) (hask : x.ask c = some (.send q next))
    (hroom : (d.outcome s q).1.version = s.version ∨ s.version.toNat + 1 < UInt64.size) :
    ∃ a, next (d.outcome s q).2 = .done a ∧ Pending (d.outcome s q).1 x c a := by
  have hs := later_outcome d hroom
  cases c with
  | ping =>
      obtain ⟨-, hnext⟩ := bind_ask_eq_send (Option.some.inj hask)
      exact ⟨_, hnext _, .of_kept (h.later hs) (.inl rfl)⟩
  | info =>
      obtain ⟨-, hnext⟩ := bind_ask_eq_send (Option.some.inj hask)
      exact ⟨_, hnext _, .of_kept (h.later hs) (.inl rfl)⟩
  | listNames collection =>
      obtain ⟨-, hnext⟩ := bind_ask_eq_send (Option.some.inj hask)
      exact ⟨_, hnext _, .of_kept (h.later hs) (.inl rfl)⟩
  | stage n op =>
      obtain ⟨ticket, -, hask⟩ := Option.map_eq_some_iff.1 hask
      obtain ⟨-, hnext⟩ := bind_ask_eq_send hask
      exact ⟨_, hnext _, .of_kept (h.later hs) (.inl rfl)⟩
  | abort n =>
      obtain ⟨ticket, -, hask⟩ := Option.map_eq_some_iff.1 hask
      obtain ⟨-, hnext⟩ := bind_ask_eq_send hask
      exact ⟨_, hnext _, .of_kept (h.later hs) (.inr ⟨n, rfl⟩)⟩
  -- only these three calls can move the version that is tracked, or hold a new ticket
  | refreshVersion =>
      obtain ⟨hq, hnext⟩ := bind_ask_eq_send (Option.some.inj hask)
      exact ⟨_, hnext _, pending_refreshVersion h hq hs⟩
  | begin =>
      obtain ⟨hq, hnext⟩ := bind_ask_eq_send (Option.some.inj hask)
      exact ⟨_, hnext _, pending_begin h hq hs⟩
  | commit n =>
      obtain ⟨ticket, hticket, hask⟩ := Option.map_eq_some_iff.1 hask
      rw [Client.commit] at hask
      split at hask
      · cases hask
      · rename_i hversion
        obtain ⟨hq, hnext⟩ := bind_ask_eq_send hask
        exact ⟨_, hnext _, pending_commit h hticket (not_not.1 hversion) hq hroom⟩

/-- A call that asks for nothing is a commit at a version that is tracked no
    more, and fails. -/
theorem pending_of_done {c : Call} {a : Except Error Reply} (h : x.Fits s)
    (hask : x.ask c = some (.done a)) : Pending s x c a := by
  cases c with
  | commit n =>
      obtain ⟨ticket, -, hask⟩ := Option.map_eq_some_iff.1 hask
      rw [Client.commit] at hask
      split at hask
      · rw [Dialogue.bind] at hask
        cases hask
        exact .of_kept h (finish_error x _ _)
      · cases hask
  | stage n op =>
      obtain ⟨ticket, -, hask⟩ := Option.map_eq_some_iff.1 hask
      cases hask
  | abort n =>
      obtain ⟨ticket, -, hask⟩ := Option.map_eq_some_iff.1 hask
      cases hask
  | ping => cases hask
  | info => cases hask
  | refreshVersion => cases hask
  | listNames collection => cases hask
  | begin => cases hask

end MeshSync.Dataplane
