import MeshSync.Proofs.Dataplane.Sharing

/-! # Calls from end to end

    How a client with nothing else under way makes one call after the other,
    from taking it up to being done with it.  `Run.calls` says it of any call
    that sends one request, whatever becomes of that; the lemmas after it are the
    calls that make up a transaction, and runs are put together from them. -/

namespace MeshSync.Dataplane

variable {ι : Type} [DecidableEq ι] {first : UInt64} {s s' : Scene ι} {i j : ι} {x : Session}

/-- A client is as it was put. -/
theorem Scene.put_self (s : Scene ι) (i : ι) (p : Party) : (s.put i p).parties i = some p := by
  rw [Scene.put]
  exact Function.update_self i _ s.parties

/-- The others stay as they are. -/
theorem Scene.put_of_ne (s : Scene ι) (p : Party) (h : j ≠ i) :
    (s.put i p).parties j = s.parties j := by
  rw [Scene.put]
  exact Function.update_of_ne h _ s.parties

/-- Of two ways to put a client the later one counts. -/
theorem Scene.put_put (s : Scene ι) (i : ι) (p p' : Party) :
    (s.put i p).put i p' = s.put i p' :=
  congrArg (Scene.mk _ _) (Function.update_idem _ _ _)

/-- A client and the store move on independently. -/
theorem Scene.turn_put (s : Scene ι) (st : Store) (i : ι) (p : Party) :
    (s.put i p).turn st = (s.turn st).put i p := rfl

/-- A call of a client that was idle, up to what becomes of its request; nobody
    else does anything in the meantime. -/
theorem Run.exchanges {es : List (Happening ι)} {c : Call} {q : Request} {a : Except Error Reply}
    {next : Except Error Json → Dialogue (Except Error Reply)} (h : Run first es s)
    (hp : s.parties i = some ⟨x, none⟩) (hask : x.ask c = some (.send q next)) (d : Delivery)
    (hdone : next (d.outcome s.store q).2 = .done a) :
    Run first (es ++ [.call i c] ++ [.exchange i d])
      ((s.turn (d.outcome s.store q).1).put i ⟨x, some (c, .done a)⟩) := by
  have hcalled := h.snoc (.call hp hask)
  have hanswered := hcalled.snoc (.exchange d (Scene.put_self _ _ _))
  rwa [show (s.put i _).store = s.store from rfl, hdone, Scene.turn_put, Scene.put_put] at hanswered

/-- The whole of such a call. -/
theorem Run.calls {es : List (Happening ι)} {c : Call} {q : Request} {a : Except Error Reply}
    {next : Except Error Json → Dialogue (Except Error Reply)} (h : Run first es s)
    (hp : s.parties i = some ⟨x, none⟩) (hask : x.ask c = some (.send q next)) (d : Delivery)
    (hdone : next (d.outcome s.store q).2 = .done a) :
    Run first (es ++ [.call i c] ++ [.exchange i d] ++ [.finish i])
      ((s.turn (d.outcome s.store q).1).put i ⟨x.finish c a, none⟩) := by
  have hfinished := (h.exchanges hp hask d hdone).snoc (.finish (Scene.put_self _ _ _))
  rwa [Scene.put_put] at hfinished

/-- Whether a client has made one call, and which version and objects the store
    has then. -/
structure Scene.Went (s s' : Scene ι) (i : ι) (p : Party) (version : UInt64)
    (objects : Objects) : Prop where
  party : s'.parties i = some p
  others : ∀ j, j ≠ i → s'.parties j = s.parties j
  version : s'.store.version = version
  objects : s'.store.objects = objects
  raised : s'.raised ≤ s.raised + 1

/-- What a turn of the store and a move of one client come to. -/
theorem Scene.went (s : Scene ι) (st : Store) (i : ι) (p : Party) :
    s.Went ((s.turn st).put i p) i p st.version st.objects := by
  refine ⟨Scene.put_self _ _ _, fun _ hj => Scene.put_of_ne _ _ hj, rfl, rfl, ?_⟩
  show s.raised + _ ≤ s.raised + 1
  split <;> omega

/-- A client that tracks the version of the store is given a transaction. -/
theorem Run.begins {es : List (Happening ι)} (h : Run first es s)
    (hp : s.parties i = some ⟨x, none⟩) (hversion : x.tracked = s.store.version) :
    ∃ es' s' ticket, Run first es' s' ∧ ticket.version = x.tracked ∧ s'.store.Holds ticket [] ∧
      s.Went s' i ⟨⟨x.tracked, x.tickets ++ [some ticket]⟩, none⟩ s.store.version s.store.objects := by
  have hask : x.ask .begin = some (.send ⟨.post, s!"{transactionsPath}?version={x.tracked}", none⟩
      fun answer => .done ((answer.bind (Client.openedTicket x.tracked)).map .opened)) := rfl
  have hanswer : s.store.answer ⟨.post, s!"{transactionsPath}?version={x.tracked}", none⟩ =
      (s.store.withNext, .ok s.store.openedNext) := by
    refine answer_eq (ofRequest_begin _) ?_
    rw [hversion, Store.perform, Store.begin, if_neg (not_not.2 rfl)]
    rfl
  have hread : Client.openedTicket x.tracked s.store.openedNext =
      .ok ⟨transactionId (s.store.opened + 1), x.tracked⟩ := openedTicket_begin _ _ _
  have hrun := h.calls (a := .ok (.opened ⟨transactionId (s.store.opened + 1), x.tracked⟩)) hp hask
    .served (by
      rw [Delivery.outcome, hanswer]
      dsimp only [Except.bind]
      rw [hread]
      rfl)
  rw [Delivery.outcome, hanswer] at hrun
  refine ⟨_, _, ⟨transactionId (s.store.opened + 1), x.tracked⟩, hrun, rfl,
    ⟨plain_transactionId _, ?_⟩, s.went _ i _⟩
  show s.store.withNext.transactions.get? _ = _
  rw [hversion]
  exact SortedMap.get?_insert_self _ _ _

/-- A client stages an operation in a transaction that is open. -/
theorem Run.stages {es : List (Happening ι)} (h : Run first es s) {n : Nat} {ticket : Ticket}
    {changes : List Change} (hp : s.parties i = some ⟨x, none⟩)
    (hticket : x.ticket? n = some ticket) (hholds : s.store.Holds ticket changes) (op : Operation)
    (hop : op.Legible) :
    ∃ es' s', Run first es' s' ∧ s'.store.Holds ticket (changes ++ [op.change]) ∧
      s.Went s' i ⟨x, none⟩ s.store.version s.store.objects := by
  have hask : x.ask (.stage n op) = some (.send (op.request ticket.id) fun answer =>
      .done ((answer.bind fun _ => .ok ()).map fun _ => .accepted)) := by
    rw [Session.ask, hticket, Option.map_some]
    rfl
  have hanswer := answer_eq (s := s.store) (ofRequest_request hholds.plain.unreserved hop) (by
    rw [Store.perform, Store.stage, hholds.staged])
  have hrun := h.calls (a := .ok .accepted) hp hask .served (by
    rw [Delivery.outcome, hanswer]
    rfl)
  rw [Delivery.outcome, hanswer] at hrun
  exact ⟨_, _, hrun, ⟨hholds.plain, SortedMap.get?_insert_self _ _ _⟩, s.went _ i _⟩

/-- A client learns the version of the store. -/
theorem Run.refreshes {es : List (Happening ι)} (h : Run first es s)
    (hp : s.parties i = some ⟨x, none⟩) :
    ∃ es' s', Run first es' s' ∧
      s.Went s' i ⟨⟨s.store.version, x.tickets⟩, none⟩ s.store.version s.store.objects := by
  have hask : x.ask .refreshVersion = some (.send ⟨.get, s!"{configurationPath}/frontends", none⟩
      fun answer => .done ((answer.bind Client.listedVersion).map .version)) := rfl
  have hanswer : s.store.answer ⟨.get, s!"{configurationPath}/frontends", none⟩ =
      (s.store, .ok (s.store.listing "frontends")) := answer_eq ofRequest_frontends rfl
  have hread : Client.listedVersion (s.store.listing "frontends") = .ok s.store.version :=
    listedVersion_listing _ _
  have hrun := h.calls (a := .ok (.version s.store.version)) hp hask .served (by
    rw [Delivery.outcome, hanswer]
    dsimp only [Except.bind]
    rw [hread]
    rfl)
  rw [Delivery.outcome, hanswer] at hrun
  exact ⟨_, _, hrun, s.went _ i _⟩

/-- What a client asks for that commits a transaction at the version it tracks,
    and what a store that has that version makes of it. -/
theorem commit_of_holds {st : Store} {n : Nat} {ticket : Ticket} {changes : List Change}
    {objects : Objects} (hticket : x.ticket? n = some ticket) (hversion : x.tracked = ticket.version)
    (hholds : st.Holds ticket changes) (hcurrent : ticket.version = st.version)
    (happly : st.objects.applyAll changes = .ok objects) :
    (x.ask (.commit n) = some (.send ⟨.put, Client.transactionPath ticket.id, none⟩ fun answer =>
      .done ((answer.bind fun _ => .ok (x.tracked + 1)).map .version))) ∧
    ∃ j, st.answer ⟨.put, Client.transactionPath ticket.id, none⟩ =
      (⟨st.version + 1, objects, st.transactions.erase ticket.id, st.opened⟩, .ok j) := by
  constructor
  · rw [Session.ask, hticket, Option.map_some, Client.commit, if_neg (not_not.2 hversion)]
    rfl
  · have hperform : ∃ j, st.perform (.commit ticket.id) =
        (⟨st.version + 1, objects, st.transactions.erase ticket.id, st.opened⟩, .ok j) := by
      rw [Store.perform, Store.commit, hholds.staged]
      dsimp only
      rw [if_neg (not_not.2 hcurrent), happly]
      exact ⟨_, rfl⟩
    obtain ⟨j, hj⟩ := hperform
    exact ⟨j, answer_eq (ofRequest_commit hholds.plain) hj⟩

/-- A commit that is carried out without its client being told. -/
theorem Run.loses {es : List (Happening ι)} (h : Run first es s) {n : Nat} {ticket : Ticket}
    {changes : List Change} {objects : Objects} (hp : s.parties i = some ⟨x, none⟩)
    (hticket : x.ticket? n = some ticket) (hversion : x.tracked = ticket.version)
    (hholds : s.store.Holds ticket changes) (hcurrent : ticket.version = s.store.version)
    (happly : s.store.objects.applyAll changes = .ok objects) (error : Error) :
    ∃ es' s', Run first es' s' ∧ s.Went s' i ⟨x.without n, none⟩ (s.store.version + 1) objects := by
  obtain ⟨hask, j, hanswer⟩ := commit_of_holds hticket hversion hholds hcurrent happly
  have hrun := h.calls (a := .error error) hp hask (.muted error) rfl
  rw [Delivery.outcome, hanswer] at hrun
  exact ⟨_, _, hrun, s.went _ i _⟩

/-- A commit that is carried out and answered; its client is about to be done
    with it. -/
theorem Run.commits {es : List (Happening ι)} (h : Run first es s) {n : Nat} {ticket : Ticket}
    {changes : List Change} {objects : Objects} (hp : s.parties i = some ⟨x, none⟩)
    (hticket : x.ticket? n = some ticket) (hversion : x.tracked = ticket.version)
    (hholds : s.store.Holds ticket changes) (hcurrent : ticket.version = s.store.version)
    (happly : s.store.objects.applyAll changes = .ok objects) :
    ∃ es' s', Run first es' s' ∧ s.Went s' i
      ⟨x, some (.commit n, .done (.ok (.version (x.tracked + 1))))⟩ (s.store.version + 1) objects := by
  obtain ⟨hask, j, hanswer⟩ := commit_of_holds hticket hversion hholds hcurrent happly
  have hrun := h.exchanges (a := .ok (.version (x.tracked + 1))) hp hask .served (by
    rw [Delivery.outcome, hanswer]
    rfl)
  rw [Delivery.outcome, hanswer] at hrun
  exact ⟨_, _, hrun, s.went _ i _⟩

end MeshSync.Dataplane
