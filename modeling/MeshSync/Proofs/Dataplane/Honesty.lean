import MeshSync.Proofs.Dataplane.Calling

/-! # What clients track is honest

    Clients that share a store cannot see what the others do to its version.
    What each of them tracks is still honest: it is a version that the store has
    had, it never goes back, and it moves only when a commit or a refresh was
    successful, after a commit to the very version that this gave the store.

    The step lemma is `Scene.Sound.step`, the run lemma `Run.sound`.  That the
    answer to a commit is remembered until its client is done with it is a
    matter of the run as well (`Run.landed`). -/

namespace MeshSync.Dataplane

variable {ι : Type} {first : UInt64} {s s' : Scene ι} {e : Happening ι} {i j : ι} {p : Party}
  {x : Session}

/-! ## What holds of a scene -/

/-- What holds of a scene at all times. -/
structure Scene.Sound (first : UInt64) (s : Scene ι) : Prop where
  version : s.store.version.toNat = first.toNat + s.raised
  parties : ∀ i p, s.parties i = some p → p.Fits s.store

theorem Scene.sound_new (first : UInt64) : (Scene.new first : Scene ι).Sound first :=
  ⟨rfl, fun _ _ h => nomatch h⟩

/-- Where the version is raised, there is a next one. -/
theorem Scene.Sound.room {st : Store} (h : s.Sound first)
    (hroom : first.toNat + (s.turn st).raised < UInt64.size) :
    st.version = s.store.version ∨ s.store.version.toNat + 1 < UInt64.size := by
  by_cases hst : st.version = s.store.version
  · exact .inl hst
  · rw [Scene.turn, if_neg hst] at hroom
    rw [h.version]
    exact .inr hroom

/-- The store goes on, and the clients stay. -/
theorem Scene.Sound.turn {st : Store} (h : s.Sound first)
    (hst : st.version = s.store.version ∨ st.version = s.store.version + 1)
    (hroom : first.toNat + (s.turn st).raised < UInt64.size) (hlater : s.store.Later st) :
    (s.turn st).Sound first := by
  refine ⟨?_, fun i p hp => (h.parties i p hp).later hlater⟩
  show st.version.toNat = first.toNat + (s.turn st).raised
  by_cases hsame : st.version = s.store.version
  · rw [Scene.turn, if_pos hsame, hsame, h.version]
    rfl
  · rw [Scene.turn, if_neg hsame, hst.resolve_left hsame,
      toNat_next ((h.room hroom).resolve_left hsame), h.version]
    rfl

variable [DecidableEq ι]

/-- One client goes on, and the others and the store stay. -/
theorem Scene.Sound.put (h : s.Sound first) (hp : p.Fits s.store) : (s.put i p).Sound first := by
  refine ⟨h.version, fun j p' hj => ?_⟩
  by_cases hji : j = i
  · subst hji
    rw [Scene.put_self] at hj
    rw [← Option.some.inj hj]
    exact hp
  · rw [Scene.put_of_ne s p hji] at hj
    exact h.parties j p' hj

/-! ## Steps -/

/-- A client whose call is over fits with what it will keep. -/
theorem Party.Fits.pending {st : Store} {c : Call} {a : Except Error Reply}
    (h : Party.Fits st ⟨x, some (c, .done a)⟩) : Pending st x c a := by
  rcases h.task c _ rfl with hask | ⟨a', ha, hpending⟩
  · exact pending_of_done h.session hask
  · cases ha
    exact hpending

/-- The request of a client is that of its call. -/
theorem Party.Fits.asks {st : Store} {c : Call} {q : Request}
    {next : Except Error Json → Dialogue (Except Error Reply)}
    (h : Party.Fits st ⟨x, some (c, .send q next)⟩) : x.ask c = some (.send q next) := by
  rcases h.task c _ rfl with hask | ⟨a, ha, -⟩
  · exact hask
  · cases ha

theorem Delivery.version_cases (d : Delivery) (st : Store) (q : Request) :
    (d.outcome st q).1.version = st.version ∨ (d.outcome st q).1.version = st.version + 1 := by
  rcases d.store_cases st q with hd | hd
  · exact .inl (congrArg Store.version hd)
  · rw [hd]
    exact version_handle st q

/-- **What holds of a scene holds after every step**, while there are versions. -/
theorem Scene.Sound.step (h : s.Sound first) (hstep : Step s e s')
    (hroom : first.toNat + s'.raised < UInt64.size) : s'.Sound first := by
  cases hstep with
  | create absent known =>
      exact h.put ⟨⟨known, fun ticket ht => nomatch ht⟩, fun c d hd => nomatch hd⟩
  | call idle asks =>
      refine h.put ⟨(h.parties _ _ idle).session, fun c d hd => ?_⟩
      cases hd
      exact .inl asks
  | exchange d waits =>
      rename_i i session c q next
      have hfits := h.parties _ _ waits
      have hlater := later_outcome d (h.room hroom)
      refine (h.turn (d.version_cases _ q) hroom hlater).put
        ⟨hfits.session.later hlater, fun c' d' hd => ?_⟩
      obtain ⟨a, ha, hpending⟩ := pending_of_send hfits.session hfits.asks (h.room hroom)
      cases hd
      exact .inr ⟨a, ha, hpending⟩
  | finish told =>
      exact h.put ⟨(h.parties _ _ told).pending.fits, fun c d hd => nomatch hd⟩
  | stranger q => exact h.turn (version_handle _ q) hroom (later_handle (h.room hroom))
  | bump =>
      have hnext := (h.room hroom).resolve_left (ne_add_one _)
      exact h.turn (.inr rfl) hroom (later_bump hnext)

/-- A step raises the version once, or not at all. -/
theorem Step.raised_cases (h : Step s e s') : s'.raised = s.raised ∨ s'.raised = s.raised + 1 := by
  have turned : ∀ st : Store,
      (s.turn st).raised = s.raised ∨ (s.turn st).raised = s.raised + 1 := by
    intro st
    rw [Scene.turn]
    dsimp only
    split
    · exact .inl rfl
    · exact .inr rfl
  cases h with
  | exchange d waits => exact turned _
  | stranger q => exact turned _
  | bump => exact turned _
  | create | call | finish => exact .inl rfl

/-- What happens to one client happens to no other. -/
theorem Step.others (h : Step s e s') (hi : e.party? ≠ some i) : s'.parties i = s.parties i := by
  have hne : ∀ {j}, e.party? = some j → i ≠ j := fun hj hij => hi (hij ▸ hj)
  cases h with
  | create absent known => exact Scene.put_of_ne _ _ (hne rfl)
  | call idle asks => exact Scene.put_of_ne _ _ (hne rfl)
  | exchange d waits => exact Scene.put_of_ne _ _ (hne rfl)
  | finish told => exact Scene.put_of_ne _ _ (hne rfl)
  | stranger q => rfl
  | bump => rfl

/-! ## Runs -/

/-- **What holds of a scene at all times**, while there are versions: by
    induction on the run. -/
theorem Run.sound {es : List (Happening ι)} (h : Run first es s)
    (hroom : first.toNat + s.raised < UInt64.size) : s.Sound first := by
  induction h with
  | nil => exact Scene.sound_new first
  | snoc before last ih =>
      have hle := last.raised_cases
      exact (ih (by omega)).step last hroom

/-- Whether the store carried out a client's commit with success and told the
    client so, and nothing has happened to the client since; with the store
    right after the commit. -/
inductive Landed (first : UInt64) (i : ι) (n : Nat) : List (Happening ι) → Store → Prop
  | now {es : List (Happening ι)} {s : Scene ι} {x : Session} {ticket : Ticket} {st : Store}
      {next : Except Error Json → Dialogue (Except Error Reply)} {j : Json}
      (before : Run first es s) (held : x.ticket? n = some ticket)
      (waits : s.parties i = some
        ⟨x, some (.commit n, .send ⟨.put, Client.transactionPath ticket.id, none⟩ next)⟩)
      (done : s.store.Does (.commit ticket.id) st (.ok j)) :
      Landed first i n (es ++ [.exchange i .served]) st
  | since {es : List (Happening ι)} {st : Store} {e : Happening ι} (h : Landed first i n es st)
      (other : e.party? ≠ some i) : Landed first i n (es ++ [e]) st

/-- The answer to a commit is that of the store, and then gives its version. -/
theorem landed_of_exchange {es : List (Happening ι)} {n : Nat} {q : Request} {d : Delivery}
    {next : Except Error Json → Dialogue (Except Error Reply)} {reply : Reply}
    (hrun : Run first es s) (h : s.Sound first)
    (waits : s.parties i = some ⟨x, some (.commit n, .send q next)⟩)
    (hreply : next (d.outcome s.store q).2 = .done (.ok reply)) :
    d = .served ∧ Landed first i n (es ++ [.exchange i .served]) (d.outcome s.store q).1 ∧
      reply = .version (d.outcome s.store q).1.version := by
  have hfits := h.parties _ _ waits
  obtain ⟨ticket, hticket, hask⟩ := Option.map_eq_some_iff.1 hfits.asks
  rw [Client.commit] at hask
  split at hask
  · cases hask
  · rename_i hversion
    obtain ⟨rfl, hnext⟩ := bind_ask_eq_send hask
    rw [hnext] at hreply
    cases d with
    | lost error => cases hreply
    | muted error => cases hreply
    | served =>
        rw [Delivery.outcome] at hreply ⊢
        cases hanswer : (s.store.answer ⟨.put, Client.transactionPath ticket.id, none⟩).2 with
        | error error =>
            rw [hanswer] at hreply
            cases hreply
        | ok j =>
            obtain ⟨hcurrent, hdoes⟩ := answer_of_commit
              (hfits.session.tickets ticket (Session.mem_of_ticket? hticket)) hanswer
            rw [hanswer] at hreply
            refine ⟨rfl, .now hrun hticket waits hdoes, ?_⟩
            rw [hdoes.raises, hcurrent, ← not_not.1 hversion]
            cases hreply
            rfl

/-- **A commit that was answered with success has landed**, and its client is
    about to track the version that this gave the store. -/
theorem Run.landed {es : List (Happening ι)} (h : Run first es s)
    (hroom : first.toNat + s.raised < UInt64.size) {n : Nat} {reply : Reply}
    (hp : s.parties i = some ⟨x, some (.commit n, .done (.ok reply))⟩) :
    ∃ st, Landed first i n es st ∧ reply = .version st.version := by
  induction h with
  | nil => cases hp
  | snoc before last ih =>
      rename_i es s₀ s' e
      have hle := last.raised_cases
      by_cases hi : e.party? = some i
      · have hsound := before.sound (by omega)
        cases last with
        | create absent known =>
            cases hi
            rw [Scene.put_self] at hp
            cases hp
        -- a commit asks before it is done, so that the call just taken up was not it
        | call idle asks =>
            cases hi
            rw [Scene.put_self] at hp
            cases hp
            obtain ⟨ticket, -, hask⟩ := Option.map_eq_some_iff.1 asks
            rw [Client.commit] at hask
            split at hask <;> cases hask
        | exchange d waits =>
            cases hi
            rw [Scene.put_self] at hp
            obtain ⟨hsession, htask⟩ := Party.mk.inj (Option.some.inj hp)
            obtain ⟨rfl, hreply⟩ := Prod.mk.inj (Option.some.inj htask)
            subst hsession
            obtain ⟨rfl, hlanded, heq⟩ := landed_of_exchange before hsound waits hreply
            exact ⟨_, hlanded, heq⟩
        | finish told =>
            cases hi
            rw [Scene.put_self] at hp
            cases hp
        | stranger q => cases hi
        | bump => cases hi
      · rw [last.others hi] at hp
        obtain ⟨st, hlanded, heq⟩ := ih (by omega) hp
        exact ⟨st, hlanded.since hi, heq⟩

/-! ## Honesty -/

/-- Nothing but a version that was given changes what is tracked, and that is
    given by commits and refreshes alone. -/
theorem Session.tracked_finish (x : Session) (c : Call) (a : Except Error Reply) :
    (x.finish c a).tracked = x.tracked ∨
      ∃ v, a = .ok (.version v) ∧ (c = .refreshVersion ∨ ∃ n, c = .commit n) ∧
        (x.finish c a).tracked = v := by
  cases a with
  | error error =>
      rcases finish_error x c error with h | ⟨n, h⟩
      · exact .inl (congrArg tracked h)
      · rw [h]
        exact .inl rfl
  | ok reply =>
      cases c with
      | refreshVersion =>
          cases reply with
          | version v => exact .inr ⟨v, rfl, .inl rfl, rfl⟩
          | _ => exact .inl rfl
      | commit n =>
          cases reply with
          | version v => exact .inr ⟨v, rfl, .inr ⟨n, rfl⟩, rfl⟩
          | _ => exact .inl rfl
      | begin => cases reply <;> exact .inl rfl
      | _ => exact .inl rfl

/-- What a client keeps changes when it is done with a call, and at no other
    time. -/
theorem Step.session_cases (h : Step s e s') (hp : s.parties i = some p) :
    (∃ p', s'.parties i = some p' ∧ p'.session = p.session) ∨
      ∃ c a, e = .finish i ∧ p.task = some (c, .done a) ∧
        s'.parties i = some ⟨p.session.finish c a, none⟩ := by
  by_cases hi : e.party? = some i
  · cases h with
    | create absent known =>
        cases hi
        rw [absent] at hp
        cases hp
    | call idle asks =>
        cases hi
        cases idle.symm.trans hp
        exact .inl ⟨_, Scene.put_self _ _ _, rfl⟩
    | exchange d waits =>
        cases hi
        cases waits.symm.trans hp
        exact .inl ⟨_, Scene.put_self _ _ _, rfl⟩
    | finish told =>
        cases hi
        cases told.symm.trans hp
        exact .inr ⟨_, _, rfl, rfl, Scene.put_self _ _ _⟩
    | stranger q => cases hi
    | bump => cases hi
  · exact .inl ⟨p, (h.others hi).trans hp, rfl⟩

/-- A commit of a transaction that was opened at a version that is tracked no
    more asks for nothing and fails. -/
theorem Step.stale_commit {n : Nat} {ticket : Ticket} (h : Step s (.call i (.commit n)) s')
    (hp : s.parties i = some p) (hticket : p.session.ticket? n = some ticket)
    (hversion : ticket.version ≠ p.session.tracked) :
    s' = s.put i ⟨p.session,
      some (.commit n, .done (.error (.versionConflict ticket.version p.session.tracked)))⟩ := by
  cases h with
  | call idle asks =>
      cases idle.symm.trans hp
      rw [Session.ask, hticket, Option.map_some, Client.commit, if_pos hversion.symm,
        Dialogue.bind] at asks
      rw [← Option.some.inj asks]
      rfl

/-- What an onlooker sees of the tracked versions when a run takes one more
    step. -/
structure Honest (first : UInt64) (es : List (Happening ι)) (s : Scene ι) (e : Happening ι)
    (s' : Scene ι) : Prop where
  /-- Nobody tracks a version that the store has not had. -/
  within : ∀ i p, s'.parties i = some p → p.session.tracked ≤ s'.store.version
  /-- Clients stay, and what they track never goes back. -/
  grows : ∀ i p, s.parties i = some p →
    ∃ p', s'.parties i = some p' ∧ p.session.tracked ≤ p'.session.tracked
  /-- It changes only when a commit or a refresh was successful. -/
  earned : ∀ i p p', s.parties i = some p → s'.parties i = some p' →
    p'.session.tracked ≠ p.session.tracked →
    e = .finish i ∧ ∃ c v, (c = .refreshVersion ∨ ∃ n, c = .commit n) ∧
      p.task = some (c, .done (.ok (.version v))) ∧ p'.session.tracked = v
  /-- A commit that was successful was carried out by the store, and leaves its
      client with the very version that it gave the store. -/
  landed : ∀ i p n reply, e = .finish i → s.parties i = some p →
    p.task = some (.commit n, .done (.ok reply)) →
    ∃ st, Landed first i n es st ∧
      ∃ p', s'.parties i = some p' ∧ p'.session.tracked = st.version
  /-- A ticket bears the version that its transaction was opened at. -/
  tickets : ∀ i p n ticket, s'.parties i = some p → p.session.ticket? n = some ticket →
    ∀ t, s'.store.transactions.get? ticket.id = some t → t.version = ticket.version
  /-- A commit of a transaction that was opened at a version that is tracked no
      more fails with a conflict and sends nothing. -/
  stale : ∀ i p n ticket, e = .call i (.commit n) → s.parties i = some p →
    p.session.ticket? n = some ticket → ticket.version ≠ p.session.tracked →
    s' = s.put i ⟨p.session,
      some (.commit n, .done (.error (.versionConflict ticket.version p.session.tracked)))⟩

/-- **Tracked versions are honest**, however many clients share a store and
    whatever happens between their requests, while there are versions. -/
theorem tracked_versions_honest {es : List (Happening ι)} (hrun : Run first es s)
    (hstep : Step s e s') (hroom : first.toNat + s'.raised < UInt64.size) :
    Honest first es s e s' := by
  -- versions last until the step ends, so that they did before it
  have hle := hstep.raised_cases
  have hbefore := hrun.sound (by omega)
  have hafter := hbefore.step hstep hroom
  refine ⟨fun i p hp => ?_, fun i p hp => ?_, fun i p p' hp hp' hne => ?_,
    fun i p n reply he hp htask => ?_, fun i p n ticket hp hticket => ?_,
    fun i p n ticket he hp hticket hversion => ?_⟩
  · exact UInt64.le_iff_toNat_le.2 (hafter.parties i p hp).session.tracked
  · rcases hstep.session_cases hp with ⟨p', hp', hsession⟩ | ⟨c, a, -, htask, hp'⟩
    · exact ⟨p', hp', UInt64.le_of_eq (congrArg Session.tracked hsession).symm⟩
    · obtain ⟨x, task⟩ := p
      cases htask
      exact ⟨_, hp', UInt64.le_iff_toNat_le.2 (hbefore.parties i _ hp).pending.grows⟩
  · rcases hstep.session_cases hp with ⟨p₁, hp₁, hsession⟩ | ⟨c, a, he, htask, hp₁⟩
    · cases hp₁.symm.trans hp'
      exact absurd (congrArg Session.tracked hsession) hne
    · cases hp₁.symm.trans hp'
      obtain ⟨v, rfl, hc, hv⟩ := (p.session.tracked_finish c a).resolve_left hne
      exact ⟨he, c, v, hc, htask, hv⟩
  · obtain ⟨x, task⟩ := p
    cases htask
    obtain ⟨st, hlanded, rfl⟩ := hrun.landed (by omega) hp
    subst he
    cases hstep with
    | finish told =>
        cases told.symm.trans hp
        exact ⟨st, hlanded, _, Scene.put_self _ _ _, rfl⟩
  · exact ((hafter.parties i p hp).session.tickets ticket (Session.mem_of_ticket? hticket)).version
  · subst he
    exact hstep.stale_commit hp hticket hversion

/-- A frontend with a name and nothing else. -/
def plainFrontend (name : String) : Frontend := { (default : Frontend) with name }

/-- A backend with a name and nothing else. -/
def plainBackend (name : String) : Backend := { (default : Backend) with name }

/-- Of two clients that track version 1 the first creates a frontend and is not
    told that this was committed. -/
theorem exists_run_with_loss : ∃ (es : List (Happening Bool)) (s : Scene Bool), Run 1 es s ∧
    s.store.version = 2 ∧
    s.store.objects = (∅ : Objects).insert (.frontend "web") (plainFrontend "web").json ∧
    s.parties false = some ⟨⟨1, [none]⟩, none⟩ ∧ s.parties true = some ⟨.new 1, none⟩ ∧
    s.raised ≤ 3 := by
  have hcreated : Run 1 [.create false 1, .create true 1]
      (((Scene.new 1).put false ⟨.new 1, none⟩).put true ⟨.new 1, none⟩) :=
    .snoc (.snoc .nil (.create rfl (UInt64.le_refl 1))) (.create rfl (UInt64.le_refl 1))
  obtain ⟨es₁, s₁, ticket, h₁, hticket, hopen, went₁⟩ := hcreated.begins (i := false) rfl rfl
  obtain ⟨es₂, s₂, h₂, hholds, went₂⟩ := h₁.stages (n := 0) went₁.party rfl hopen
    (.createFrontend (plainFrontend "web")) trivial
  have hversion : s₂.store.version = 1 := went₂.version.trans went₁.version
  have hobjects : s₂.store.objects = ∅ := went₂.objects.trans went₁.objects
  obtain ⟨es₃, s₃, h₃, went₃⟩ := h₂.loses (n := 0) went₂.party rfl hticket.symm hholds
    (hticket.trans hversion.symm) (by rw [hobjects]; rfl) .http
  refine ⟨es₃, s₃, h₃, ?version, went₃.objects, went₃.party, ?other, ?raised⟩
  case version =>
      rw [went₃.version, hversion]
      rfl
  case other =>
      rw [went₃.others _ (by decide), went₂.others _ (by decide), went₁.others _ (by decide)]
      rfl
  case raised =>
      exact went₃.raised.trans (Nat.succ_le_succ (went₂.raised.trans (Nat.succ_le_succ went₁.raised)))

/-- The second client finds version 2 and creates a backend.  Done with that it
    tracks version 3, which its commit gave the store; the first, whose answer
    got lost, still tracks version 1. -/
theorem two_clients_honest : ∃ (es : List (Happening Bool)) (s s' : Scene Bool),
    Run 1 es s ∧ Step s (.finish true) s' ∧ (1 : UInt64).toNat + s'.raised < UInt64.size ∧
      Honest 1 es s (.finish true) s' ∧
      s'.store.objects.keys = [.backend "db", .frontend "web"] ∧ s'.store.version = 3 ∧
      (∃ p, s.parties true = some p ∧ p.session.tracked = 2) ∧
      (∃ p, s'.parties true = some p ∧ p.session.tracked = 3) ∧
      ∃ p, s'.parties false = some p ∧ p.session.tracked = 1 := by
  obtain ⟨es, s, h, hversion, hobjects, hfirst, hsecond, hraised⟩ := exists_run_with_loss
  -- the second client refreshes, opens, stages and commits
  obtain ⟨es₁, s₁, h₁, went₁⟩ := h.refreshes hsecond
  rw [hversion, hobjects] at went₁
  obtain ⟨es₂, s₂, ticket, h₂, hticket, hopen, went₂⟩ := h₁.begins went₁.party went₁.version.symm
  rw [went₁.version, went₁.objects] at went₂
  obtain ⟨es₃, s₃, h₃, hholds, went₃⟩ := h₂.stages (n := 0) went₂.party rfl hopen
    (.createBackend (plainBackend "db")) trivial
  rw [went₂.version, went₂.objects] at went₃
  obtain ⟨es₄, s₄, h₄, went₄⟩ := h₃.commits (n := 0) went₃.party rfl hticket.symm hholds
    (hticket.trans went₃.version.symm) (by rw [went₃.objects]; rfl)
  rw [went₃.version] at went₄
  have hstep := Step.finish went₄.party
  have hlow : s₄.raised ≤ 7 := by
    have hle₁ := went₁.raised
    have hle₂ := went₂.raised
    have hle₃ := went₃.raised
    have hle₄ := went₄.raised
    omega
  have hroom : (1 : UInt64).toNat + s₄.raised < UInt64.size :=
    Nat.lt_of_le_of_lt (Nat.add_le_add_left hlow _) (by decide)
  refine ⟨es₄, s₄, _, h₄, hstep, hroom, tracked_versions_honest h₄ hstep hroom, ?keys,
    went₄.version, ⟨_, went₄.party, rfl⟩, ⟨_, Scene.put_self _ _ _, rfl⟩,
    ⟨⟨1, [none]⟩, none⟩, ?first, rfl⟩
  case keys =>
      show s₄.store.objects.keys = _
      rw [went₄.objects]
      decide +kernel
  case first =>
      rw [Scene.put_of_ne _ _ (by decide), went₄.others _ (by decide), went₃.others _ (by decide),
        went₂.others _ (by decide), went₁.others _ (by decide), hfirst]

end MeshSync.Dataplane
