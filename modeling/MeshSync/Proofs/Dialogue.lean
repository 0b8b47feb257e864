import MeshSync.Dialogue

/-! # Dialogues in a world that may answer differently

    `Dialogue.run` asks a world that answers in one way.  Where requests get
    lost and others change the world in between, a question has several
    answers: an `Environment` says which of them are possible, and
    `Dialogue.Runs` which results a dialogue can come to.  `Runs.bind_iff`
    cuts such a run where two dialogues were put together, and `Runs.of_run`
    finds the one run of a world that answers in one way among those of an
    environment that leaves it open. -/

namespace MeshSync

/-- Those who answer, as relations between the world before and after, the
    question, and the answer. -/
structure Environment (σ : Type) where
  send : σ → Dataplane.Request → σ → Except Dataplane.Error Json → Prop
  certs : σ → TlsMaterial → σ → Except Certificates.Error Certificates.Paths → Prop
  retain : σ → List TlsMaterial → σ → Prop

/-- Whether an environment can answer whatever a world answers. -/
structure Environment.Allows {σ : Type} (env : Environment σ) (world : Surroundings σ) : Prop where
  send : ∀ s r, env.send s r (world.send s r).1 (world.send s r).2
  certs : ∀ s m, env.certs s m (world.certs s m).1 (world.certs s m).2
  retain : ∀ s ms, env.retain s ms (world.retain s ms)

/-- Those who answer in one way, as an environment. -/
def Surroundings.environment {σ : Type} (world : Surroundings σ) : Environment σ where
  send s r s' answer := world.send s r = (s', answer)
  certs s m s' answer := world.certs s m = (s', answer)
  retain s ms s' := world.retain s ms = s'

theorem Surroundings.allows {σ : Type} (world : Surroundings σ) :
    world.environment.Allows world := ⟨fun _ _ => rfl, fun _ _ => rfl, fun _ _ => rfl⟩

namespace Dialogue

variable {α β σ : Type} {env : Environment σ}

/-- The worlds before and after a dialogue, and its result. -/
inductive Runs (env : Environment σ) : Dialogue α → σ → σ → α → Prop
  | done (a : α) (s : σ) : Runs env (.done a) s s a
  | send {r : Dataplane.Request} {next : Except Dataplane.Error Json → Dialogue α}
      {s s' s'' : σ} {answer : Except Dataplane.Error Json} {a : α}
      (asked : env.send s r s' answer) (rest : Runs env (next answer) s' s'' a) :
      Runs env (.send r next) s s'' a
  | certs {m : TlsMaterial} {next : Except Certificates.Error Certificates.Paths → Dialogue α}
      {s s' s'' : σ} {answer : Except Certificates.Error Certificates.Paths} {a : α}
      (asked : env.certs s m s' answer) (rest : Runs env (next answer) s' s'' a) :
      Runs env (.certs m next) s s'' a
  | retain {ms : List TlsMaterial} {next : Dialogue α} {s s' s'' : σ} {a : α}
      (told : env.retain s ms s') (rest : Runs env next s' s'' a) :
      Runs env (.retain ms next) s s'' a

namespace Runs

theorem done_iff {a b : α} {s s' : σ} :
    Runs env (.done a) s s' b ↔ s' = s ∧ b = a := by
  constructor
  · intro h
    cases h
    exact ⟨rfl, rfl⟩
  · rintro ⟨rfl, rfl⟩
    exact .done b s'

theorem send_iff {r : Dataplane.Request} {next : Except Dataplane.Error Json → Dialogue α}
    {s s'' : σ} {a : α} :
    Runs env (.send r next) s s'' a ↔
      ∃ s' answer, env.send s r s' answer ∧ Runs env (next answer) s' s'' a := by
  constructor
  · intro h
    cases h with
    | send asked rest => exact ⟨_, _, asked, rest⟩
  · rintro ⟨s', answer, asked, rest⟩
    exact .send asked rest

theorem certs_iff {m : TlsMaterial}
    {next : Except Certificates.Error Certificates.Paths → Dialogue α} {s s'' : σ} {a : α} :
    Runs env (.certs m next) s s'' a ↔
      ∃ s' answer, env.certs s m s' answer ∧ Runs env (next answer) s' s'' a := by
  constructor
  · intro h
    cases h with
    | certs asked rest => exact ⟨_, _, asked, rest⟩
  · rintro ⟨s', answer, asked, rest⟩
    exact .certs asked rest

theorem retain_iff {ms : List TlsMaterial} {next : Dialogue α} {s s'' : σ} {a : α} :
    Runs env (.retain ms next) s s'' a ↔
      ∃ s', env.retain s ms s' ∧ Runs env next s' s'' a := by
  constructor
  · intro h
    cases h with
    | retain told rest => exact ⟨_, told, rest⟩
  · rintro ⟨s', told, rest⟩
    exact .retain told rest

/-- **A run of two dialogues falls into a run of each.** -/
theorem bind_iff {d : Dialogue α} {f : α → Dialogue β} {s s'' : σ} {b : β} :
    Runs env (d.bind f) s s'' b ↔ ∃ s' a, Runs env d s s' a ∧ Runs env (f a) s' s'' b := by
  constructor
  · intro h
    induction d generalizing s with
    | done a => exact ⟨s, a, .done a s, h⟩
    | send r next ih =>
        obtain ⟨s₁, answer, asked, rest⟩ := send_iff.1 h
        obtain ⟨s', a, hd, hf⟩ := ih answer rest
        exact ⟨s', a, .send asked hd, hf⟩
    | certs m next ih =>
        obtain ⟨s₁, answer, asked, rest⟩ := certs_iff.1 h
        obtain ⟨s', a, hd, hf⟩ := ih answer rest
        exact ⟨s', a, .certs asked hd, hf⟩
    | retain ms next ih =>
        obtain ⟨s₁, told, rest⟩ := retain_iff.1 h
        obtain ⟨s', a, hd, hf⟩ := ih rest
        exact ⟨s', a, .retain told hd, hf⟩
  · rintro ⟨s', a, hd, hf⟩
    induction hd with
    | done a s => exact hf
    | send asked rest ih => exact .send asked (ih hf)
    | certs asked rest ih => exact .certs asked (ih hf)
    | retain told rest ih => exact .retain told (ih hf)

/-- What a world does is one of the things that an environment allows. -/
theorem of_run {world : Surroundings σ} (h : env.Allows world) (d : Dialogue α) (s : σ) :
    Runs env d s (d.run world s).1 (d.run world s).2 := by
  induction d generalizing s with
  | done a => exact .done a s
  | send r next ih => exact .send (h.send s r) (ih _ _)
  | certs m next ih => exact .certs (h.certs s m) (ih _ _)
  | retain ms next ih => exact .retain (h.retain s ms) (ih _)

end Runs

end Dialogue

end MeshSync
