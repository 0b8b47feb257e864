import MeshSync.Proofs.Dialogue

/-! # What a dialogue asks

    A dialogue keeps `Within` a footprint if all its questions lie in it,
    however they are answered.  Two things follow.  What no exchange of the
    footprint changes, the whole dialogue does not change (`Runs.keeps`); and a
    dialogue cannot tell two environments apart that answer the questions of its
    footprint alike (`Runs.transfer`).

    A world mirrors an environment if it gives every answer of it that is no
    error.  A dialogue that cannot come to a good end once it was answered by an
    error is `Honest`: where it did come to a good end, a mirroring world brings
    it there too. -/

namespace MeshSync

/-- The questions that a dialogue may ask. -/
structure Footprint where
  sends : Dataplane.Request → Prop
  asks : TlsMaterial → Prop
  tells : List TlsMaterial → Prop

/-- Whether a relation of worlds is kept by every exchange of a footprint. -/
structure Environment.Keeps {σ : Type} (env : Environment σ) (f : Footprint)
    (R : σ → σ → Prop) : Prop where
  refl : ∀ s, R s s
  trans : ∀ {s s' s''}, R s s' → R s' s'' → R s s''
  send : ∀ {s r s' a}, f.sends r → env.send s r s' a → R s s'
  certs : ∀ {s m s' a}, f.asks m → env.certs s m s' a → R s s'
  retain : ∀ {s ms s'}, f.tells ms → env.retain s ms s' → R s s'

/-- Whether the answers of one environment to the questions of a footprint are
    answers of another one, in the worlds of a set that is not left. -/
structure Environment.Refines {σ : Type} (env env' : Environment σ) (f : Footprint)
    (J : σ → Prop) : Prop where
  send : ∀ {s r s' a}, J s → f.sends r → env.send s r s' a → env'.send s r s' a ∧ J s'
  certs : ∀ {s m s' a}, J s → f.asks m → env.certs s m s' a → env'.certs s m s' a ∧ J s'
  retain : ∀ {s ms s'}, J s → f.tells ms → env.retain s ms s' → env'.retain s ms s' ∧ J s'

/-- Whether a world gives every answer of an environment that is no error, as
    seen from one side of the environment's world. -/
structure Environment.Mirrors {σ τ : Type} (env : Environment σ) (world : Surroundings τ)
    (side : σ → τ) : Prop where
  send : ∀ {s r s' j}, env.send s r s' (.ok j) → world.send (side s) r = (side s', .ok j)
  certs : ∀ {s m s' p}, env.certs s m s' (.ok p) → world.certs (side s) m = (side s', .ok p)
  retain : ∀ {s ms s'}, env.retain s ms s' → world.retain (side s) ms = side s'

namespace Dialogue

variable {α β σ τ : Type} {env env' : Environment σ} {f : Footprint}

/-- Whether all questions of a dialogue lie in a footprint, however they are
    answered. -/
def Within (f : Footprint) : Dialogue α → Prop
  | done _ => True
  | send r next => f.sends r ∧ ∀ answer, (next answer).Within f
  | certs m next => f.asks m ∧ ∀ answer, (next answer).Within f
  | retain ms next => f.tells ms ∧ next.Within f

theorem Within.bind {d : Dialogue α} {g : α → Dialogue β} (h : d.Within f)
    (hg : ∀ a, (g a).Within f) : (d.bind g).Within f := by
  induction d with
  | done a => exact hg a
  | send r next ih => exact ⟨h.1, fun answer => ih answer (h.2 answer)⟩
  | certs m next ih => exact ⟨h.1, fun answer => ih answer (h.2 answer)⟩
  | retain ms next ih => exact ⟨h.1, ih h.2⟩

/-- A dialogue that breaks off after an error asks no more by it. -/
theorem Within.andThen {ε : Type} {d : Dialogue (Except ε α)} {g : α → Dialogue (Except ε β)}
    (h : d.Within f) (hg : ∀ a, (g a).Within f) : (d.andThen g).Within f := by
  refine h.bind fun res => ?_
  cases res with
  | error e => trivial
  | ok a => exact hg a

theorem Within.mono {f' : Footprint} {d : Dialogue α} (h : d.Within f)
    (hsends : ∀ r, f.sends r → f'.sends r) (hasks : ∀ m, f.asks m → f'.asks m)
    (htells : ∀ ms, f.tells ms → f'.tells ms) : d.Within f' := by
  induction d with
  | done a => trivial
  | send r next ih => exact ⟨hsends r h.1, fun answer => ih answer (h.2 answer)⟩
  | certs m next ih => exact ⟨hasks m h.1, fun answer => ih answer (h.2 answer)⟩
  | retain ms next ih => exact ⟨htells ms h.1, ih h.2⟩

/-- **What no exchange changes, a dialogue does not change.** -/
theorem Runs.keeps {R : σ → σ → Prop} (hR : env.Keeps f R) {d : Dialogue α} (hd : d.Within f)
    {s s' : σ} {a : α} (h : Runs env d s s' a) : R s s' := by
  induction h with
  | done a s => exact hR.refl s
  | send asked rest ih => exact hR.trans (hR.send hd.1 asked) (ih (hd.2 _))
  | certs asked rest ih => exact hR.trans (hR.certs hd.1 asked) (ih (hd.2 _))
  | retain told rest ih => exact hR.trans (hR.retain hd.1 told) (ih hd.2)

/-- **A dialogue cannot tell environments apart that answer its questions
    alike.** -/
theorem Runs.transfer {J : σ → Prop} (hJ : env.Refines env' f J) {d : Dialogue α}
    (hd : d.Within f) {s s' : σ} {a : α} (hs : J s) (h : Runs env d s s' a) :
    Runs env' d s s' a ∧ J s' := by
  induction h with
  | done a s => exact ⟨.done a s, hs⟩
  | send asked rest ih =>
      obtain ⟨hasked, hs'⟩ := hJ.send hs hd.1 asked
      obtain ⟨hrest, hlast⟩ := ih (hd.2 _) hs'
      exact ⟨.send hasked hrest, hlast⟩
  | certs asked rest ih =>
      obtain ⟨hasked, hs'⟩ := hJ.certs hs hd.1 asked
      obtain ⟨hrest, hlast⟩ := ih (hd.2 _) hs'
      exact ⟨.certs hasked hrest, hlast⟩
  | retain told rest ih =>
      obtain ⟨htold, hs'⟩ := hJ.retain hs hd.1 told
      obtain ⟨hrest, hlast⟩ := ih hd.2 hs'
      exact ⟨.retain htold hrest, hlast⟩

/-! ## Good ends -/

/-- Whether a result is no error. -/
def Fine {ε : Type} (res : Except ε α) : Prop := ∃ a, res = .ok a

theorem not_fine_error {ε : Type} (e : ε) : ¬ Fine (.error e : Except ε α) := by
  rintro ⟨a, ha⟩
  exact nomatch ha

/-- Whether a dialogue comes to a good end only where a world brings it there. -/
def Honest (env : Environment σ) (world : Surroundings τ) (side : σ → τ) (good : α → Prop)
    (d : Dialogue α) : Prop :=
  ∀ s s' a, Runs env d s s' a → good a → d.run world (side s) = (side s', a)

namespace Honest

variable {world : Surroundings τ} {side : σ → τ} {good : β → Prop}

theorem done (b : β) : (Dialogue.done b).Honest env world side good := by
  intro s s' b' h _
  obtain ⟨rfl, rfl⟩ := Runs.done_iff.1 h
  rfl

/-- Two honest dialogues make one, if an error of the first ends both badly. -/
theorem bind {ε : Type} {d : Dialogue (Except ε α)} {g : Except ε α → Dialogue β}
    (h : d.Honest env world side Fine) (hok : ∀ a, (g (.ok a)).Honest env world side good)
    (herror : ∀ e s s' b, Runs env (g (.error e)) s s' b → ¬ good b) :
    (d.bind g).Honest env world side good := by
  intro s s'' b hrun hb
  obtain ⟨s', res, hd, hrest⟩ := Runs.bind_iff.1 hrun
  cases res with
  | ok a =>
      rw [run_bind, h s s' _ hd ⟨a, rfl⟩]
      exact hok a s' s'' b hrest hb
  | error e => exact absurd hb (herror e s' s'' b hrest)

/-- A request whose answer may be an error only where that ends badly. -/
theorem send {r : Dataplane.Request} {next : Except Dataplane.Error Json → Dialogue β}
    (hm : env.Mirrors world side) (hok : ∀ j, (next (.ok j)).Honest env world side good)
    (herror : ∀ e s s' b, Runs env (next (.error e)) s s' b → ¬ good b) :
    (Dialogue.send r next).Honest env world side good := by
  intro s s'' b hrun hb
  obtain ⟨s', answer, hsend, hrest⟩ := Runs.send_iff.1 hrun
  cases answer with
  | ok j =>
      rw [Dialogue.run, hm.send hsend]
      exact hok j s' s'' b hrest hb
  | error e => exact absurd hb (herror e s' s'' b hrest)

theorem certs {m : TlsMaterial}
    {next : Except Certificates.Error Certificates.Paths → Dialogue β}
    (hm : env.Mirrors world side) (hok : ∀ p, (next (.ok p)).Honest env world side good)
    (herror : ∀ e s s' b, Runs env (next (.error e)) s s' b → ¬ good b) :
    (Dialogue.certs m next).Honest env world side good := by
  intro s s'' b hrun hb
  obtain ⟨s', answer, hcerts, hrest⟩ := Runs.certs_iff.1 hrun
  cases answer with
  | ok p =>
      rw [Dialogue.run, hm.certs hcerts]
      exact hok p s' s'' b hrest hb
  | error e => exact absurd hb (herror e s' s'' b hrest)

theorem retain {ms : List TlsMaterial} {next : Dialogue β} (hm : env.Mirrors world side)
    (h : next.Honest env world side good) :
    (Dialogue.retain ms next).Honest env world side good := by
  intro s s'' b hrun hb
  obtain ⟨s', hretain, hrest⟩ := Runs.retain_iff.1 hrun
  rw [Dialogue.run, hm.retain hretain]
  exact h s' s'' b hrest hb

end Honest

/-- A dialogue that is over is not at a good end if its result is not good. -/
theorem Runs.not_good {good : β → Prop} {b : β} (h : ¬ good b) :
    ∀ s s' b', Runs env (.done b) s s' b' → ¬ good b' := by
  intro s s' b' hrun
  obtain ⟨-, rfl⟩ := Runs.done_iff.1 hrun
  exact h

end Dialogue

end MeshSync
