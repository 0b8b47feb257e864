import MeshSync.Proofs.Footprint

/-! # What is said in a dialogue

    `Dialogue.Runs` tells what a dialogue comes to, and `Dialogue.Traced` what
    was said on the way as well: the questions with their answers, in order.
    Every run can be traced (`Runs.exists_traced`), two dialogues put together
    are traced one after the other (`Traced.bind_iff`), and all that is said lies
    in the footprint of the dialogue (`Traced.within`). -/

namespace MeshSync

/-- A question with its answer; for a request, also the world after it. -/
inductive Round (σ : Type) where
  | sent (request : Dataplane.Request) (answer : Except Dataplane.Error Json) (after : σ)
  | asked (material : TlsMaterial) (answer : Except Certificates.Error Certificates.Paths)

/-- Whether a question lies in a footprint. -/
def Round.Within {σ : Type} (f : Footprint) : Round σ → Prop
  | sent r _ _ => f.sends r
  | asked m _ => f.asks m

namespace Dialogue

variable {α β σ : Type} {env : Environment σ}

/-- The worlds before and after a dialogue, what was said, and its result. -/
inductive Traced (env : Environment σ) : Dialogue α → σ → List (Round σ) → σ → α → Prop
  | done (a : α) (s : σ) : Traced env (.done a) s [] s a
  | send {r : Dataplane.Request} {next : Except Dataplane.Error Json → Dialogue α}
      {s s' s'' : σ} {answer : Except Dataplane.Error Json} {rounds : List (Round σ)} {a : α}
      (asked : env.send s r s' answer) (rest : Traced env (next answer) s' rounds s'' a) :
      Traced env (.send r next) s (.sent r answer s' :: rounds) s'' a
  | certs {m : TlsMaterial} {next : Except Certificates.Error Certificates.Paths → Dialogue α}
      {s s' s'' : σ} {answer : Except Certificates.Error Certificates.Paths}
      {rounds : List (Round σ)} {a : α}
      (asked : env.certs s m s' answer) (rest : Traced env (next answer) s' rounds s'' a) :
      Traced env (.certs m next) s (.asked m answer :: rounds) s'' a
  | retain {ms : List TlsMaterial} {next : Dialogue α} {s s' s'' : σ} {rounds : List (Round σ)}
      {a : α} (told : env.retain s ms s') (rest : Traced env next s' rounds s'' a) :
      Traced env (.retain ms next) s rounds s'' a

/-- What was traced is a run. -/
theorem Traced.runs {d : Dialogue α} {s s' : σ} {rounds : List (Round σ)} {a : α}
    (h : Traced env d s rounds s' a) : Runs env d s s' a := by
  induction h with
  | done a s => exact .done a s
  | send asked rest ih => exact .send asked ih
  | certs asked rest ih => exact .certs asked ih
  | retain told rest ih => exact .retain told ih

/-- **Every run can be traced.** -/
theorem Runs.exists_traced {d : Dialogue α} {s s' : σ} {a : α} (h : Runs env d s s' a) :
    ∃ rounds, Traced env d s rounds s' a := by
  induction h with
  | done a s => exact ⟨_, .done a s⟩
  | send asked rest ih =>
      obtain ⟨rounds, hrest⟩ := ih
      exact ⟨_, .send asked hrest⟩
  | certs asked rest ih =>
      obtain ⟨rounds, hrest⟩ := ih
      exact ⟨_, .certs asked hrest⟩
  | retain told rest ih =>
      obtain ⟨rounds, hrest⟩ := ih
      exact ⟨_, .retain told hrest⟩

namespace Traced

theorem done_iff {a b : α} {s s' : σ} {rounds : List (Round σ)} :
    Traced env (.done a) s rounds s' b ↔ rounds = [] ∧ s' = s ∧ b = a := by
  constructor
  · intro h
    cases h
    exact ⟨rfl, rfl, rfl⟩
  · rintro ⟨rfl, rfl, rfl⟩
    exact .done b s'

theorem send_iff {r : Dataplane.Request} {next : Except Dataplane.Error Json → Dialogue α}
    {s s'' : σ} {rounds : List (Round σ)} {a : α} :
    Traced env (.send r next) s rounds s'' a ↔ ∃ s' answer rest,
      rounds = .sent r answer s' :: rest ∧ env.send s r s' answer ∧
        Traced env (next answer) s' rest s'' a := by
  constructor
  · intro h
    cases h with
    | send asked rest => exact ⟨_, _, _, rfl, asked, rest⟩
  · rintro ⟨s', answer, rest, rfl, asked, hrest⟩
    exact .send asked hrest

theorem certs_iff {m : TlsMaterial}
    {next : Except Certificates.Error Certificates.Paths → Dialogue α} {s s'' : σ}
    {rounds : List (Round σ)} {a : α} :
    Traced env (.certs m next) s rounds s'' a ↔ ∃ s' answer rest,
      rounds = .asked m answer :: rest ∧ env.certs s m s' answer ∧
        Traced env (next answer) s' rest s'' a := by
  constructor
  · intro h
    cases h with
    | certs asked rest => exact ⟨_, _, _, rfl, asked, rest⟩
  · rintro ⟨s', answer, rest, rfl, asked, hrest⟩
    exact .certs asked hrest

theorem retain_iff {ms : List TlsMaterial} {next : Dialogue α} {s s'' : σ}
    {rounds : List (Round σ)} {a : α} :
    Traced env (.retain ms next) s rounds s'' a ↔
      ∃ s', env.retain s ms s' ∧ Traced env next s' rounds s'' a := by
  constructor
  · intro h
    cases h with
    | retain told rest => exact ⟨_, told, rest⟩
  · rintro ⟨s', told, rest⟩
    exact .retain told rest

/-- **What is said in two dialogues put together is said in one after the
    other.** -/
theorem bind_iff {d : Dialogue α} {f : α → Dialogue β} {s s'' : σ} {rounds : List (Round σ)}
    {b : β} :
    Traced env (d.bind f) s rounds s'' b ↔ ∃ s' a first last, rounds = first ++ last ∧
      Traced env d s first s' a ∧ Traced env (f a) s' last s'' b := by
  constructor
  · intro h
    induction d generalizing s rounds with
    | done a => exact ⟨s, a, [], rounds, rfl, .done a s, h⟩
    | send r next ih =>
        obtain ⟨s₁, answer, rest, rfl, asked, hrest⟩ := send_iff.1 h
        obtain ⟨s', a, first, last, rfl, hd, hf⟩ := ih answer hrest
        exact ⟨s', a, _, last, rfl, .send asked hd, hf⟩
    | certs m next ih =>
        obtain ⟨s₁, answer, rest, rfl, asked, hrest⟩ := certs_iff.1 h
        obtain ⟨s', a, first, last, rfl, hd, hf⟩ := ih answer hrest
        exact ⟨s', a, _, last, rfl, .certs asked hd, hf⟩
    | retain ms next ih =>
        obtain ⟨s₁, told, hrest⟩ := retain_iff.1 h
        obtain ⟨s', a, first, last, rfl, hd, hf⟩ := ih hrest
        exact ⟨s', a, first, last, rfl, .retain told hd, hf⟩
  · rintro ⟨s', a, first, last, rfl, hd, hf⟩
    induction hd with
    | done a s => exact hf
    | send asked rest ih => exact .send asked (ih hf)
    | certs asked rest ih => exact .certs asked (ih hf)
    | retain told rest ih => exact .retain told (ih hf)

/-- Nothing is asked outside the footprint of a dialogue. -/
theorem within {f : Footprint} {d : Dialogue α} (hd : d.Within f) {s s' : σ}
    {rounds : List (Round σ)} {a : α} (h : Traced env d s rounds s' a) :
    ∀ x ∈ rounds, x.Within f := by
  induction h with
  | done a s => exact fun x hx => absurd hx List.not_mem_nil
  | send asked rest ih =>
      intro x hx
      rcases List.mem_cons.1 hx with rfl | hx
      · exact hd.1
      · exact ih (hd.2 _) x hx
  | certs asked rest ih =>
      intro x hx
      rcases List.mem_cons.1 hx with rfl | hx
      · exact hd.1
      · exact ih (hd.2 _) x hx
  | retain told rest ih => exact ih hd.2

end Traced

end Dialogue

end MeshSync
