import MeshSync.Proofs.Dataplane.Exchange
import MeshSync.Proofs.Rounds

/-! # Rounds that write

    What a round of a dialogue has to do with a store: what it asks for, whether
    it may change something, which transaction it names and which change it
    stages there.  Rounds that only read do none of this (`Round.Reads.idle`). -/

namespace MeshSync

open Dataplane

namespace Round

variable {σ : Type}

/-- Whether something may be changed: by every request but one that reads. -/
def writes : Round σ → Bool
  | sent r _ _ => r.method ≠ .get
  | asked _ _ => false

/-- What a store is asked for. -/
def command? : Round σ → Option Command
  | sent r _ _ => (Command.ofRequest r).toOption
  | asked _ _ => none

/-- The change that is staged. -/
def change? (x : Round σ) : Option Change :=
  match x.command? with
  | some (.stage _ c) => some c
  | _ => none

/-- The transaction in which something is staged, or which is closed. -/
def transaction? (x : Round σ) : Option String :=
  match x.command? with
  | some (.stage id _) => some id
  | some (.commit id) => some id
  | some (.abort id) => some id
  | _ => none

/-- Whether a transaction is to be opened. -/
def Opens (x : Round σ) : Prop := ∃ v, x.command? = some (.begin v)

/-- Whether a transaction was opened, as the client was told; `s` is the store
    right after that. -/
def Opened (x : Round Store) (id : String) (s : Store) : Prop :=
  x.Opens ∧ ∃ r j v ticket, x = .sent r (.ok j) s ∧
    Client.openedTicket v j = .ok ticket ∧ ticket.id = id

/-- Whether a change is staged, or files are asked for that it needs. -/
def Stages (x : Round σ) : Prop := (∃ c, x.change? = some c) ∨ ∃ m a, x = .asked m a

/-- Whether the answer is an error. -/
def Fails : Round σ → Prop
  | sent _ a _ => ∃ e, a = .error e
  | asked _ a => ∃ e, a = .error e

/-- Whether a request only reads. -/
def Reads (x : Round σ) : Prop := ∃ r a s, x = .sent r a s ∧ r.method = .get

end Round

namespace Dataplane

/-- A request that reads asks for no change of a store. -/
theorem ofRequest_of_get {r : Request} (h : r.method = .get) {c : Command}
    (hc : Command.ofRequest r = .ok c) :
    c = .specification ∨ c = .info ∨ ∃ kind, c = .list kind := by
  rw [Command.ofRequest, h] at hc
  split at hc
  · cases hc
  · rename_i url hurl
    rw [Command.ofRoute, if_neg (by simp)] at hc
    split at hc
    · cases hc
    · rw [if_pos rfl, Command.ofRead] at hc
      split at hc
      · exact .inl (Except.ok.inj hc).symm
      · split at hc
        · exact .inr (.inl (Except.ok.inj hc).symm)
        · split at hc
          · exact .inr (.inr ⟨_, (Except.ok.inj hc).symm⟩)
          · cases hc

end Dataplane

namespace Round

variable {σ : Type} {x : Round σ}

theorem command?_sent {r : Request} {a : Except Error Json} {s : σ} {c : Command}
    (h : Command.ofRequest r = .ok c) : (sent r a s).command? = some c := by
  rw [command?, h]
  rfl

theorem not_stages_of_command {c : Command} (h : x.command? = some c)
    (hc : ∀ id change, c ≠ .stage id change) : ¬ x.Stages := by
  rintro (⟨change, hchange⟩ | ⟨m, a, rfl⟩)
  · rw [Round.change?, h] at hchange
    cases c with
    | stage id change => exact hc id change rfl
    | _ => cases hchange
  · cases h

/-- What opens a transaction stages nothing. -/
theorem Opens.idle (h : x.Opens) : x.change? = none ∧ ¬ x.Stages := by
  obtain ⟨v, hv⟩ := h
  exact ⟨by rw [Round.change?, hv], not_stages_of_command hv fun _ _ => nofun⟩

theorem Opened.store_eq {x : Round Store} {id id' : String} {s s' : Store} (h : x.Opened id s)
    (h' : x.Opened id' s') : s = s' := by
  obtain ⟨-, r, j, v, ticket, rfl, -⟩ := h
  obtain ⟨-, r', j', v', ticket', hsent, -⟩ := h'
  exact (Round.sent.inj hsent).2.2

namespace Reads

theorem not_writes (h : x.Reads) : x.writes = false := by
  obtain ⟨r, a, s, rfl, hget⟩ := h
  simp [writes, hget]

/-- What only reads neither opens a transaction nor stages anything. -/
theorem idle (h : x.Reads) : ¬ x.Opens ∧ x.change? = none ∧ ¬ x.Stages := by
  obtain ⟨r, a, s, rfl, hget⟩ := h
  have hcommand : ∀ c, (sent r a s).command? = some c →
      c = .specification ∨ c = .info ∨ ∃ kind, c = .list kind := by
    intro c hc
    rw [command?] at hc
    cases hr : Command.ofRequest r with
    | error e =>
        rw [hr] at hc
        cases hc
    | ok d =>
        rw [hr] at hc
        exact ofRequest_of_get hget (hr.trans (congrArg Except.ok (Option.some.inj hc)))
  have hchange : (sent r a s).change? = none := by
    rw [change?]
    split
    · rename_i id c hc
      rcases hcommand _ hc with h | h | ⟨kind, h⟩ <;> cases h
    · rfl
  refine ⟨?_, hchange, ?_⟩
  · rintro ⟨v, hv⟩
    rcases hcommand _ hv with h | h | ⟨kind, h⟩ <;> cases h
  · rintro (⟨c, hc⟩ | ⟨m, a', h⟩)
    · rw [hchange] at hc
      cases hc
    · cases h

end Reads

end Round

namespace Dataplane

open Dialogue (Traced)

/-- Asking is one round. -/
theorem traced_ask_iff {σ α : Type} {env : Environment σ} {w w' : σ} {q : Request}
    {read : Json → Except Error α} {said : List (Round σ)} {res : Except Error α} :
    Traced env (Client.ask q read) w said w' res ↔
      ∃ a, said = [.sent q a w'] ∧ env.send w q w' a ∧ res = a.bind read := by
  rw [Client.ask, Traced.send_iff]
  constructor
  · rintro ⟨w₁, a, rest, rfl, hsend, hdone⟩
    obtain ⟨rfl, rfl, rfl⟩ := Traced.done_iff.1 hdone
    exact ⟨a, rfl, hsend, rfl⟩
  · rintro ⟨a, rfl, hsend, rfl⟩
    exact ⟨w', a, [], rfl, hsend, .done _ _⟩

end Dataplane

end MeshSync
