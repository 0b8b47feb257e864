import MeshSync.Dataplane.Store
import MeshSync.Proofs.SortedMap

/-! # What a command does

    A command opens a transaction, closes one, adds a change to one, or does
    nothing to the store; only a commit that goes through touches objects and
    version.  `Store.Does` lists the ways with all that they presuppose, and
    `does_perform` says that there are no others: what is kept by every command
    is shown by going through this list. -/

namespace MeshSync.Dataplane

namespace Store

/-- The store with a transaction closed. -/
def without (s : Store) (id : String) : Store :=
  { s with transactions := s.transactions.erase id }

/-- The store with the next transaction opened at its version. -/
def withNext (s : Store) : Store :=
  { s with
    transactions := s.transactions.insert (transactionId (s.opened + 1)) ⟨s.version, []⟩
    opened := s.opened + 1 }

/-- The store with a change added to a transaction. -/
def withChange (s : Store) (id : String) (t : Transaction) (change : Change) : Store :=
  { s with transactions := s.transactions.insert id { t with changes := t.changes ++ [change] } }

/-- What a client is told of the transaction that was opened next. -/
def openedNext (s : Store) : Json :=
  .ofFields [("id", .string (transactionId (s.opened + 1))),
    ("_version", .ofNat s.version.toNat), ("status", .string "in_progress")]

/-- What a client is told of a commit that went through. -/
def committedAs (s : Store) (id : String) : Json :=
  .ofFields [("id", .string id), ("status", .string "success"),
    ("_version", .ofNat (s.version + 1).toNat)]

/-- The ways in which a command leaves a store and is answered. -/
inductive Does (s : Store) : Command → Store → Except Refusal Json → Prop
  | opened : Does s (.begin s.version) s.withNext (.ok s.openedNext)
  | committed {id : String} {t : Transaction} {objects : Objects}
      (there : s.transactions.get? id = some t) (current : t.version = s.version)
      (applies : s.objects.applyAll t.changes = .ok objects) :
      Does s (.commit id) { s.without id with objects := objects, version := s.version + 1 }
        (.ok (s.committedAs id))
  | aborted {id : String} {t : Transaction} (there : s.transactions.get? id = some t) :
      Does s (.abort id) (s.without id) (.ok .null)
  | staged {id : String} {t : Transaction} {change : Change}
      (there : s.transactions.get? id = some t) :
      Does s (.stage id change) (s.withChange id t change) (.ok .null)
  | specified : Does s .specification s (.ok (.object []))
  | informed : Does s .info s (.ok (.ofFields [("api", .ofFields [("version", .string "memory")])]))
  | listed {kind : String} : Does s (.list kind) s (.ok (s.listing kind))
  /-- A commit of a transaction that is open but cannot be made. -/
  | dropped {id : String} {t : Transaction} {refusal : Refusal}
      (there : s.transactions.get? id = some t) :
      Does s (.commit id) (s.without id) (.error refusal)
  | refused {c : Command} {refusal : Refusal} : Does s c s (.error refusal)

end Store

variable {s : Store} {r : Request}

/-- **A command does one of the listed things.** -/
theorem does_perform (s : Store) (c : Command) : s.Does c (s.perform c).1 (s.perform c).2 := by
  cases c with
  | begin version =>
      rw [Store.perform, Store.begin]
      split
      · exact .refused
      · rename_i hv
        rw [not_not.1 hv]
        exact .opened
  | commit id =>
      rw [Store.perform, Store.commit]
      split
      · exact .refused
      · rename_i t ht
        dsimp only
        split
        · -- a commit that fails takes its transaction with it
          exact .dropped ht
        · rename_i hv
          split
          · exact .dropped ht
          · rename_i objects happly
            exact .committed ht (not_not.1 hv) happly
  | abort id =>
      rw [Store.perform, Store.abort]
      split
      · exact .refused
      · rename_i t ht
        exact .aborted ht
  | specification => exact .specified
  | info => exact .informed
  | list kind => exact .listed
  | stage id change =>
      rw [Store.perform, Store.stage]
      split
      · exact .refused
      · rename_i t ht
        exact .staged ht

/-- A request that asks for nothing is refused; one that asks for a command has
    it performed. -/
theorem handle_cases (s : Store) (r : Request) :
    (∃ refusal, s.handle r = (s, .error refusal)) ∨
      ∃ c, Command.ofRequest r = .ok c ∧ s.Does c (s.handle r).1 (s.handle r).2 := by
  rw [Store.handle]
  split
  · rename_i refusal _
    exact .inl ⟨refusal, rfl⟩
  · rename_i c hc
    exact .inr ⟨c, hc, does_perform s c⟩

/-- Only a commit that goes through touches version and objects. -/
theorem Store.Does.keeps {c : Command} {s' : Store} {a : Except Refusal Json} (h : s.Does c s' a)
    (hc : (∀ id, c ≠ .commit id) ∨ ∃ refusal, a = .error refusal) :
    s'.version = s.version ∧ s'.objects = s.objects := by
  cases h with
  | committed =>
      rcases hc with hc | ⟨refusal, hrefusal⟩
      · exact absurd rfl (hc _)
      · cases hrefusal
  | opened => exact ⟨rfl, rfl⟩
  | aborted => exact ⟨rfl, rfl⟩
  | staged => exact ⟨rfl, rfl⟩
  | specified => exact ⟨rfl, rfl⟩
  | informed => exact ⟨rfl, rfl⟩
  | listed => exact ⟨rfl, rfl⟩
  | dropped => exact ⟨rfl, rfl⟩
  | refused => exact ⟨rfl, rfl⟩

/-- The transactions that are open after a command were open before, at the
    version they have, or are the one that was opened next. -/
theorem Store.Does.open_cases {c : Command} {s' : Store} {a : Except Refusal Json}
    (h : s.Does c s' a) {id : String} {t : Transaction} (ht : s'.transactions.get? id = some t) :
    (∃ t₀, s.transactions.get? id = some t₀ ∧ t₀.version = t.version) ∨
      (id = transactionId (s.opened + 1) ∧ t.version = s.version ∧ s'.opened = s.opened + 1) := by
  -- a transaction that is ended takes nothing else with it
  have closed : ∀ {id' : String}, (s.transactions.erase id').get? id = some t →
      s.transactions.get? id = some t := by
    intro id' hget
    by_cases hid : id = id'
    · rw [hid, SortedMap.get?_erase_self] at hget
      cases hget
    · rwa [SortedMap.get?_erase_of_ne _ hid] at hget
  cases h with
  | opened =>
      by_cases hid : id = transactionId (s.opened + 1)
      · rw [hid, Store.withNext, SortedMap.get?_insert_self] at ht
        rw [← Option.some.inj ht]
        exact .inr ⟨hid, rfl, rfl⟩
      · rw [Store.withNext, SortedMap.get?_insert_of_ne _ hid] at ht
        exact .inl ⟨t, ht, rfl⟩
  | staged there =>
      rename_i id' t' change
      by_cases hid : id = id'
      · rw [hid, Store.withChange, SortedMap.get?_insert_self] at ht
        rw [hid, ← Option.some.inj ht]
        exact .inl ⟨t', there, rfl⟩
      · rw [Store.withChange, SortedMap.get?_insert_of_ne _ hid] at ht
        exact .inl ⟨t, ht, rfl⟩
  | committed => exact .inl ⟨t, closed ht, rfl⟩
  | aborted => exact .inl ⟨t, closed ht, rfl⟩
  | dropped => exact .inl ⟨t, closed ht, rfl⟩
  | specified => exact .inl ⟨t, ht, rfl⟩
  | informed => exact .inl ⟨t, ht, rfl⟩
  | listed => exact .inl ⟨t, ht, rfl⟩
  | refused => exact .inl ⟨t, ht, rfl⟩

/-- The version goes on by one, or it stays. -/
theorem Store.Does.version_cases {c : Command} {s' : Store} {a : Except Refusal Json}
    (h : s.Does c s' a) : s'.version = s.version ∨ s'.version = s.version + 1 := by
  cases h with
  | committed => exact .inr rfl
  | _ => exact .inl rfl

/-- A commit that goes through raises the version. -/
theorem Store.Does.raises {id : String} {s' : Store} {j : Json}
    (h : s.Does (.commit id) s' (.ok j)) : s'.version = s.version + 1 := by
  cases h with
  | committed => rfl

/-- The count of opened transactions goes on by one or stays. -/
theorem Store.Does.opened_le {c : Command} {s' : Store} {a : Except Refusal Json}
    (h : s.Does c s' a) : s.opened ≤ s'.opened := by
  cases h with
  | opened => exact Nat.le_succ _
  | _ => exact Nat.le_refl _

end MeshSync.Dataplane
