import MeshSync.Proofs.Dataplane.Exchange

/-! # Transactions are numbered

    Nothing but a commit changes objects and version, and nothing but a `PUT`
    asks for a commit (`handle_leaves`).  A transaction is known by the number
    that the count of opened ones had reached with it, and the count never goes
    back (`Used.opened_le`); so a transaction that is opened later has another
    name than any that is open now (`Numbered.later`), and one that is closed
    stays closed (`Closed.used`). -/

namespace MeshSync.Dataplane

variable {s s' : Store} {r : Request}

theorem transactionId_inj {m n : Nat} (h : transactionId m = transactionId n) : m = n :=
  Identifier.text_inj h

/-- The next version, where there is one. -/
theorem toNat_next {v : UInt64} (h : v.toNat + 1 < UInt64.size) : (v + 1).toNat = v.toNat + 1 := by
  rw [UInt64.toNat_add]
  exact Nat.mod_eq_of_lt h

/-- A version that is raised is another one, even where it wraps around. -/
theorem ne_add_one (v : UInt64) : v + 1 ≠ v := by
  intro h
  have h := congrArg UInt64.toNat h
  rw [UInt64.toNat_add] at h
  have hlt := v.toNat_lt
  simp only [UInt64.reduceToNat] at h
  omega

/-! ## What asks for a commit -/

/-- **Nothing but a `PUT` asks for a commit.** -/
theorem Command.put_of_commit {id : String} (h : ofRequest r = .ok (.commit id)) :
    r.method = .put := by
  have transaction : ∀ method name, ofTransaction method name = .ok (.commit id) →
      method = .put := by
    intro method name h
    cases method with
    | put => rfl
    | get => cases h
    | post => cases h
    | delete => cases h
    | other name => cases h
  have opening : ∀ query, ofOpening query ≠ .ok (.commit id) := by
    intro query h
    rw [ofOpening] at h
    split at h
    · cases h
    · cases h
  have read : ∀ route, ofRead route ≠ .ok (.commit id) := by
    intro route h
    rw [ofRead] at h
    split at h
    · cases h
    · split at h
      · cases h
      · split at h
        · cases h
        · cases h
  have write : ∀ method route query body, ofWrite method route query body ≠ .ok (.commit id) := by
    intro method route query body h
    rw [ofWrite] at h
    split at h
    · cases h
    · rename_i rest _
      split at h
      · cases h
      · cases hchange : change method rest (parent? query) body with
        | error e =>
            rw [hchange] at h
            cases h
        | ok c =>
            rw [hchange] at h
            cases h
  -- only the second of the four kinds of route can give a commit
  rw [ofRequest] at h
  split at h
  · cases h
  · rw [ofRoute] at h
    split at h
    · exact absurd h (opening _)
    · split at h
      · exact transaction _ _ h
      · split at h
        · exact absurd h (read _)
        · exact absurd h (write _ _ _ _)

/-- A request that asks for no commit, or is refused, leaves version and objects
    as they are. -/
theorem handle_leaves (h : (∀ id, Command.ofRequest r ≠ .ok (.commit id)) ∨
    ∃ refusal, (s.handle r).2 = .error refusal) :
    (s.handle r).1.version = s.version ∧ (s.handle r).1.objects = s.objects := by
  rcases handle_cases s r with ⟨refusal, hr⟩ | ⟨c, hc, hdoes⟩
  · rw [hr]
    exact ⟨rfl, rfl⟩
  · refine hdoes.keeps (h.imp_left fun h id hid => h id ?_)
    rw [hc, hid]

/-! ## Numbers -/

/-- What others may have done to a store: they sent requests and raised the
    version, in whatever order. -/
inductive Used (s : Store) : Store → Prop
  | refl : Used s s
  | handle {s' : Store} (before : Used s s') (r : Request) : Used s (s'.handle r).1
  | bump {s' : Store} (before : Used s s') : Used s s'.bump

theorem Used.trans {s'' : Store} (h : Used s s') (h' : Used s' s'') : Used s s'' := by
  induction h' with
  | refl => exact h
  | handle before r ih => exact .handle ih r
  | bump before ih => exact .bump ih

theorem opened_le_handle (s : Store) (r : Request) : s.opened ≤ (s.handle r).1.opened := by
  rcases handle_cases s r with ⟨refusal, hr⟩ | ⟨c, -, hdoes⟩
  · exact Nat.le_of_eq (by rw [hr])
  · exact hdoes.opened_le

/-- The count of opened transactions never goes back. -/
theorem Used.opened_le (h : Used s s') : s.opened ≤ s'.opened := by
  induction h with
  | refl => exact Nat.le_refl _
  | handle before r ih => exact Nat.le_trans ih (opened_le_handle _ r)
  | bump before ih => exact ih

/-- Whether all open transactions have numbers that were given out. -/
def Store.Numbered (s : Store) : Prop :=
  ∀ id t, s.transactions.get? id = some t → ∃ n, n ≤ s.opened ∧ id = transactionId n

namespace Store.Numbered

theorem new (version : UInt64) : (Store.new version).Numbered := fun _ _ h => nomatch h

/-- A request opens a transaction with a new number, or none. -/
theorem handle (h : s.Numbered) (r : Request) : (s.handle r).1.Numbered := by
  rcases handle_cases s r with ⟨refusal, hr⟩ | ⟨c, -, hdoes⟩
  · rw [hr]
    exact h
  · intro id t ht
    rcases hdoes.open_cases ht with ⟨t₀, ht₀, -⟩ | ⟨hid, -, hopened⟩
    · obtain ⟨n, hn, hname⟩ := h id t₀ ht₀
      exact ⟨n, Nat.le_trans hn hdoes.opened_le, hname⟩
    · exact ⟨s.opened + 1, Nat.le_of_eq hopened.symm, hid⟩

theorem used (h : s.Numbered) (hu : Used s s') : s'.Numbered := by
  induction hu with
  | refl => exact h
  | handle before r ih => exact ih.handle r
  | bump before ih => exact ih

/-- A transaction with a number that was not given out is not open. -/
theorem later (h : s.Numbered) {n : Nat} (hn : s.opened < n) :
    s.transactions.get? (transactionId n) = none := by
  refine Option.eq_none_iff_forall_ne_some.2 fun t ht => ?_
  obtain ⟨m, hm, hid⟩ := h _ t ht
  rw [transactionId_inj hid] at hn
  exact Nat.lt_irrefl _ (Nat.lt_of_lt_of_le hn hm)

end Store.Numbered

/-! ## Closed for good -/

/-- Whether the name of a transaction was given out. -/
def Store.Given (s : Store) (id : String) : Prop := ∃ n, n ≤ s.opened ∧ id = transactionId n

/-- Whether a transaction was opened once and is open no more. -/
structure Store.Closed (s : Store) (id : String) : Prop where
  given : s.Given id
  absent : s.transactions.get? id = none

theorem Store.Given.mono {id : String} (h : s.Given id) (hle : s.opened ≤ s'.opened) :
    s'.Given id := by
  obtain ⟨n, hn, hid⟩ := h
  exact ⟨n, Nat.le_trans hn hle, hid⟩

theorem Store.Given.plain {id : String} (h : s.Given id) : Url.PlainSegment id.toList := by
  obtain ⟨n, -, rfl⟩ := h
  exact plain_transactionId n

namespace Store.Closed

variable {id : String}

/-- A request opens no transaction under a name that was given out. -/
theorem handle (h : s.Closed id) (r : Request) : (s.handle r).1.Closed id := by
  refine ⟨h.given.mono (opened_le_handle s r), ?_⟩
  rcases handle_cases s r with ⟨refusal, hr⟩ | ⟨c, -, hdoes⟩
  · rw [hr]
    exact h.absent
  · refine Option.eq_none_iff_forall_ne_some.2 fun t ht => ?_
    rcases hdoes.open_cases ht with ⟨t₀, ht₀, -⟩ | ⟨hid, -, -⟩
    · rw [h.absent] at ht₀
      cases ht₀
    · obtain ⟨n, hn, hname⟩ := h.given
      rw [transactionId_inj (hname.symm.trans hid)] at hn
      exact Nat.not_succ_le_self _ hn

/-- **What is closed stays closed**, whoever uses the store. -/
theorem used (h : s.Closed id) (hu : Used s s') : s'.Closed id := by
  induction hu with
  | refl => exact h
  | handle before r ih => exact ih.handle r
  | bump before ih => exact ⟨ih.given, ih.absent⟩

end Store.Closed

/-- A commit or an abort closes its transaction, whatever the client is told. -/
theorem closed_of_closing {id : String} (h : s.Given id)
    (hr : Command.ofRequest r = .ok (.commit id) ∨ Command.ofRequest r = .ok (.abort id)) :
    (s.handle r).1.Closed id := by
  refine ⟨h.mono (opened_le_handle s r), ?_⟩
  rcases hr with hr | hr
  · rw [Store.handle, hr]
    dsimp only
    rw [Store.perform, Store.commit]
    split
    · rename_i hnone
      exact hnone
    · dsimp only
      split
      · exact SortedMap.get?_erase_self _ _
      · split <;> exact SortedMap.get?_erase_self _ _
  · rw [Store.handle, hr]
    dsimp only
    rw [Store.perform, Store.abort]
    split
    · rename_i hnone
      exact hnone
    · exact SortedMap.get?_erase_self _ _

/-! ## Deliveries -/

namespace Delivery

variable {d : Delivery}

/-- Whatever becomes of a request, the store has carried it out or is as it
    was. -/
theorem store_cases (d : Delivery) (s : Store) (r : Request) :
    (d.outcome s r).1 = s ∨ (d.outcome s r).1 = (s.handle r).1 := by
  cases d with
  | served =>
      rw [outcome]
      exact .inr (answer_store s r)
  | lost e => exact .inl rfl
  | muted e =>
      rw [outcome]
      dsimp only
      exact .inr (answer_store s r)

theorem used (d : Delivery) (s : Store) (r : Request) : Used s (d.outcome s r).1 := by
  rcases d.store_cases s r with h | h
  · rw [h]
    exact .refl
  · rw [h]
    exact .handle .refl r

/-- What the client is told to have been done was done. -/
theorem eq_answer {j : Json} (h : (d.outcome s r).2 = .ok j) : d.outcome s r = s.answer r := by
  cases d with
  | served => rw [outcome]
  | lost e => cases h
  | muted e => cases h

theorem store_of_arrives (h : d.arrives = true) : (d.outcome s r).1 = (s.handle r).1 := by
  cases d with
  | served =>
      rw [outcome]
      exact answer_store s r
  | lost e => cases h
  | muted e =>
      rw [outcome]
      dsimp only
      exact answer_store s r

end Delivery

/-! ## Opened anew -/

/-- A transaction that was opened is the next one. -/
theorem answer_of_begin {v : UInt64} {j : Json}
    (h : (s.answer ⟨.post, s!"{transactionsPath}?version={v}", none⟩).2 = .ok j) :
    v = s.version ∧ s.answer ⟨.post, s!"{transactionsPath}?version={v}", none⟩ =
      (s.withNext, .ok s.openedNext) := by
  rw [Store.answer, Store.handle, ofRequest_begin] at h ⊢
  dsimp only at h ⊢
  rw [Store.perform, Store.begin] at h ⊢
  by_cases hv : v = s.version
  · subst hv
    rw [if_neg (not_not.2 rfl)]
    exact ⟨rfl, rfl⟩
  · rw [if_pos hv] at h
    cases h

/-- The ticket of a transaction that was opened bears a new number. -/
theorem ticket_of_begin {v : UInt64} {j : Json} {ticket : Ticket}
    (h : (s.answer ⟨.post, s!"{transactionsPath}?version={v}", none⟩).2 = .ok j)
    (hread : Client.openedTicket v j = .ok ticket) :
    ticket.id = transactionId (s.opened + 1) := by
  obtain ⟨rfl, hanswer⟩ := answer_of_begin h
  rw [hanswer] at h
  rw [← Except.ok.inj h, Store.openedNext, openedTicket_begin] at hread
  rw [← Except.ok.inj hread]

/-- Its name was given out by then. -/
theorem given_of_begin {v : UInt64} {j : Json} {ticket : Ticket}
    (h : (s.answer ⟨.post, s!"{transactionsPath}?version={v}", none⟩).2 = .ok j)
    (hread : Client.openedTicket v j = .ok ticket) :
    (s.answer ⟨.post, s!"{transactionsPath}?version={v}", none⟩).1.Given ticket.id := by
  refine ⟨s.opened + 1, ?_, ticket_of_begin h hread⟩
  rw [(answer_of_begin h).2]
  exact Nat.le_refl _

end MeshSync.Dataplane
