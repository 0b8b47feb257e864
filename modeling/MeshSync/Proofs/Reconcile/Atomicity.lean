import Mathlib.Logic.Relation
import MeshSync.Proofs.Reconcile.Convergence
import MeshSync.Proofs.Reconcile.Site

/-! # A failed pass is all or nothing

    A pass that fails leaves what it knows of the last commit as it was, and the
    next one starts from the store (`apply_error`).  On a site of its own it
    leaves the objects as they were, or as a pass without trouble would have
    left them, and the latter only if its commit was carried out
    (`apply_alone`): up to the commit all its requests were answered, so it went
    as that other pass (`Honest`), and the commit is one step.  What the failed
    pass has staged stays in a transaction that no later pass commits, as each
    of them commits only what it opened itself (`apply_advances`). -/

namespace MeshSync.Reconcile

open Certificates (Provider)
open Dataplane
open Dialogue (Runs)

variable {κ : Type} {provider : Provider κ} {s s' : Site κ} {r r' : Reconciler} {next : Snapshot}
  {e : PassError}

/-! ## What becomes of the site -/

/-- Whether the commit of a transaction was carried out since. -/
def Commits (s s' : Site κ) : Prop :=
  ∃ q ∈ s'.since s, ∃ id, Command.ofRequest q = .ok (.commit id)

theorem Commits.of_parts {s₁ s₂ : Site κ} (h : s.carried <+: s₁.carried)
    (hcommits : Commits s₁ s₂) (h₁ : s₁.carried <+: s₂.carried) (h₂ : s₂.carried <+: s'.carried) :
    Commits s s' := by
  obtain ⟨q, hq, hid⟩ := hcommits
  refine ⟨q, ?_, hid⟩
  rw [Site.since_append h (h₁.trans h₂), Site.since_append h₁ h₂]
  exact List.mem_append_right _ (List.mem_append_left _ hq)

/-- Whether a pass without trouble would be applied, and leave the same objects
    at the same version. -/
def Succeeds (provider : Provider κ) (d : Dialogue (Reconciler × Except PassError Outcome))
    (s s' : Site κ) : Prop :=
  ∃ s₁ r₁ v downstream rebuilt removed, d.run (quiet provider) s =
    (s₁, r₁, .ok (.applied v downstream rebuilt removed)) ∧ Kept s₁ s'

theorem run_ask_quiet {α : Type} (q : Request) (read : Json → Except Error α) (s : Site κ) :
    (Client.ask q read).run (quiet provider) s = (s.carry q, (s.reply q).bind read) := by
  rw [Client.ask, Dialogue.run, quiet_send]
  rfl

namespace Reconciler

/-! ## Transactions -/

/-- A transaction that was opened bears a new number. -/
theorem ticket_new {v : UInt64} {ticket : Ticket}
    (h : Runs (shared provider) (Client.begin v) s s' (.ok ticket)) :
    ∃ n, s.store.opened < n ∧ ticket.id = transactionId n := by
  obtain ⟨answer, ⟨st, hused, hdelivered⟩, hread⟩ := ask_iff.1 h
  cases answer with
  | error e => exact nomatch hread
  | ok j =>
      obtain ⟨-, hreply⟩ := carry_of_ok hdelivered
      exact ⟨st.opened + 1, Nat.lt_succ_of_le hused.opened_le, ticket_of_begin hreply hread.symm⟩

theorem ofRequest_ticket {ticket : Ticket} {n : Nat} (h : ticket.id = transactionId n) :
    Command.ofRequest ⟨.put, Client.transactionPath ticket.id, none⟩ = .ok (.commit ticket.id) := by
  rw [h]
  exact ofRequest_commit (plain_transactionId n)

/-- **A transaction commits nothing but itself**, whoever else is there. -/
theorem transact_advances {v : UInt64} {plan : Plan} {options : Options}
    {res : Except PassError (UInt64 × UInt64)}
    (h : Runs (shared provider) (transact v (plan.parts next options)) s s' res) :
    Advances s s' := by
  have hkeeps := keeps_advances provider next
  obtain ⟨s₁, opened, hbegin, hrest⟩ := Runs.bind_iff.1 h
  have h₁ : Advances s s₁ := hbegin.keeps hkeeps (within_begin next v)
  cases opened with
  | error e =>
      obtain ⟨rfl, -⟩ := Runs.done_iff.1 hrest
      exact h₁
  | ok ticket =>
      obtain ⟨n, hn, hid⟩ := ticket_new hbegin
      obtain ⟨s₂, staged, hstage, hrest⟩ := Runs.bind_iff.1 hrest
      have h₂ := h₁.trans (hstage.keeps hkeeps (within_stageParts (plan.within_parts options)))
      cases staged with
      | error e =>
          obtain ⟨s₃, answer, habort, hdone⟩ := Runs.bind_iff.1 hrest
          obtain ⟨rfl, -⟩ := Runs.done_iff.1 hdone
          exact h₂.trans (habort.keeps hkeeps (within_abort next ticket))
      | ok done =>
          obtain ⟨s₃, answer, hcommit, hdone⟩ := Runs.bind_iff.1 hrest
          have h₃ : Advances s s₃ := by
            rw [Client.commit] at hcommit
            split at hcommit
            · obtain ⟨rfl, -⟩ := Runs.done_iff.1 hcommit
              exact h₂
            · obtain ⟨a, ⟨st, hused, hdelivered⟩, -⟩ := ask_iff.1 hcommit
              refine (h₂.trans (.used hused)).delivered (fun id hq => ⟨n, hn, ?_⟩) hdelivered
              obtain ⟨rfl⟩ :=
                Command.commit.inj (Except.ok.inj ((ofRequest_ticket hid).symm.trans hq))
              exact hid
          cases answer with
          | error e =>
              obtain ⟨rfl, -⟩ := Runs.done_iff.1 hdone
              exact h₃
          | ok version =>
              obtain ⟨rfl, -⟩ := Runs.done_iff.1 hdone
              exact h₃

/-- A commit that failed on its own did nothing, or only its answer was lost. -/
theorem commit_alone {v : UInt64} {ticket : Ticket} {n : Nat} (hid : ticket.id = transactionId n)
    {cause : Error} (h : Runs (alone provider) (Client.commit v ticket) s s' (.error cause)) :
    Kept s s' ∨ ((∃ q id, s' = s.carry q ∧ Command.ofRequest q = .ok (.commit id)) ∧
      ∃ version, (Client.commit v ticket).run (quiet provider) s = (s', .ok version)) := by
  rw [Client.commit] at h ⊢
  split at h
  · obtain ⟨rfl, -⟩ := Runs.done_iff.1 h
    exact .inl (.refl s')
  · rename_i hv
    obtain ⟨answer, hsend, -⟩ := ask_iff.1 h
    rcases carry_or_same (alone_send_iff.1 hsend) with rfl | rfl
    · exact .inl (.refl s')
    · cases hreply : s.reply ⟨.put, Client.transactionPath ticket.id, none⟩ with
      | error refusal => exact .inl (.of_refusal hreply)
      | ok j =>
          refine .inr ⟨⟨_, _, rfl, ofRequest_ticket hid⟩, v + 1, ?_⟩
          rw [if_neg hv, run_ask_quiet, hreply]
          rfl

/-- **A transaction that failed on its own did nothing, or all**: the latter only
    if its commit was carried out, and then as without trouble. -/
theorem transact_alone {v : UInt64} {plan : Plan} {options : Options}
    (h : Runs (alone provider) (transact v (plan.parts next options)) s s' (.error e)) :
    Kept s s' ∨ (Commits s s' ∧ ∃ versions,
      (transact v (plan.parts next options)).run (quiet provider) s = (s', .ok versions)) := by
  have hkeeps := keeps_kept provider next
  obtain ⟨s₁, opened, hbegin, hrest⟩ := Runs.bind_iff.1 h
  have h₁ : Kept s s₁ := hbegin.keeps hkeeps (within_begin next v)
  -- whatever fails before the commit leaves the objects as they were
  cases opened with
  | error cause =>
      obtain ⟨rfl, -⟩ := Runs.done_iff.1 hrest
      exact .inl h₁
  | ok ticket =>
      have hopened : (Client.begin v).run (quiet provider) s = (s₁, .ok ticket) :=
        honest_ask alone_mirrors_quiet _ _ s s₁ _ hbegin ⟨_, rfl⟩
      obtain ⟨n, -, hid⟩ := ticket_new (shared_of_alone hbegin)
      obtain ⟨s₂, staged, hstage, hrest⟩ := Runs.bind_iff.1 hrest
      have h₂ := h₁.trans (hstage.keeps hkeeps (within_stageParts (plan.within_parts options)))
      cases staged with
      | error cause =>
          obtain ⟨s₃, answer, habort, hdone⟩ := Runs.bind_iff.1 hrest
          obtain ⟨rfl, -⟩ := Runs.done_iff.1 hdone
          exact .inl (h₂.trans (habort.keeps hkeeps (within_abort next ticket)))
      | ok done =>
          have hstaged : (stageParts ticket (plan.parts next options)).run (quiet provider) s₁ =
              (s₂, .ok done) :=
            honest_stageParts alone_mirrors_quiet ticket _ s₁ s₂ _ hstage ⟨_, rfl⟩
          obtain ⟨s₃, answer, hcommit, hdone⟩ := Runs.bind_iff.1 hrest
          cases answer with
          | ok version => exact nomatch (Runs.done_iff.1 hdone).2
          | error cause =>
              obtain ⟨rfl, -⟩ := Runs.done_iff.1 hdone
              rcases commit_alone hid hcommit with hkept | ⟨⟨q, id, rfl, hq⟩, version, hrun⟩
              · exact .inl (h₂.trans hkept)
              · refine .inr ⟨?_, (ticket.version, version), ?_⟩
                · have hbegun := (shared_of_alone hbegin).keeps (keeps_advances provider next)
                    (within_begin next v)
                  have hstaged := (shared_of_alone hstage).keeps (keeps_advances provider next)
                    (within_stageParts (plan.within_parts options))
                  refine .of_parts (hbegun.trans hstaged).grown ⟨q, ?_, id, hq⟩
                    (List.prefix_append _ _) (List.prefix_refl _)
                  rw [Site.since_carry]
                  exact List.mem_singleton.2 rfl
                · -- opening and staging succeeded, so that they went as without trouble
                  rw [transact, Dialogue.run_bind, hopened]
                  dsimp only
                  rw [Dialogue.run_bind, hstaged]
                  dsimp only
                  rw [Dialogue.run_bind, hrun]
                  rfl

/-! ## Passes -/

/-- Carrying a plan out advances the site, whatever becomes of it. -/
theorem carryOut_advances {plan : Plan} {out : Except PassError Outcome}
    (h : Runs (shared provider) (r.carryOut next plan) s s' (r', out)) : Advances s s' := by
  rw [carryOut] at h
  split at h
  · obtain ⟨rfl, -⟩ := Runs.done_iff.1 h
    exact .refl s'
  · obtain ⟨s₁, res, htransact, hrest⟩ := Runs.bind_iff.1 h
    have h₁ := transact_advances htransact
    cases res with
    | error cause =>
        exact h₁.trans (hrest.keeps (keeps_advances provider next)
          (within_staging next (within_recover r cause)))
    | ok versions =>
        obtain ⟨s₂, rfl, hdone⟩ := Runs.retain_iff.1 hrest
        obtain ⟨rfl, -⟩ := Runs.done_iff.1 hdone
        exact h₁.trans ⟨Nat.le_refl _, [], (List.append_nil _).symm,
          fun q hq => absurd hq List.not_mem_nil⟩

/-- **A pass commits only transactions that it opened**, whoever else is there. -/
theorem apply_advances {out : Except PassError Outcome}
    (h : Runs (shared provider) (r.apply next) s s' (r', out)) : Advances s s' := by
  rw [apply] at h
  split at h
  · obtain ⟨s₁, ⟨t, stock⟩, htake, hrest⟩ := Runs.bind_iff.1 h
    have h₁ := htake.keeps (keeps_advances provider next)
      (within_staging next (within_takeStock r.tracked))
    cases stock with
    | error cause =>
        obtain ⟨rfl, -⟩ := Runs.done_iff.1 hrest
        exact h₁
    | ok inventory => exact h₁.trans (carryOut_advances (r := { r with tracked := t }) hrest)
  · exact carryOut_advances h

/-- Carrying a plan out alone on the store changes nothing, or commits all
    of the plan. -/
theorem carryOut_alone {plan : Plan}
    (h : Runs (alone provider) (r.carryOut next plan) s s' (r', .error e)) :
    Kept s s' ∨ (Commits s s' ∧ Succeeds provider (r.carryOut next plan) s s') := by
  rw [carryOut] at h ⊢
  split at h
  · cases (Prod.mk.inj (Runs.done_iff.1 h).2).2
  · rename_i hempty
    obtain ⟨s₁, res, htransact, hrest⟩ := Runs.bind_iff.1 h
    cases res with
    | ok versions =>
        obtain ⟨s₂, -, hdone⟩ := Runs.retain_iff.1 hrest
        cases (Prod.mk.inj (Runs.done_iff.1 hdone).2).2
    | error cause =>
        have hkept := hrest.keeps (keeps_kept provider next)
          (within_staging next (within_recover r cause))
        rcases transact_alone htransact with hnothing | ⟨hcommits, ⟨opened, tracked⟩, hrun⟩
        · exact .inl (hnothing.trans hkept)
        · have h₁ := transact_advances (shared_of_alone htransact)
          have h₂ := (shared_of_alone hrest).keeps (keeps_advances provider next)
            (within_staging next (within_recover r cause))
          refine .inr ⟨.of_parts (List.prefix_refl _) hcommits h₁.grown h₂.grown, ?_⟩
          rw [if_neg hempty, Succeeds, Dialogue.run_bind, hrun]
          exact ⟨_, _, _, _, _, _, rfl, hkept.objects, hkept.version⟩

/-- **A failed pass on its own did nothing, or all**: the latter only if its
    commit was carried out, and then as a pass without trouble. -/
theorem apply_alone (h : Runs (alone provider) (r.apply next) s s' (r', .error e)) :
    Kept s s' ∨ (Commits s s' ∧ Succeeds provider (r.apply next) s s') := by
  rw [apply] at h ⊢
  split at h
  · rename_i hforce
    obtain ⟨s₁, ⟨t, stock⟩, htake, hrest⟩ := Runs.bind_iff.1 h
    have hkept := htake.keeps (keeps_kept provider next)
      (within_staging next (within_takeStock r.tracked))
    cases stock with
    | error cause =>
        obtain ⟨rfl, -⟩ := Runs.done_iff.1 hrest
        exact .inl hkept
    | ok inventory =>
        rcases carryOut_alone (r := { r with tracked := t }) hrest with
          hnothing | ⟨hcommits, hsucceeds⟩
        · exact .inl (hkept.trans hnothing)
        · have h₁ := (shared_of_alone htake).keeps (keeps_advances provider next)
            (within_staging next (within_takeStock r.tracked))
          have h₂ := carryOut_advances (r := { r with tracked := t }) (shared_of_alone hrest)
          refine .inr ⟨.of_parts h₁.grown hcommits h₂.grown (List.prefix_refl _), ?_⟩
          have htaken : (takeStock r.tracked).run (quiet provider) s = (s₁, t, .ok inventory) :=
            honest_takeStock alone_mirrors_quiet r.tracked s s₁ _ htake ⟨_, rfl⟩
          rw [if_pos hforce, Succeeds, Dialogue.run_bind, htaken]
          exact hsucceeds
  · rename_i hforce
    rw [if_neg hforce]
    exact carryOut_alone h

end Reconciler

/-! ## Trouble at the commit -/

/-- Where a transaction may be committed, the request for it or the answer may
    get lost; until then nothing was committed. -/
theorem runs_transact_cut {v : UInt64} {plan : Plan} {options : Options}
    {versions : UInt64 × UInt64} (h : Runs (alone provider)
      (Reconciler.transact v (plan.parts next options)) s s' (.ok versions)) :
    ∃ s₂ q, s' = s₂.carry q ∧ Kept s s₂ ∧ ∀ s₃ cause, Delivered s₂ q s₃ (.error cause) →
      Runs (alone provider) (Reconciler.transact v (plan.parts next options)) s s₃
        (.error (.dataplane cause)) := by
  obtain ⟨ticket, s₁, s₂, version, hbegin, hstage, hcommit⟩ := Reconciler.transact_ok h
  have hbegun := hbegin.keeps (keeps_kept provider next) (within_begin next v)
  have hstaged := hstage.keeps (keeps_kept provider next)
    (Reconciler.within_stageParts (plan.within_parts options))
  rw [Client.commit] at hcommit
  split at hcommit
  · cases (Runs.done_iff.1 hcommit).2
  · rename_i hv
    obtain ⟨answer, hsend, hread⟩ := ask_iff.1 hcommit
    cases answer with
    | error cause => cases hread
    | ok j =>
        obtain ⟨hcarried, -⟩ := carry_of_ok (alone_send_iff.1 hsend)
        refine ⟨s₂, _, hcarried, hbegun.trans hstaged, fun s₃ cause hdelivered => ?_⟩
        have hlost : Runs (alone provider) (Client.commit v ticket) s₂ s₃ (.error cause) := by
          rw [Client.commit, if_neg hv]
          exact ask_iff.2 ⟨.error cause, alone_send_iff.2 hdelivered, rfl⟩
        exact Runs.bind_iff.2 ⟨s₁, _, hbegin, Runs.bind_iff.2 ⟨s₂, _, hstage,
          Runs.bind_iff.2 ⟨s₃, _, hlost, .done _ _⟩⟩⟩

section Cut

variable {s₁ : Site κ} {r₁ : Reconciler} {v : UInt64} {downstream : Bool} {rebuilt removed : Nat}

theorem runs_carryOut_cut {plan : Plan} (h : Runs (alone provider) (r.carryOut next plan) s s₁
    (r₁, .ok (.applied v downstream rebuilt removed))) :
    ∃ s₂ q r', (alone provider).retain (s₂.carry q) next.tlsMaterials s₁ ∧ Kept s s₂ ∧
      ∀ s₃ cause, Delivered s₂ q s₃ (.error cause) → cause.isVersionConflict = false →
        Runs (alone provider) (r.carryOut next plan) s s₃ (r', .error (.dataplane cause)) := by
  obtain ⟨hempty, versions, s', htransact, hretain⟩ := Reconciler.carryOut_applied h
  obtain ⟨s₂, q, rfl, hkept, hcut⟩ := runs_transact_cut htransact
  refine ⟨s₂, q, { r with force := true }, hretain, hkept, fun s₃ cause hdelivered hcause => ?_⟩
  have hconflict : (PassError.dataplane cause).isVersionConflict ≠ true := by
    rw [PassError.isVersionConflict, hcause]
    exact Bool.noConfusion
  have hrecover : Runs (alone provider) (r.recover (.dataplane cause)) s₃ s₃
      ({ r with force := true }, .error (.dataplane cause)) := by
    rw [Reconciler.recover, if_neg hconflict]
    exact .done _ _
  rw [Reconciler.carryOut, if_neg hempty]
  exact Runs.bind_iff.2 ⟨s₃, _, hcut s₃ cause hdelivered, hrecover⟩

/-- **A pass that may be applied may fail at its commit**, before the commit is
    carried out or after it. -/
theorem runs_apply_cut (h : Runs (alone provider) (r.apply next) s s₁
    (r₁, .ok (.applied v downstream rebuilt removed))) :
    ∃ s₂ q r', (alone provider).retain (s₂.carry q) next.tlsMaterials s₁ ∧ Kept s s₂ ∧
      ∀ s₃ cause, Delivered s₂ q s₃ (.error cause) → cause.isVersionConflict = false →
        Runs (alone provider) (r.apply next) s s₃ (r', .error (.dataplane cause)) := by
  rcases Reconciler.apply_applied h with ⟨hforce, s', tracked, inventory, htake, hcarryOut⟩ |
    ⟨hforce, hcarryOut⟩
  · have hstock := htake.keeps (keeps_kept provider next)
      (within_staging next (Reconciler.within_takeStock r.tracked))
    obtain ⟨s₂, q, r', hretain, hkept, hcut⟩ := runs_carryOut_cut hcarryOut
    refine ⟨s₂, q, r', hretain, hstock.trans hkept, fun s₃ cause hdelivered hcause => ?_⟩
    rw [Reconciler.apply, if_pos hforce]
    exact Runs.bind_iff.2 ⟨s', _, htake, hcut s₃ cause hdelivered hcause⟩
  · obtain ⟨s₂, q, r', hretain, hkept, hcut⟩ := runs_carryOut_cut hcarryOut
    refine ⟨s₂, q, r', hretain, hkept, fun s₃ cause hdelivered hcause => ?_⟩
    rw [Reconciler.apply, hforce, if_neg Bool.noConfusion]
    exact hcut s₃ cause hdelivered hcause

end Cut

/-! ## Runs -/

/-- What may happen: others use the store, or there is a pass with any trouble. -/
inductive Move (provider : Provider κ) : Site κ × Reconciler → Site κ × Reconciler → Prop
  | others {s : Site κ} {st : Store} {r : Reconciler} (used : Used s.store st) :
      Move provider (s, r) ({ s with store := st }, r)
  | pass {s s' : Site κ} {r r' : Reconciler} {next : Snapshot} {out : Except PassError Outcome}
      (runs : Runs (shared provider) (r.apply next) s s' (r', out)) :
      Move provider (s, r) (s', r')

/-- All that may happen from some time on. -/
abbrev Moves (provider : Provider κ) := Relation.ReflTransGen (Move provider)

/-- Whatever happens, only transactions that were opened since are committed. -/
theorem Moves.advances {x y : Site κ × Reconciler} (h : Moves provider x y) :
    Advances x.1 y.1 := by
  induction h with
  | refl => exact .refl x.1
  | tail _ step ih =>
      cases step with
      | others used => exact ih.trans (.used used)
      | pass runs => exact ih.trans (Reconciler.apply_advances runs)

theorem keeps_numbered (provider : Provider κ) : (shared provider).Keeps (passing next)
    fun s s' => s.store.Numbered → s'.store.Numbered where
  refl _ := id
  trans h h' := h' ∘ h
  send := by
    rintro s r s' a - ⟨st, hused, hdelivered⟩ h
    rcases carry_or_same hdelivered with rfl | rfl
    · exact h.used hused
    · rw [Site.carry_store]
      exact (h.used hused).handle r
  certs := by
    rintro s m _ a - ⟨rfl, -⟩
    exact id
  retain := by
    rintro s ms _ - rfl
    exact id

theorem Moves.numbered {x y : Site κ × Reconciler} (h : Moves provider x y)
    (hx : x.1.store.Numbered) : y.1.store.Numbered := by
  induction h with
  | refl => exact hx
  | tail _ step ih =>
      cases step with
      | others used => exact ih.used used
      | pass runs => exact runs.keeps (keeps_numbered provider) (Reconciler.within_apply _ _) ih

/-- A reconciler over a store without objects, before its first pass. -/
def outset (version tracked : UInt64) (options : Options) (files : κ) : Site κ × Reconciler :=
  (⟨.new version, files, []⟩, .new options tracked)

/-- **A failed pass is all or nothing.** In every state that a run can get into,
    whoever else uses the store: a pass that fails keeps the last commit, and
    the next pass finds something to do, whatever it is answered.  If nobody
    else was there, then objects and version are as they were, or else the
    commit was carried out and they are as a pass without trouble would have
    left them.  And whatever happens later, a request of the reconciler changes
    no objects at all or commits a transaction that was not open when the pass
    had failed, so nothing that was staged by then becomes visible by it. -/
theorem failed_pass_all_or_nothing {version tracked : UInt64} {options : Options} {files : κ}
    (h : Moves provider (outset version tracked options files) (s, r))
    (hrun : Runs (shared provider) (r.apply next) s s' (r', .error e)) :
    r'.applied = r.applied ∧
    (∀ {σ : Type} (env : Environment σ) (w w' : σ) (after : Snapshot) (r₂ : Reconciler)
      (out : Except PassError Outcome), Runs env (r'.apply after) w w' (r₂, out) →
      out ≠ .ok .unchanged) ∧
    (Runs (alone provider) (r.apply next) s s' (r', .error e) →
      Kept s s' ∨ (Commits s s' ∧ Succeeds provider (r.apply next) s s')) ∧
    (∀ (s₂ : Site κ) (r₂ : Reconciler), Moves provider (s', r') (s₂, r₂) →
      ∀ q ∈ s₂.since s', (∀ st : Store, (st.handle q).1.objects = st.objects) ∨
        ∃ id, Command.ofRequest q = .ok (.commit id) ∧ s'.store.transactions.get? id = none) := by
  obtain ⟨hforce, happlied, -⟩ := Reconciler.apply_error hrun
  have hnumbered : s'.store.Numbered :=
    Moves.numbered (h.tail (.pass hrun)) (.new version)
  refine ⟨happlied, fun env w w' after r₂ out h' => Reconciler.changed_of_force hforce h',
    Reconciler.apply_alone, fun s₂ r₂ hlater q hq => ?_⟩
  by_cases hcommit : ∃ id, Command.ofRequest q = .ok (.commit id)
  · obtain ⟨id, hid⟩ := hcommit
    obtain ⟨n, hn, rfl⟩ := hlater.advances.fresh q hq id hid
    exact .inr ⟨_, hid, hnumbered.later hn⟩
  · exact .inl fun st => (handle_leaves (.inl fun id hid => hcommit ⟨id, hid⟩)).2

/-- Certificate files that can always be had. -/
def ready (paths : TlsMaterial → Certificates.Paths) : Provider Unit where
  certs _ m := ((), .ok (paths m))
  retain _ _ := ()

/-- A store without objects, and certificate files that can always be had. -/
def fresh : Site Unit := ⟨.new 1, (), []⟩

theorem certs_ready (paths : TlsMaterial → Certificates.Paths) (files : Unit) (m : TlsMaterial) :
    ((ready paths).certs files m).2 = .ok (paths m) := rfl

/-- Where files can always be had, what a calm store does may happen. -/
theorem runs_calm {α : Type} {paths : TlsMaterial → Certificates.Paths}
    (hready : ∀ files m, (provider.certs files m).2 = .ok (paths m)) (d : Dialogue α)
    (s : Site κ) : Runs (alone provider) d s (d.run (quiet provider) s).1
      (d.run (calm paths) s.store).2 := by
  have hallows : (alone provider).Allows (quiet provider) := alone_allows_quiet
  rw [← (run_quiet hready d s).2]
  exact Runs.of_run hallows d s

theorem fixed_ready (paths : TlsMaterial → Certificates.Paths) : Fixed (ready paths) paths :=
  fun _ _ _ h => (Except.ok.inj h).symm

/-- The answer to the commit of the first pass of a reconciler gets lost. -/
theorem runs_first_muted : ∃ s' r', Runs (alone (ready oneFile))
    ((Reconciler.new .standard 1).apply (nodeOn 20000)) fresh s'
    (r', .error (.dataplane .http)) := by
  obtain ⟨st, r₁, d, rebuilt, removed, hrun⟩ := run_first 1 20000
  have hruns := runs_calm (certs_ready oneFile)
    ((Reconciler.new .standard 1).apply (nodeOn 20000)) fresh
  rw [show fresh.store = Store.new 1 from rfl, hrun] at hruns
  obtain ⟨s₂, q, r', -, -, hcut⟩ := runs_apply_cut hruns
  exact ⟨_, r', hcut _ .http (.muted _) rfl⟩

/-- A first pass that loses the answer to its commit leaves the store as it
    was, or as a pass that succeeds would have. -/
theorem first_pass_all_or_nothing : ∃ (s' : Site Unit) (r' : Reconciler),
    Runs (alone (ready oneFile)) ((Reconciler.new .standard 1).apply (nodeOn 20000)) fresh s'
      (r', .error (.dataplane .http)) ∧
    r'.applied = none ∧
    (Kept fresh s' ∨ (Commits fresh s' ∧
      Succeeds (ready oneFile) ((Reconciler.new .standard 1).apply (nodeOn 20000)) fresh s')) := by
  obtain ⟨s', r', hrun⟩ := runs_first_muted
  have hreached : Moves (ready oneFile) (outset 1 1 .standard ())
      (fresh, .new .standard 1) := .refl
  obtain ⟨happlied, -, halone, -⟩ := failed_pass_all_or_nothing hreached (shared_of_alone hrun)
  exact ⟨s', r', hrun, happlied, halone hrun⟩

end MeshSync.Reconcile
