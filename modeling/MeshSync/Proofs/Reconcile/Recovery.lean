import MeshSync.Proofs.Reconcile.Convergence

/-! # Recovery

    After a failed pass the next one that is left alone succeeds, whatever the
    failed one left behind; so of two passes in a row that are left alone the
    second succeeds (`recovers`).  There is one exception: a pass that finds
    nothing to do does not look at the store, so it does not find out that
    others have committed, and the next pass is the one that does
    (`second_pass_may_fail`). -/

namespace MeshSync.Reconcile

open Dataplane
open Dialogue (Runs)

variable {paths : TlsMaterial → Certificates.Paths} {options : Options} {next : Snapshot}
  {s s' : Store} {r r' : Reconciler} {out : Except PassError Outcome}
  {last : Option (Except PassError Outcome)}

/-- A pass that nothing disturbs: the store and the reconciler after it, and its
    result. -/
def undisturbed (paths : TlsMaterial → Certificates.Paths) (s : Store) (r : Reconciler)
    (next : Snapshot) : Store × Reconciler × Except PassError Outcome :=
  (r.apply next).run (calm paths) s

theorem runs_undisturbed (paths : TlsMaterial → Certificates.Paths) (s : Store)
    (r : Reconciler) (next : Snapshot) :
    Runs (troubled paths) (r.apply next) s (undisturbed paths s r next).1
      (undisturbed paths s r next).2 :=
  Runs.of_run troubled_allows_calm _ s

/-- After a failed pass the next one starts from the store. -/
theorem Reached.force (h : Reached paths options s r last) (hlast : ∃ e, last = some (.error e)) :
    r.force = true := by
  obtain ⟨e, he⟩ := hlast
  induction h with
  | start formed initially read => exact nomatch he
  | foreign before others ih => exact ih he
  | pass before valid runs ih =>
      obtain rfl := Option.some.inj he
      rcases apply_runs before.sane valid runs with ⟨-, -, hu⟩ | hf | ha
      · exact nomatch hu.outcome
      · exact hf.force
      · obtain ⟨d, rebuilt, removed, hout⟩ := ha.outcome
        exact nomatch hout

/-- **A pass after a failed one succeeds** if it is left alone. -/
theorem applied_after_failure (hs : Sane paths options s r) (hnext : next.Valid)
    (hr : r.force = true) : ∃ v d rebuilt removed,
      (undisturbed paths s r next).2.2 = .ok (.applied v d rebuilt removed) := by
  rcases run_apply hs hnext (.inl hr) with ⟨-, hforce, -⟩ | ⟨s', r', d, b, c, hrun⟩
  · rw [hr] at hforce
    exact nomatch hforce
  · exact ⟨_, d, b, c, by rw [undisturbed, hrun]⟩

/-- A pass that knows the store succeeds if it is left alone. -/
theorem ok_of_known (hs : Sane paths options s r) (hnext : next.Valid) {previous : Snapshot}
    (hp : r.applied = some previous) (hv : r.tracked = s.version) :
    ∃ out, (undisturbed paths s r next).2.2 = .ok out := by
  cases hr : r.force with
  | true =>
      obtain ⟨v, d, b, c, hout⟩ := applied_after_failure hs hnext hr
      exact ⟨_, hout⟩
  | false =>
      have hknows := hs.knows hr hv
      rw [hp] at hknows
      obtain ⟨served, hsame, hserves⟩ := hknows
      have haccurate : (Plan.between r.applied next).Accurate paths options next s.objects := by
        rw [hp]
        exact Plan.between_accurate (hs.valid previous hp) hsame hserves
      rcases run_apply hs hnext (.inr ⟨hv, haccurate⟩) with ⟨-, -, hrun⟩ | ⟨s', r', d, b, c, hrun⟩
      · exact ⟨.unchanged, by rw [undisturbed, hrun]⟩
      · exact ⟨_, by rw [undisturbed, hrun]⟩

/-- A plan that has nothing to do knows of a committed snapshot. -/
theorem committed_of_isEmpty {before : Option Snapshot}
    (h : (Plan.between before next).isEmpty = true) : ∃ previous, before = some previous := by
  cases before with
  | none => exact nomatch h
  | some previous => exact ⟨previous, rfl⟩

/-- A pass with something to do fails at a version that others have raised. -/
theorem error_of_stale (hr : r.force = false)
    (hplan : (Plan.between r.applied next).isEmpty = false) (hv : r.tracked ≠ s.version) :
    ∃ e, (undisturbed paths s r next).2.2 = .error e := by
  obtain ⟨e, he⟩ := Reconciler.run_transact_stale paths hv
    ((Plan.between r.applied next).parts next r.options)
  have hallows : (troubled paths).Allows (calm paths) := troubled_allows_calm
  have hrecover := Runs.of_run hallows (r.recover e) s
  refine ⟨e, ?_⟩
  rw [undisturbed, Reconciler.apply, hr, if_neg Bool.noConfusion, Reconciler.carryOut, hplan,
    if_neg Bool.noConfusion, Dialogue.run_bind, he]
  exact (Reconciler.recover_runs hrecover).2.1

/-- A snapshot that was just committed leaves nothing to do. -/
theorem isEmpty_between_self (hnext : next.Valid) :
    (Plan.between (some next) next).isEmpty = true := by
  have hremoved : (Plan.between (some next) next).removed = [] := by
    refine List.eq_nil_iff_forall_not_mem.2 fun x hx => ?_
    obtain ⟨⟨u, hu, hservice⟩, hgone, -⟩ := Plan.mem_removed_between hnext hx
    exact hgone u hu hservice
  have hrebuilt : (Plan.between (some next) next).rebuilt = [] :=
    List.filterMap_eq_nil_iff.2 fun u hu =>
      (Plan.rebuild?_eq_none_iff hnext u).2 ⟨u, hu, by simp [Upstream.same]⟩
  have hdownstream : (Plan.between (some next) next).downstream = none :=
    Plan.downstream_between_iff.2 rfl
  rw [Plan.isEmpty, hdownstream, hremoved, hrebuilt]
  rfl

/-- The first pass of a reconciler fails because its first request gets lost. -/
theorem reached_failed : ∃ r, Reached oneFile .standard (Store.new 1) r
    (some (.error (.dataplane .http))) := by
  have hbegin : Runs (troubled oneFile) (Client.begin 1) (Store.new 1) (Store.new 1)
      (.error .http) :=
    ask_iff.2 ⟨.error .http, ⟨Store.new 1, .inl rfl, .lost .http⟩, rfl⟩
  have htransact (parts : List Part) : Runs (troubled oneFile) (Reconciler.transact 1 parts)
      (Store.new 1) (Store.new 1) (.error (.dataplane .http)) :=
    Runs.bind_iff.2 ⟨_, _, hbegin, .done _ _⟩
  have hruns : Runs (troubled oneFile) ((Reconciler.new .standard 1).apply (nodeOn 20000))
      (Store.new 1) (Store.new 1)
      ({ Reconciler.new .standard 1 with force := true }, .error (.dataplane .http)) :=
    Runs.bind_iff.2 ⟨_, _, htransact _, .done _ _⟩
  exact ⟨_, .pass (reached_new 1) (valid_nodeOn 20000) hruns⟩

/-- **Recovery in at most one failed pass.** In every state that a run can get
    into, of two passes in a row that are left alone the second succeeds, unless
    the first had nothing to do, others had committed before it, and the second
    has something to do; and after a failed pass already the first succeeds, by
    a commit. -/
theorem recovers (h : Reached paths options s r last) {first second : Snapshot}
    (h₁ : first.Valid) (h₂ : second.Valid) :
    ((∃ out, (undisturbed paths (undisturbed paths s r first).1 (undisturbed paths s r first).2.1
        second).2.2 = .ok out) ↔
      ¬ ((undisturbed paths s r first).2.2 = .ok .unchanged ∧ r.tracked ≠ s.version ∧
        (Plan.between r.applied second).isEmpty = false)) ∧
    ((∃ e, last = some (.error e)) → ∃ v d rebuilt removed,
      (undisturbed paths s r first).2.2 = .ok (.applied v d rebuilt removed)) := by
  have hs := h.sane
  have hruns := runs_undisturbed paths s r first
  refine ⟨?_, fun hlast => applied_after_failure hs h₁ (h.force hlast)⟩
  generalize undisturbed paths s r first = after at hruns ⊢
  obtain ⟨s', r', out⟩ := after
  have hs' := hs.pass h₁ hruns
  dsimp only at hs' ⊢
  -- by what the first pass came to; only one that did nothing may leave a stale version
  rcases apply_runs hs h₁ hruns with ⟨hr, hempty, hu⟩ | hf | ha
  · obtain ⟨previous, hp⟩ := committed_of_isEmpty hempty
    obtain ⟨rfl, rfl, rfl⟩ := hu
    constructor
    · rintro ⟨out, hout⟩ ⟨-, hv, hplan⟩
      obtain ⟨e, he⟩ := error_of_stale hr hplan hv
      cases he.symm.trans hout
    · intro hnot
      by_cases hv : r'.tracked = s'.version
      · exact ok_of_known hs h₂ hp hv
      · cases hplan : (Plan.between r'.applied second).isEmpty with
        | false => exact absurd ⟨rfl, hv, hplan⟩ hnot
        | true =>
            refine ⟨.unchanged, ?_⟩
            rw [undisturbed, Reconciler.apply, hr, if_neg Bool.noConfusion,
              Reconciler.run_carryOut_empty hplan]
  · obtain ⟨e, rfl⟩ := hf.outcome
    obtain ⟨v, d, b, c, hout⟩ := applied_after_failure hs' h₂ hf.force
    exact ⟨fun _ hnot => (by cases hnot.1), fun _ => ⟨_, hout⟩⟩
  · obtain ⟨d, b, c, hout⟩ := ha.outcome
    obtain rfl : out = .ok (.applied s'.version d b c) := hout
    have hp : r'.applied = some first := by rw [ha.reconciler]
    have hv : r'.tracked = s'.version := by rw [ha.reconciler]
    exact ⟨fun _ hnot => (by cases hnot.1), fun _ => ok_of_known hs' h₂ hp hv⟩

theorem recovers_after_lost_request : ∃ r v d rebuilt removed out,
    Reached oneFile .standard (Store.new 1) r (some (.error (.dataplane .http))) ∧
      (undisturbed oneFile (Store.new 1) r (nodeOn 20000)).2.2 =
        .ok (.applied v d rebuilt removed) ∧
      (undisturbed oneFile (undisturbed oneFile (Store.new 1) r (nodeOn 20000)).1
        (undisturbed oneFile (Store.new 1) r (nodeOn 20000)).2.1 (nodeOn 20001)).2.2 = .ok out := by
  obtain ⟨r, h⟩ := reached_failed
  obtain ⟨hsecond, hfirst⟩ := recovers h (valid_nodeOn 20000) (valid_nodeOn 20001)
  obtain ⟨v, d, rebuilt, removed, happlied⟩ := hfirst ⟨_, rfl⟩
  obtain ⟨out, hout⟩ := hsecond.2 fun hnot => by
    rw [happlied] at hnot
    exact nomatch hnot.1
  exact ⟨r, v, d, rebuilt, removed, out, h, happlied, hout⟩

/-- The first pass of a reconciler over an empty store is applied. -/
theorem reached_committed : ∃ s r out, Reached oneFile .standard s r (some (.ok out)) ∧
    r.force = false ∧ r.applied = some (nodeOn 20000) ∧ r.tracked = s.version ∧ s.version = 2 ∧
      Converged oneFile .standard (nodeOn 20000) s.objects := by
  obtain ⟨s, r, d, rebuilt, removed, hrun⟩ := run_first 1 20000
  have hruns := runs_undisturbed oneFile (Store.new 1) (.new .standard 1) (nodeOn 20000)
  rw [undisturbed, hrun] at hruns
  have hs : Sane oneFile .standard _ _ := (reached_new 1).sane
  rcases apply_runs hs (valid_nodeOn 20000) hruns with ⟨-, -, hu⟩ | hf | ha
  · exact nomatch hu.outcome
  · obtain ⟨e, he⟩ := hf.outcome
    exact nomatch he
  · obtain ⟨d', b', c', hout⟩ := ha.outcome
    have hversion : 2 = s.version := (Outcome.applied.inj (Except.ok.inj hout)).1
    refine ⟨s, r, _, .pass (reached_new 1) (valid_nodeOn 20000) hruns, ?_⟩
    rw [ha.reconciler]
    exact ⟨rfl, rfl, rfl, hversion.symm, ha.converged⟩

/-- Others commit after that. -/
theorem reached_behind : ∃ s r last, Reached oneFile .standard s r last ∧ r.force = false ∧
    r.applied = some (nodeOn 20000) ∧ r.tracked ≠ s.version := by
  obtain ⟨s, r, out, hreached, hforce, happlied, htracked, hversion, -⟩ := reached_committed
  have hforeign : Foreign s s.bump := by
    refine ⟨?_, hreached.sane.formed, fun id t ht => ht⟩
    show s.version < s.version + 1
    rw [hversion]
    decide
  refine ⟨s.bump, r, _, .foreign hreached hforeign, hforce, happlied, ?_⟩
  rw [htracked]
  exact fun heq => UInt64.lt_irrefl _ (heq ▸ hforeign.raised)

/-- **The second of two passes may fail**: the first finds nothing to do and does
    not look at the store. -/
theorem second_pass_may_fail : ¬ ∀ (paths : TlsMaterial → Certificates.Paths) (options : Options)
    (s : Store) (r : Reconciler) (last : Option (Except PassError Outcome))
    (first second : Snapshot), Reached paths options s r last → first.Valid → second.Valid →
    ∃ out, (undisturbed paths (undisturbed paths s r first).1 (undisturbed paths s r first).2.1
      second).2.2 = .ok out := by
  intro hall
  obtain ⟨s, r, last, h, hforce, happlied, hv⟩ := reached_behind
  have hfirst : undisturbed oneFile s r (nodeOn 20000) = (s, r, .ok .unchanged) := by
    rw [undisturbed, Reconciler.apply, hforce, if_neg Bool.noConfusion, happlied,
      Reconciler.run_carryOut_empty (isEmpty_between_self (valid_nodeOn 20000))]
  have hplan : (Plan.between r.applied (nodeOn 20001)).isEmpty = false := by
    rw [happlied]
    rfl
  obtain ⟨out, hout⟩ := hall oneFile .standard s r last (nodeOn 20000) (nodeOn 20001) h
    (valid_nodeOn 20000) (valid_nodeOn 20001)
  rw [hfirst] at hout
  obtain ⟨e, he⟩ := error_of_stale hforce hplan hv
  cases he.symm.trans hout

end MeshSync.Reconcile
