import MeshSync.Proofs.Reconcile.Passes

/-! # Applied means converged

    Requests and answers get lost, certificate files cannot be had, and others
    commit in between; still a pass that reports that it was applied leaves the
    listeners of its snapshot standing, and nothing else of the reconciler's.
    The route:

    * what a pass plans from is `Sane`: unless the last pass failed, the store
      has not fallen behind the tracked version, and at that version it holds
      what was committed last;
    * a transaction that is committed was opened at the version that the plan
      was made for, so the plan was right about the objects it changed
      (`carryOut_runs`);
    * every pass leaves its reconciler sane, whatever became of it
      (`apply_runs`, `Sane.pass`), and so does everybody else
      (`Sane.foreign`). -/

namespace MeshSync.Reconcile

open Dataplane
open Dialogue (Runs)

variable {paths : TlsMaterial → Certificates.Paths} {options : Options} {next : Snapshot}
  {s s' : Store} {r r' : Reconciler} {out : Except PassError Outcome}

/-- Whether a snapshot is served, as it asks for it or as another one did that
    asks for the same. -/
def Converged (paths : TlsMaterial → Certificates.Paths) (options : Options) (next : Snapshot)
    (objects : Objects) : Prop :=
  ∃ served : Snapshot, served.same next = true ∧ Serves paths options served objects

/-! ## What a pass may have done -/

/-- A pass that was applied: the snapshot is served, at the version that is
    reported and tracked, and the commit touched nobody else's objects. -/
structure Applied (paths : TlsMaterial → Certificates.Paths) (options : Options)
    (next : Snapshot) (s s' : Store) (r r' : Reconciler) (out : Except PassError Outcome) :
    Prop where
  outcome : ∃ d rebuilt removed, out = .ok (.applied s'.version d rebuilt removed)
  reconciler : r' = { r with tracked := s'.version, applied := some next, force := false }
  converged : Converged paths options next s'.objects
  formed : s'.objects.WellFormed
  before : ∃ m, Drift s m ∧ s'.version = m.version + 1 ∧
    ∀ k, ¬ Owned k → s'.objects.get? k = m.objects.get? k

/-- A pass that failed: it committed nothing, or else the snapshot was served by
    its commit, and the next pass starts from the store. -/
structure Failed (paths : TlsMaterial → Certificates.Paths) (options : Options)
    (next : Snapshot) (s s' : Store) (r r' : Reconciler) (out : Except PassError Outcome) :
    Prop where
  outcome : ∃ e, out = .error e
  force : r'.force = true
  kept : r'.options = r.options ∧ r'.applied = r.applied
  formed : s'.objects.WellFormed
  store : ∃ m, (Drift s m ∨ Converged paths options next m.objects) ∧ Drift m s'

/-- A pass that had nothing to do. -/
structure Unchanged (s s' : Store) (r r' : Reconciler) (out : Except PassError Outcome) :
    Prop where
  outcome : out = .ok .unchanged
  store : s' = s
  reconciler : r' = r

namespace Reconciler

theorem recover_runs {e : PassError} (h : Runs (troubled paths) (r.recover e) s s' (r', out)) :
    Drift s s' ∧ out = .error e ∧ r'.force = true ∧ r'.options = r.options ∧
      r'.applied = r.applied := by
  rw [recover] at h
  split at h
  · obtain ⟨s₁, answer, hread, hdone⟩ := Runs.bind_iff.1 h
    have hdrift := (refreshVersion_runs hread).1
    cases answer with
    | ok version =>
        obtain ⟨rfl, heq⟩ := Runs.done_iff.1 hdone
        obtain ⟨rfl, rfl⟩ := Prod.mk.inj heq
        exact ⟨hdrift, rfl, rfl, rfl, rfl⟩
    | error cause =>
        obtain ⟨rfl, heq⟩ := Runs.done_iff.1 hdone
        obtain ⟨rfl, rfl⟩ := Prod.mk.inj heq
        exact ⟨hdrift, rfl, rfl, rfl, rfl⟩
  · obtain ⟨rfl, heq⟩ := Runs.done_iff.1 h
    obtain ⟨rfl, rfl⟩ := Prod.mk.inj heq
    exact ⟨.refl s', rfl, rfl, rfl, rfl⟩

/-- A commit of a plan that was right about the version it was made for serves
    the snapshot and leaves the rest alone. -/
theorem converged_of_committed {plan : Plan} {v : UInt64} {m : Store}
    (hformed : s.objects.WellFormed) (hsound : plan.Sound next) (hnext : next.Valid)
    (hright : ∀ s₁ o, Drift s s₁ → s₁.version = v →
      s₁.objects.applyAll (plan.changes paths options next) = .ok o →
      plan.Accurate paths options next s₁.objects)
    (h : Committed v (plan.changes paths options next) s m) :
    m.objects.WellFormed ∧ Converged paths options next m.objects ∧
      ∃ s₁, Drift s s₁ ∧ m.version = s₁.version + 1 ∧
        ∀ k, ¬ Owned k → m.objects.get? k = s₁.objects.get? k := by
  obtain ⟨⟨s₁, hdrift, hv, hall⟩, hversion⟩ := h
  have hwf := hdrift.formed hformed
  have haccurate := hright s₁ _ hdrift hv hall
  refine ⟨hwf.applyAll (fun p hp => absurd hp List.not_mem_nil) (hsound.orderly hnext) hall,
    Plan.serves_of_plan hsound hnext hwf haccurate hall, s₁, hdrift, by rw [hversion, hv], ?_⟩
  exact fun k hk => Plan.untouched hsound hnext hall hk

/-- **What carrying out a plan does**, if the plan was right about the version it
    was made for. -/
theorem carryOut_runs {plan : Plan} (hformed : s.objects.WellFormed) (hsound : plan.Sound next)
    (hnext : next.Valid) (hoptions : r.options = options)
    (hright : ∀ s₁ o, Drift s s₁ → s₁.version = r.tracked →
      s₁.objects.applyAll (plan.changes paths options next) = .ok o →
      plan.Accurate paths options next s₁.objects)
    (h : Runs (troubled paths) (r.carryOut next plan) s s' (r', out)) :
    (plan.isEmpty = true ∧ Unchanged s s' r r' out) ∨ Failed paths options next s s' r r' out ∨
      Applied paths options next s s' r r' out := by
  rw [carryOut] at h
  split at h
  · rename_i hempty
    obtain ⟨rfl, heq⟩ := Runs.done_iff.1 h
    obtain ⟨rfl, rfl⟩ := Prod.mk.inj heq
    exact .inl ⟨hempty, rfl, rfl, rfl⟩
  · obtain ⟨m, res, htransact, hrest⟩ := Runs.bind_iff.1 h
    rw [hoptions] at htransact
    have hcommitted := converged_of_committed hformed hsound hnext hright (m := m)
    rcases transact_runs (hsound.legible hnext) htransact with ⟨⟨e, rfl⟩, hmade⟩ | ⟨rfl, hmade⟩
    · obtain ⟨hdrift, hout, hforce, hkept⟩ := recover_runs hrest
      refine .inr (.inl ⟨⟨e, hout⟩, hforce, hkept, ?_, m, ?_, hdrift⟩)
      · rcases hmade with hnothing | hmade
        · exact hdrift.formed (hnothing.formed hformed)
        · exact hdrift.formed (hcommitted hmade).1
      · rcases hmade with hnothing | hmade
        · exact .inl hnothing
        · exact .inr (hcommitted hmade).2.1
    · obtain ⟨s₁, rfl, hdone⟩ := Runs.retain_iff.1 hrest
      obtain ⟨rfl, heq⟩ := Runs.done_iff.1 hdone
      obtain ⟨rfl, rfl⟩ := Prod.mk.inj heq
      obtain ⟨hwf, hconverged, hbefore⟩ := hcommitted hmade
      have hversion := hmade.version
      exact .inr (.inr ⟨⟨_, _, _, by rw [hversion]⟩, by rw [hversion], hconverged, hwf, hbefore⟩)

end Reconciler

/-! ## What passes rely on -/

/-- What a reconciler knows of the objects at the version it tracks: those that
    it committed last; or, before its first commit, that there are none of its
    listeners or that the downstream is there already. -/
def Knows (paths : TlsMaterial → Certificates.Paths) (options : Options) (objects : Objects) :
    Option Snapshot → Prop
  | none => Clear objects ∨ ∃ v, objects.get? Listener.downstream.front = some v
  | some previous => Converged paths options previous objects

/-- Whether a reconciler can rely on what it knows of a store. -/
structure Sane (paths : TlsMaterial → Certificates.Paths) (options : Options) (s : Store)
    (r : Reconciler) : Prop where
  settings : r.options = options
  formed : s.objects.WellFormed
  valid : ∀ previous, r.applied = some previous → previous.Valid
  behind : r.force = false → r.tracked ≤ s.version
  knows : r.force = false → r.tracked = s.version → Knows paths options s.objects r.applied

namespace Sane

/-- Others raise the version, which leaves nothing to be known. -/
theorem foreign (h : Sane paths options s r) (hf : Foreign s s') : Sane paths options s' r := by
  refine ⟨h.settings, hf.formed, h.valid, fun hr => ?_, fun hr heq => ?_⟩
  · exact UInt64.le_of_lt (hf.outruns (h.behind hr))
  · -- the tracked version was not ahead of the store, so it cannot be the new one
    exact absurd heq (UInt64.ne_of_lt (hf.outruns (h.behind hr)))

/-- After a failure nothing is taken to be known. -/
theorem failed (h : Sane paths options s r) (hf : Failed paths options next s s' r r' out) :
    Sane paths options s' r' := by
  have hforce : r'.force ≠ false := by
    rw [hf.force]
    exact Bool.noConfusion
  refine ⟨hf.kept.1.trans h.settings, hf.formed, fun previous hp => ?_, fun hr => absurd hr hforce,
    fun hr => absurd hr hforce⟩
  exact h.valid previous (hf.kept.2.symm.trans hp)

/-- After a commit the objects are known at the new version. -/
theorem applied (h : Sane paths options s r) (hnext : next.Valid)
    (ha : Applied paths options next s s' r r' out) : Sane paths options s' r' := by
  rw [ha.reconciler]
  refine ⟨h.settings, ha.formed, fun previous hp => ?_, fun _ => UInt64.le_refl _,
    fun _ _ => ha.converged⟩
  rw [← Option.some.inj hp]
  exact hnext

end Sane

/-! ## Planning -/

/-- What is planned from the last committed snapshot is right at the tracked
    version, or does not go through. -/
theorem between_right (h : Sane paths options s r) (hnext : next.Valid) (hr : r.force = false)
    {s₁ : Store} {o : Objects} (hdrift : Drift s s₁) (hv : s₁.version = r.tracked)
    (hall : s₁.objects.applyAll ((Plan.between r.applied next).changes paths options next) =
      .ok o) :
    (Plan.between r.applied next).Accurate paths options next s₁.objects := by
  obtain ⟨hversion, hobjects⟩ := hdrift.still (h.behind hr) hv
  have hknows := h.knows hr hversion
  rw [hobjects] at hall ⊢
  cases hp : r.applied with
  | none =>
      rw [hp] at hknows hall
      rcases hknows with hclear | hpresent
      · exact Plan.between_none_accurate hclear
      · -- the downstream cannot be created where it is
        have hsound : (Plan.between none next).Sound next := Plan.between_sound nofun hnext
        have hbuilds : Builds .downstream (downstreamOps paths options next) :=
          builds_downstream next.downstream options
        obtain ⟨o', hfirst, -⟩ := Plan.done_to hsound hnext hall
          (x := (.downstream,
            replaceChanges .downstream .neither (downstreamOps paths options next)))
          (List.mem_append_left _ List.mem_cons_self)
        obtain ⟨c, hc, hkey⟩ := List.mem_map.1 hbuilds.mem_front
        have habsent := absent_of_applyAll_creates hbuilds.creates_changes hfirst c hc
        obtain ⟨v, hv⟩ := hpresent
        rw [hkey, hv] at habsent
        exact nomatch habsent
  | some previous =>
      rw [hp] at hknows
      obtain ⟨served, hsame, hserves⟩ := hknows
      exact Plan.between_accurate (h.valid previous hp) hsame hserves

/-- **A listing is right at the version that was read before it.** -/
theorem right_of_listed {t : UInt64} {i : Inventory} {s₁ s₂ s₃ s₄ : Store}
    (hwf : s₄.objects.WellFormed) (ht : t = s₁.version) (h₂ : Drift s₁ s₂) (h₃ : Drift s₂ s₃)
    (hi : i = ⟨s₂.listed "frontends", s₃.listed "backends"⟩) (h₄ : Drift s₃ s₄)
    (hv : s₄.version = t) : Plan.Right i s₄.objects := by
  have hle : s₄.version ≤ s₁.version := by
    rw [hv, ht]
    exact UInt64.le_refl _
  -- nobody committed while the listing was read, since the version is the same
  have heq₄ := (((h₂.trans h₃).trans h₄).objects_eq hle).2
  have heq₃ := ((h₂.trans h₃).objects_eq (UInt64.le_trans h₄.version_le hle)).2
  have heq₂ := (h₂.objects_eq (UInt64.le_trans (h₃.trans h₄).version_le hle)).2
  have hlisted : ∀ {a b : Store} (kind : String), a.objects = b.objects →
      a.listed kind = b.listed kind := by
    intro a b kind hab
    rw [Store.listed, Store.objectsOf, hab]
    rfl
  rw [hi, hlisted "frontends" (heq₂.trans heq₄.symm), hlisted "backends" (heq₃.trans heq₄.symm)]
  exact Plan.right_listed hwf

/-! ## Passes -/

/-- **What a pass does**, in whatever state the last one and everybody else have
    left the store. -/
theorem apply_runs (hs : Sane paths options s r) (hnext : next.Valid)
    (h : Runs (troubled paths) (r.apply next) s s' (r', out)) :
    (r.force = false ∧ (Plan.between r.applied next).isEmpty = true ∧ Unchanged s s' r r' out) ∨
      Failed paths options next s s' r r' out ∨ Applied paths options next s s' r r' out := by
  rw [Reconciler.apply] at h
  cases hr : r.force with
  | false =>
      rw [hr, if_neg Bool.noConfusion] at h
      have hsound := Plan.between_sound hs.valid hnext
      rcases Reconciler.carryOut_runs hs.formed hsound hnext hs.settings
        (fun s₁ o hdrift hv hall => between_right hs hnext hr hdrift hv hall) h with
        ⟨hempty, hunchanged⟩ | hrest
      · exact .inl ⟨rfl, hempty, hunchanged⟩
      · exact .inr hrest
  | true =>
      rw [hr, if_pos rfl] at h
      -- the pass reads the store first, and is then planned at the version it read
      obtain ⟨s₃, ⟨t, stock⟩, htake, hrest⟩ := Runs.bind_iff.1 h
      obtain ⟨hdrift, hstock⟩ := Reconciler.takeStock_runs htake
      have hformed := hdrift.formed hs.formed
      cases stock with
      | error e =>
          obtain ⟨rfl, heq⟩ := Runs.done_iff.1 hrest
          obtain ⟨rfl, rfl⟩ := Prod.mk.inj heq
          exact .inr (.inl ⟨⟨e, rfl⟩, rfl, ⟨rfl, rfl⟩, hformed, s', .inl hdrift, .refl s'⟩)
      | ok i =>
          obtain ⟨s₁, s₂, h₁, ht, h₂, h₃, hi⟩ := hstock i rfl
          have hservices : ∀ service ∈ i.services, Url.Unreserved service := by
            rw [hi]
            exact Plan.unreserved_services ((h₁.trans h₂).formed hs.formed) hformed
          have hsound := Plan.fromStore_sound hservices hnext
          rcases Reconciler.carryOut_runs (r := { r with tracked := t }) hformed hsound hnext
            hs.settings (fun s₄ o h₄ hv _ => Plan.fromStore_accurate (h₄.formed hformed)
              (right_of_listed (h₄.formed hformed) ht h₂ h₃ hi h₄ hv)) hrest
            with ⟨hempty, -⟩ | hfailed | happlied
          · exact nomatch hempty
          · refine .inr (.inl ⟨hfailed.outcome, hfailed.force, hfailed.kept, hfailed.formed, ?_⟩)
            obtain ⟨m, hm, hlast⟩ := hfailed.store
            exact ⟨m, hm.imp_left hdrift.trans, hlast⟩
          · refine .inr (.inr ⟨happlied.outcome, happlied.reconciler, happlied.converged,
              happlied.formed, ?_⟩)
            obtain ⟨m, hm, hrest⟩ := happlied.before
            exact ⟨m, hdrift.trans hm, hrest⟩

/-- A pass leaves its reconciler sane. -/
theorem Sane.pass (hs : Sane paths options s r) (hnext : next.Valid)
    (h : Runs (troubled paths) (r.apply next) s s' (r', out)) : Sane paths options s' r' := by
  rcases apply_runs hs hnext h with ⟨-, -, hunchanged⟩ | hfailed | happlied
  · rw [hunchanged.store, hunchanged.reconciler]
    exact hs
  · exact hs.failed hfailed
  · exact hs.applied hnext happlied

/-- A pass on its own succeeds after a failure, and also where what it knows is
    right. -/
theorem run_apply (hs : Sane paths options s r) (hnext : next.Valid)
    (h : r.force = true ∨ (r.tracked = s.version ∧
      (Plan.between r.applied next).Accurate paths options next s.objects)) :
    ((Plan.between r.applied next).isEmpty = true ∧ r.force = false ∧
        (r.apply next).run (calm paths) s = (s, r, .ok .unchanged)) ∨
      ∃ s' r' d rebuilt removed, (r.apply next).run (calm paths) s =
        (s', r', .ok (.applied (s.version + 1) d rebuilt removed)) := by
  -- a forced pass plans from the lists of the store, any other from the last snapshot applied
  cases hr : r.force with
  | true =>
      have hservices := Plan.unreserved_services hs.formed hs.formed
      have hsound := Plan.fromStore_sound hservices hnext
      have haccurate : (Plan.fromStore ⟨s.listed "frontends", s.listed "backends"⟩ next).Accurate
          paths options next s.objects :=
        Plan.fromStore_accurate hs.formed (Plan.right_listed hs.formed)
      obtain ⟨o, ho⟩ := Plan.exists_applyAll_plan hsound hnext hs.formed haccurate
      rw [← hs.settings] at ho
      obtain ⟨s', r', d, rebuilt, removed, hrun⟩ := Reconciler.run_carryOut
        (r := { r with tracked := s.version }) rfl hsound hnext rfl ho
      refine .inr ⟨s', r', d, rebuilt, removed, ?_⟩
      rw [Reconciler.apply, if_pos hr, Dialogue.run_bind, Reconciler.run_takeStock]
      exact hrun
  | false =>
      obtain ⟨hv, haccurate⟩ := h.resolve_left (by rw [hr]; exact Bool.noConfusion)
      rw [Reconciler.apply, hr, if_neg Bool.noConfusion]
      cases hempty : (Plan.between r.applied next).isEmpty with
      | true => exact .inl ⟨rfl, rfl, Reconciler.run_carryOut_empty hempty⟩
      | false =>
          have hsound := Plan.between_sound hs.valid hnext
          obtain ⟨o, ho⟩ := Plan.exists_applyAll_plan hsound hnext hs.formed haccurate
          rw [← hs.settings] at ho
          obtain ⟨s', r', d, rebuilt, removed, hrun⟩ :=
            Reconciler.run_carryOut hempty hsound hnext hv ho
          exact .inr ⟨s', r', d, rebuilt, removed, hrun⟩

/-! ## Runs of a reconciler -/

/-- Whether the objects are those that an earlier reconciler committed last. -/
def Leftover (objects : Objects) : Prop :=
  ∃ paths options, ∃ previous : Snapshot, previous.Valid ∧ Converged paths options previous objects

/-- The states that a store and a reconciler get into, with the result of the
    last pass: they begin with the version read from a store that holds nothing
    of any reconciler, or what an earlier one left; others commit changes; and
    there are passes, with any trouble. -/
inductive Reached (paths : TlsMaterial → Certificates.Paths) (options : Options) :
    Store → Reconciler → Option (Except PassError Outcome) → Prop
  | start {s : Store} {v : UInt64} (formed : s.objects.WellFormed)
      (initially : Clear s.objects ∨ Leftover s.objects)
      (read : (Client.refreshVersion.run (calm paths) s).2 = .ok v) :
      Reached paths options s (.new options v) none
  | foreign {s s' : Store} {r : Reconciler} {last : Option (Except PassError Outcome)}
      (before : Reached paths options s r last) (others : Foreign s s') :
      Reached paths options s' r last
  | pass {s s' : Store} {r r' : Reconciler} {last : Option (Except PassError Outcome)}
      {next : Snapshot} {out : Except PassError Outcome} (before : Reached paths options s r last)
      (valid : next.Valid) (runs : Runs (troubled paths) (r.apply next) s s' (r', out)) :
      Reached paths options s' r' (some out)

/-- What an earlier reconciler left has a downstream. -/
theorem Leftover.downstream {objects : Objects} (h : Leftover objects) :
    ∃ v, objects.get? Listener.downstream.front = some v := by
  obtain ⟨paths, options, previous, -, served, -, hserves⟩ := h
  have haccurate := hserves.downstream.accurate (builds_downstream served.downstream options)
  exact (SortedMap.contains_iff _ _).1 haccurate.frontend.symm

/-- **Reconcilers stay sane.** -/
theorem Reached.sane {last : Option (Except PassError Outcome)}
    (h : Reached paths options s r last) : Sane paths options s r := by
  induction h with
  | start formed initially read =>
      rw [run_refreshVersion] at read
      have hv := Except.ok.inj read
      refine ⟨rfl, formed, nofun, fun _ => hv ▸ UInt64.le_refl _, fun _ _ => ?_⟩
      rcases initially with hclear | hleft
      · exact .inl hclear
      · exact .inr hleft.downstream
  | foreign before others ih => exact ih.foreign others
  | pass before valid runs ih => exact ih.pass valid runs

theorem Plan.changes_of_isEmpty {plan : Plan} (h : plan.isEmpty = true) :
    plan.changes paths options next = [] := by
  simp only [isEmpty, Bool.and_eq_true, Option.isNone_iff_eq_none, List.isEmpty_iff] at h
  obtain ⟨⟨hd, hremoved⟩, hrebuilt⟩ := h
  rw [changes_eq_blocks, blocks, hd, hremoved, hrebuilt]
  rfl

/-- A pass that has nothing to do finds the snapshot served, if it still knows
    the store. -/
theorem Sane.converged (hs : Sane paths options s r) (hnext : next.Valid) (hr : r.force = false)
    (hempty : (Plan.between r.applied next).isEmpty = true) (hv : r.tracked = s.version) :
    Converged paths options next s.objects := by
  have hall : s.objects.applyAll ((Plan.between r.applied next).changes paths options next) =
      .ok s.objects := by
    rw [Plan.changes_of_isEmpty hempty]
    rfl
  exact Plan.serves_of_plan (Plan.between_sound hs.valid hnext) hnext hs.formed
    (between_right hs hnext hr (.refl s) hv.symm hall) hall

/-- A node that listens on a port and has one upstream. -/
def nodeOn (port : UInt16) : Snapshot where
  serviceName := "web"
  serviceId := "web-1"
  caPool := .empty
  downstream := ⟨"0.0.0.0", port, "127.0.0.1", 8080, ⟨[], [], []⟩⟩
  upstreams := [⟨"db", "127.0.0.1", 5432, ⟨[], [], []⟩, [⟨"10.0.0.1", 5432, 1⟩]⟩]

/-- The same certificate files for every material. -/
def oneFile (_ : TlsMaterial) : Certificates.Paths := ⟨"/certs/1.pem", "/certs/1-ca.pem"⟩

theorem valid_nodeOn (port : UInt16) : (nodeOn port).Valid :=
  ⟨(by decide : ["db"].Nodup), fun u hu => by
    rw [List.mem_singleton.1 hu]
    exact (by decide : Url.Unreserved "db")⟩

/-- A reconciler and a store at their start. -/
theorem reached_new (version : UInt64) :
    Reached paths .standard (Store.new version) (.new .standard version) none := by
  refine .start Objects.WellFormed.empty (.inl fun k _ => rfl) ?_
  rw [run_refreshVersion]
  rfl

/-- The first pass over an empty store is applied. -/
theorem run_new (paths : TlsMaterial → Certificates.Paths) (version : UInt64)
    (hnext : next.Valid) : ∃ s' r' d rebuilt removed,
    ((Reconciler.new .standard version).apply next).run (calm paths)
      (Store.new version) = (s', r', .ok (.applied (version + 1) d rebuilt removed)) := by
  have hs : Sane paths .standard _ _ := (reached_new version).sane
  have haccurate : (Plan.between none next).Accurate paths .standard next
      (Store.new version).objects := Plan.between_none_accurate fun k _ => rfl
  rcases run_apply hs hnext (.inr ⟨rfl, haccurate⟩) with ⟨hempty, -, -⟩ | happlied
  · exact nomatch hempty
  · exact happlied

theorem run_first (version : UInt64) (port : UInt16) : ∃ s' r' d rebuilt removed,
    ((Reconciler.new .standard version).apply (nodeOn port)).run (calm oneFile)
      (Store.new version) = (s', r', .ok (.applied (version + 1) d rebuilt removed)) :=
  run_new oneFile version (valid_nodeOn port)

/-- **Applied means converged, under failures and other writers.** In every state
    that a run can get into, and whatever happens to the requests of a pass: if
    the pass reports that it was applied, then the store has the version that
    was reported and that is tracked from then on, the reconciler's listeners
    are those of the snapshot, and nothing else was changed by the commit; if it
    reports that nothing changed, nothing did, and the snapshot is served unless
    others have committed since; and if it fails, either it committed nothing or
    the snapshot was served by its commit. -/
theorem applied_means_converged {last : Option (Except PassError Outcome)}
    (h : Reached paths options s r last) (hnext : next.Valid)
    (hrun : Runs (troubled paths) (r.apply next) s s' (r', out)) :
    (∀ v d rebuilt removed, out = .ok (.applied v d rebuilt removed) →
      s'.version = v ∧ r'.tracked = v ∧ r'.applied = some next ∧
        Converged paths options next s'.objects ∧
        ∃ m, Drift s m ∧ v = m.version + 1 ∧
          ∀ k, ¬ Owned k → s'.objects.get? k = m.objects.get? k) ∧
    (out = .ok .unchanged → s' = s ∧ r' = r ∧
      (r.tracked = s.version → Converged paths options next s.objects)) ∧
    (∀ e, out = .error e →
      ∃ m, (Drift s m ∨ Converged paths options next m.objects) ∧ Drift m s') := by
  have hs := h.sane
  -- the three ends of a pass: nothing to do, a failure, a commit
  rcases apply_runs hs hnext hrun with ⟨hr, hempty, hu⟩ | hf | ha
  · have hconverged := hs.converged hnext hr hempty
    refine ⟨fun v d b c hout => ?_, fun _ => ⟨hu.store, hu.reconciler, hconverged⟩,
      fun e hout => ?_⟩
    · exact nomatch hu.outcome.symm.trans hout
    · exact nomatch hu.outcome.symm.trans hout
  · obtain ⟨e, he⟩ := hf.outcome
    refine ⟨fun v d b c hout => ?_, fun hout => ?_, fun _ _ => hf.store⟩
    · exact nomatch he.symm.trans hout
    · exact nomatch he.symm.trans hout
  · obtain ⟨d₁, b₁, c₁, hout₁⟩ := ha.outcome
    refine ⟨fun v d b c hout => ?_, fun hout => ?_, fun e hout => ?_⟩
    · obtain ⟨rfl, -, -, -⟩ := Outcome.applied.inj (Except.ok.inj (hout₁.symm.trans hout))
      obtain ⟨m, hm, hv, hframe⟩ := ha.before
      exact ⟨rfl, by rw [ha.reconciler], by rw [ha.reconciler], ha.converged, m, hm, hv, hframe⟩
    · exact nomatch hout₁.symm.trans hout
    · exact nomatch hout₁.symm.trans hout

theorem applied_on_empty_store : ∃ s' r' d rebuilt removed,
    Runs (troubled oneFile) ((Reconciler.new .standard 1).apply (nodeOn 20000)) (Store.new 1) s'
        (r', .ok (.applied 2 d rebuilt removed)) ∧
      s'.version = 2 ∧ r'.tracked = 2 ∧ Converged oneFile .standard (nodeOn 20000) s'.objects := by
  obtain ⟨s', r', d, rebuilt, removed, hrun⟩ := run_first 1 20000
  have hallows : (troubled oneFile).Allows (calm oneFile) := troubled_allows_calm
  have hruns := Runs.of_run hallows
    ((Reconciler.new .standard 1).apply (nodeOn 20000)) (Store.new 1)
  rw [hrun] at hruns
  obtain ⟨hv, htracked, -, hconverged, -⟩ :=
    (applied_means_converged (reached_new 1) (valid_nodeOn 20000) hruns).1 2 d rebuilt removed rfl
  exact ⟨s', r', d, rebuilt, removed, hruns, hv, htracked, hconverged⟩

end MeshSync.Reconcile
