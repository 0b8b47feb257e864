import MeshSync.Proofs.Reconcile.Atomicity
import MeshSync.Proofs.Reconcile.Tidy

/-! # A reconciler on its own

    Where nobody else commits, a pass that is applied makes the changes of its
    plan to the very objects that the last pass left (`of_run_apply`).  So a
    reconciler that starts over a store without objects of its own stays
    `Sure` of them: unless the last pass failed, the store holds what was
    committed last (`Sure.pass`). -/

namespace MeshSync.Reconcile

open Certificates (Provider)
open Dataplane
open Dialogue (Runs Fine)

variable {κ : Type} {provider : Provider κ} {paths : TlsMaterial → Certificates.Paths}
  {options : Options} {next : Snapshot} {s s' : Store} {r r' : Reconciler}

/-! ## What a pass without trouble does -/

/-- The plan that a pass without trouble carries out. -/
def planned (s : Store) (r : Reconciler) (next : Snapshot) : Plan :=
  if r.force then .fromStore ⟨s.listed "frontends", s.listed "backends"⟩ next
  else .between r.applied next

/-- A pass that was applied: it made the changes of its plan. -/
structure CarriedOut (paths : TlsMaterial → Certificates.Paths) (next : Snapshot) (s s' : Store)
    (r r' : Reconciler) : Prop where
  tracked : r.force = false → r.tracked = s.version
  objects : s.objects.applyAll ((planned s r next).changes paths r.options next) = .ok s'.objects
  version : s'.version = s.version + 1
  reconciler : r' = { r with tracked := s'.version, applied := some next, force := false }

/-- A transaction without trouble that is committed was opened at the version of
    the store, and made its changes. -/
theorem of_run_transact {v : UInt64} {parts : List Part} {versions : UInt64 × UInt64}
    (hlegible : ∀ op ∈ operations paths parts, op.Legible)
    (h : (Reconciler.transact v parts).run (calm paths) s = (s', .ok versions)) :
    v = s.version ∧ s.objects.applyAll ((operations paths parts).map (·.change)) = .ok s'.objects ∧
      s'.version = s.version + 1 ∧ versions = (v, v + 1) := by
  have hallows : (troubled paths).Allows (calm paths) := troubled_allows_calm
  have hruns := Runs.of_run hallows (Reconciler.transact v parts) s
  rw [h] at hruns
  have hv : v = s.version := by
    by_contra hne
    obtain ⟨e, he⟩ := Reconciler.run_transact_stale paths hne parts
    rw [h] at he
    exact nomatch (Prod.mk.inj he).2
  rcases Reconciler.transact_runs hlegible hruns with ⟨⟨e, he⟩, -⟩ | ⟨hversions, hmade⟩
  · exact nomatch he
  · obtain ⟨⟨s₁, hdrift, hs₁, hall⟩, hversion⟩ := hmade
    -- the store came to the commit with the version it had
    have hle : s₁.version ≤ s.version := by
      rw [hs₁, hv]
      exact UInt64.le_refl _
    rw [(hdrift.objects_eq hle).2] at hall
    exact ⟨hv, hall, by rw [hversion, hv], Except.ok.inj hversions⟩

/-- What carrying out a plan without trouble does. -/
theorem of_run_carryOut {plan : Plan} {out : Outcome}
    (hlegible : ∀ op ∈ operations paths (plan.parts next r.options), op.Legible)
    (h : (r.carryOut next plan).run (calm paths) s = (s', r', .ok out)) :
    (plan.isEmpty = true ∧ s' = s ∧ r' = r ∧ out = .unchanged) ∨
      ((∃ downstream rebuilt removed, out = .applied s'.version downstream rebuilt removed) ∧
        r.tracked = s.version ∧
        s.objects.applyAll (plan.changes paths r.options next) = .ok s'.objects ∧
        s'.version = s.version + 1 ∧
        r' = { r with tracked := s'.version, applied := some next, force := false }) := by
  rw [Reconciler.carryOut] at h
  split at h
  · rename_i hempty
    obtain ⟨rfl, hres⟩ := Prod.mk.inj h
    obtain ⟨rfl, hout⟩ := Prod.mk.inj hres
    exact .inl ⟨hempty, rfl, rfl, (Except.ok.inj hout).symm⟩
  · rw [Dialogue.run_bind] at h
    cases htransact : (Reconciler.transact r.tracked (plan.parts next r.options)).run (calm paths) s
      with
    | mk s₁ res =>
        rw [htransact] at h
        cases res with
        | error e =>
            -- after a failure the pass ends with an error, whatever the version that is read then
            have hallows : (troubled paths).Allows (calm paths) := troubled_allows_calm
            have hrecover := Runs.of_run hallows (r.recover e) s₁
            dsimp only at h
            rw [h] at hrecover
            cases (Reconciler.recover_leaves hrecover).1
        | ok versions =>
            obtain ⟨hv, hall, hversion, rfl⟩ := of_run_transact hlegible htransact
            obtain ⟨hs', hres⟩ := Prod.mk.inj h
            obtain ⟨rfl, hout⟩ := Prod.mk.inj hres
            obtain rfl : s₁ = s' := hs'
            have hs₁ : r.tracked + 1 = s₁.version := by rw [hversion, hv]
            rw [← hs₁] at hversion ⊢
            exact .inr ⟨⟨plan.downstream.isSome, plan.rebuilt.length, plan.removed.length,
              (Except.ok.inj hout).symm⟩, hv, hall, hversion, rfl⟩

/-- **What a pass without trouble does**: nothing, if there is nothing to do, or
    else the changes of its plan. -/
theorem of_run_apply {out : Outcome} (hsound : (planned s r next).Sound next) (hnext : next.Valid)
    (h : (r.apply next).run (calm paths) s = (s', r', .ok out)) :
    ((planned s r next).isEmpty = true ∧ r.force = false ∧ s' = s ∧ r' = r ∧ out = .unchanged) ∨
      ((∃ downstream rebuilt removed, out = .applied s'.version downstream rebuilt removed) ∧
        CarriedOut paths next s s' r r') := by
  cases hforce : r.force with
  | false =>
      have hplan : planned s r next = .between r.applied next := by
        rw [planned, hforce, if_neg Bool.noConfusion]
      rw [Reconciler.apply, hforce, if_neg Bool.noConfusion] at h
      rw [hplan] at hsound ⊢
      rcases of_run_carryOut (hsound.legible hnext) h with
        ⟨hempty, hs, hr, hout⟩ | ⟨hout, htracked, hall, hversion, hr⟩
      · exact .inl ⟨hempty, rfl, hs, hr, hout⟩
      · exact .inr ⟨hout, fun _ => htracked, by rw [hplan]; exact hall, hversion, hr⟩
  | true =>
      have hplan : planned s r next =
          .fromStore ⟨s.listed "frontends", s.listed "backends"⟩ next := by
        rw [planned, hforce, if_pos rfl]
      rw [Reconciler.apply, hforce, if_pos rfl, Dialogue.run_bind,
        Reconciler.run_takeStock] at h
      rw [hplan] at hsound ⊢
      rcases of_run_carryOut (r := { r with tracked := s.version }) (hsound.legible hnext) h with
        ⟨hempty, -⟩ | ⟨hout, -, hall, hversion, hr⟩
      · cases hempty
      · refine .inr ⟨hout, ⟨fun hf => ?_, ?_, hversion, hr⟩⟩
        · rw [hforce] at hf
          cases hf
        · rw [hplan]
          exact hall

/-! ## What a reconciler can be sure of -/

/-- What a reconciler knows of a store that nobody else commits to: the objects
    are those of the last commit, or there are none of its own. -/
def Known (paths : TlsMaterial → Certificates.Paths) (options : Options) (s : Store)
    (r : Reconciler) : Prop :=
  match r.applied with
  | none => Clear s.objects
  | some previous => r.tracked = s.version ∧ Converged paths options previous s.objects

/-- Whether a reconciler on its own can be sure of what it knows. -/
structure Sure (paths : TlsMaterial → Certificates.Paths) (options : Options) (s : Store)
    (r : Reconciler) : Prop where
  settings : r.options = options
  tidy : Tidy s.objects
  valid : ∀ previous, r.applied = some previous → previous.Valid
  knows : r.force = false → Known paths options s r

namespace Sure

theorem new (h : Free s.objects) (options : Options) (tracked : UInt64) :
    Sure paths options s (.new options tracked) :=
  ⟨rfl, h.tidy, nofun, fun _ => h.clear⟩

theorem sound (hs : Sure paths options s r) (hnext : next.Valid) :
    (planned s r next).Sound next := by
  rw [planned]
  split
  · exact Plan.fromStore_sound hs.tidy.unreserved_services hnext
  · exact Plan.between_sound hs.valid hnext

/-- The plan of a pass is right. -/
theorem accurate (hs : Sure paths options s r) :
    (planned s r next).Accurate paths options next s.objects := by
  rw [planned]
  split
  · exact hs.tidy.fromStore_accurate
  · rename_i hforce
    have hknows := hs.knows (Bool.eq_false_iff.2 hforce)
    rw [Known] at hknows
    cases happlied : r.applied with
    | none =>
        rw [happlied] at hknows
        exact Plan.between_none_accurate hknows
    | some previous =>
        rw [happlied] at hknows
        obtain ⟨-, served, hsame, hserves⟩ := hknows
        exact Plan.between_accurate (hs.valid previous happlied) hsame hserves

/-- **A pass that is applied leaves its snapshot served**, and the strangers as
    they were. -/
theorem carried_out (hs : Sure paths options s r) (hnext : next.Valid)
    (h : CarriedOut paths next s s' r r') :
    Converged paths options next s'.objects ∧ Sure paths options s' r' ∧
      ∀ k, ¬ Owned k → s'.objects.get? k = s.objects.get? k := by
  have hall := h.objects
  rw [hs.settings] at hall
  obtain ⟨hconverged, htidy, hstrangers⟩ :=
    hs.tidy.carried_out (hs.sound hnext) hnext hs.accurate hall
  refine ⟨hconverged, ?_, hstrangers⟩
  rw [h.reconciler]
  exact ⟨hs.settings, htidy, fun _ hp => Option.some.inj hp ▸ hnext, fun _ => ⟨rfl, hconverged⟩⟩

/-- A pass from the store is applied where there is no trouble. -/
theorem exists_run (hs : Sure paths options s r) (hnext : next.Valid) (hforce : r.force = true) :
    ∃ s' r' downstream rebuilt removed, (r.apply next).run (calm paths) s =
      (s', r', .ok (.applied s'.version downstream rebuilt removed)) ∧
      CarriedOut paths next s s' r r' := by
  have hsound := hs.sound hnext
  have hplan : planned s r next =
      .fromStore ⟨s.listed "frontends", s.listed "backends"⟩ next := by
    rw [planned, hforce, if_pos rfl]
  obtain ⟨o, ho⟩ := hs.tidy.exists_applyAll_plan hsound hnext hs.accurate
  rw [hplan] at hsound ho
  rw [← hs.settings] at ho
  obtain ⟨s', r', d, b, c, hrun⟩ :=
    Reconciler.run_carryOut (r := { r with tracked := s.version }) rfl hsound hnext rfl ho
  have happly : (r.apply next).run (calm paths) s =
      (s', r', .ok (.applied (s.version + 1) d b c)) := by
    rw [Reconciler.apply, if_pos hforce, Dialogue.run_bind, Reconciler.run_takeStock]
    exact hrun
  rcases of_run_apply (hs.sound hnext) hnext happly with ⟨-, hf, -⟩ | ⟨-, hcarried⟩
  · rw [hforce] at hf
    cases hf
  · refine ⟨s', r', d, b, c, ?_, hcarried⟩
    rw [happly, hcarried.version]

end Sure

/-! ## Passes with trouble -/

/-- What a pass of a reconciler on its own comes to. -/
inductive Ended (paths : TlsMaterial → Certificates.Paths) (options : Options) (next : Snapshot)
    (s s' : Store) (r r' : Reconciler) : Except PassError Outcome → Prop
  | unchanged (empty : (Plan.between r.applied next).isEmpty = true) (force : r.force = false)
      (store : s' = s) (reconciler : r' = r) : Ended paths options next s s' r r' (.ok .unchanged)
  | applied {downstream : Bool} {rebuilt removed : Nat}
      (reconciler : r' = { r with tracked := s'.version, applied := some next, force := false })
      (converged : Converged paths options next s'.objects) (version : s'.version = s.version + 1) :
      Ended paths options next s s' r r'
        (.ok (.applied s'.version downstream rebuilt removed))
  | failed {e : PassError} (force : r'.force = true) (kept : r'.applied = r.applied)
      (store : (s'.objects = s.objects ∧ s'.version = s.version) ∨
        (Converged paths options next s'.objects ∧ s'.version = s.version + 1)) :
      Ended paths options next s s' r r' (.error e)

/-- What a pass that was applied came to. -/
theorem Ended.of_applied {v : UInt64} {downstream : Bool} {rebuilt removed : Nat}
    (h : Ended paths options next s s' r r' (.ok (.applied v downstream rebuilt removed))) :
    r'.applied = some next ∧ Converged paths options next s'.objects ∧
      s'.version = s.version + 1 := by
  cases h with
  | applied reconciler converged version => exact ⟨by rw [reconciler], converged, version⟩

/-- **A pass leaves a reconciler on its own sure of the store**, whatever trouble
    there was. -/
theorem Sure.pass {w w' : Site κ} {out : Except PassError Outcome} (hpaths : Fixed provider paths)
    (hs : Sure paths options w.store r) (hnext : next.Valid)
    (h : Runs (alone provider) (r.apply next) w w' (r', out)) :
    Sure paths options w'.store r' ∧ Ended paths options next w.store w'.store r r' out ∧
      ∀ k, ¬ Owned k → w'.store.objects.get? k = w.store.objects.get? k := by
  have hmirrors := alone_mirrors_calm hpaths
  have hsound := hs.sound hnext
  cases out with
  | ok out =>
      have hrun := Reconciler.honest_apply hmirrors r next w w' _ h ⟨out, rfl⟩
      rcases of_run_apply hsound hnext hrun with
        ⟨hempty, hforce, hstore, rfl, rfl⟩ | ⟨⟨d, b, c, rfl⟩, hcarried⟩
      · rw [planned, hforce, if_neg Bool.noConfusion] at hempty
        refine ⟨?_, .unchanged hempty hforce hstore rfl, fun k _ => by rw [hstore]⟩
        rw [hstore]
        exact hs
      · obtain ⟨hconverged, hsure, hstrangers⟩ := hs.carried_out hnext hcarried
        exact ⟨hsure, .applied hcarried.reconciler hconverged hcarried.version,
          hstrangers⟩
  | error e =>
      obtain ⟨hforce, happlied, hoptions⟩ := Reconciler.apply_error h
      have hafter : Tidy w'.store.objects ∧ ((w'.store.objects = w.store.objects ∧
            w'.store.version = w.store.version) ∨ (Converged paths options next w'.store.objects ∧
            w'.store.version = w.store.version + 1)) ∧
          ∀ k, ¬ Owned k → w'.store.objects.get? k = w.store.objects.get? k := by
        rcases Reconciler.apply_alone h with hkept | ⟨-, w₁, r₁, v, d, b, c, hquiet, hkept⟩
        · rw [hkept.objects]
          exact ⟨hs.tidy, .inl ⟨rfl, hkept.version⟩, fun _ _ => rfl⟩
        · -- the pass did what a pass that succeeds does, up to the answer to its commit
          have hallows : (alone provider).Allows (quiet provider) := alone_allows_quiet
          have hruns := Runs.of_run hallows (r.apply next) w
          rw [hquiet] at hruns
          have hrun := Reconciler.honest_apply hmirrors r next w w₁ _ hruns ⟨_, rfl⟩
          rcases of_run_apply hsound hnext hrun with ⟨-, -, -, -, hout⟩ | ⟨-, hcarried⟩
          · exact nomatch hout
          · obtain ⟨hconverged, hsure, hstrangers⟩ := hs.carried_out hnext hcarried
            rw [hkept.objects, hkept.version]
            exact ⟨hsure.tidy, .inr ⟨hconverged, hcarried.version⟩, hstrangers⟩
      obtain ⟨htidy, hstore, hstrangers⟩ := hafter
      refine ⟨⟨hoptions.trans hs.settings, htidy, ?_, ?_⟩, .failed hforce happlied hstore,
        hstrangers⟩
      · rw [happlied]
        exact hs.valid
      · intro hf
        exact nomatch hforce.symm.trans hf

end MeshSync.Reconcile
