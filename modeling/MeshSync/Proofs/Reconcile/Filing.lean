import MeshSync.Proofs.Certificates.Bundles
import MeshSync.Proofs.Reconcile.Citing
import MeshSync.Proofs.Reconcile.Skipping

/-! # Certificate files on disk

    A reconciler on its own whose certificate files lie in a directory, and
    whose snapshots have one material each.  What the directory is told to be in
    use it keeps; it is told after every pass that was applied, but not of a
    commit whose answer got lost.  The route:

    * within a pass the files of the material have the names that were expected
      of them when it began (`Stocked`), so all that is known of passes with
      fixed files holds of it (`onDisk_refines_labelled`);
    * a pass that is applied has filed the material (`filed_of_applied`), and one
      that fails loses no files that are in use (`keeps_later`);
    * so the states that runs get into are `Guarded`, and unless a commit went
      unreported that brought other files, no object of the store names a file
      that is not there (`named_files_present`). -/

namespace MeshSync.Reconcile

open Certificates (Provider)
open Dialogue (Runs)
open Dataplane (Cites ne_add_one)

/-- Certificate files in a directory. -/
def onDisk : Provider Certificates.Store :=
  ⟨Certificates.Store.pathsFor, Certificates.Store.retain⟩

/-- The same directory, whose files go by fixed names. -/
def labelled (paths : TlsMaterial → Certificates.Paths) : Provider Certificates.Store :=
  ⟨fun files m => ((files.pathsFor m).1, .ok (paths m)), Certificates.Store.retain⟩

variable {paths : TlsMaterial → Certificates.Paths} {options : Options} {next : Snapshot}
  {s s' : Site Certificates.Store} {r r' : Reconciler} {m : TlsMaterial}

theorem fixed_labelled (paths : TlsMaterial → Certificates.Paths) :
    Fixed (labelled paths) paths := fun _ _ _ h => (Except.ok.inj h).symm

/-! ## The files of one material -/

/-- Whether the files of a material are or will be called by their label. -/
structure Stocked (paths : TlsMaterial → Certificates.Paths) (m : TlsMaterial)
    (s : Site Certificates.Store) : Prop where
  sound : s.files.Sound
  expected : s.files.expected m = paths m

namespace Stocked

theorem delivered (h : Stocked paths m s) {q : Dataplane.Request}
    {a : Except Dataplane.Error Json} (hd : Delivered s q s' a) : Stocked paths m s' := by
  have hfiles := files_of_delivered hd
  exact ⟨hfiles ▸ h.sound, hfiles ▸ h.expected⟩

/-- Once they were asked for, the files of a material keep their label. -/
theorem asked (h : Stocked paths m s) :
    (s.files.pathsFor m).2 = .ok (paths m) ∧
      Stocked paths m { s with files := (s.files.pathsFor m).1 } := by
  obtain ⟨hanswer, hlater, k, hk, rfl, hpaths⟩ := h.sound.pathsFor m
  rw [h.expected] at hanswer hpaths
  refine ⟨hanswer, hlater.sound, ?_⟩
  show (s.files.pathsFor k.material).1.expected k.material = _
  rw [hlater.sound.expected_of_kept hk, hlater.place, hpaths]

theorem told (h : Stocked paths m s) (ms : List TlsMaterial) :
    Stocked paths m { s with files := s.files.retain ms } := ⟨h.sound.retain ms, h.expected⟩

end Stocked

/-- Two providers that answer alike where files are stocked are alike to a pass
    with one material. -/
theorem refines_of_stocked (huniform : next.Uniform) {p q : Provider Certificates.Store}
    (hagree : ∀ s, Stocked paths next.downstream.tls s →
      p.certs s.files next.downstream.tls = q.certs s.files next.downstream.tls)
    (hcerts : ∀ files m, (p.certs files m).1 = (files.pathsFor m).1)
    (hp : p.retain = Certificates.Store.retain) (hq : q.retain = Certificates.Store.retain) :
    (alone p).Refines (alone q) (passing next) (Stocked paths next.downstream.tls) where
  send h _ hsend := by
    have hdelivered := alone_send_iff.1 hsend
    exact ⟨alone_send_iff.2 hdelivered, h.delivered hdelivered⟩
  certs {s m s' a} h hm hasked := by
    obtain rfl := huniform m hm
    obtain ⟨rfl, rfl⟩ := hasked
    refine ⟨?_, ?_⟩
    · rw [hagree s h]
      exact ⟨rfl, rfl⟩
    · rw [hcerts]
      exact h.asked.2
  retain {s ms s'} h _ htold := by
    obtain rfl := htold
    rw [hp]
    have htold : { s with files := s.files.retain ms } =
        { s with files := q.retain s.files ms } := by
      rw [hq]
    exact ⟨htold, h.told ms⟩

/-- In a pass files on disk go by their labels. -/
theorem onDisk_refines_labelled (huniform : next.Uniform) :
    (alone onDisk).Refines (alone (labelled paths)) (passing next)
      (Stocked paths next.downstream.tls) :=
  refines_of_stocked huniform (fun _ h => Prod.ext rfl h.asked.1) (fun _ _ => rfl) rfl rfl

theorem labelled_refines_onDisk (huniform : next.Uniform) :
    (alone (labelled paths)).Refines (alone onDisk) (passing next)
      (Stocked paths next.downstream.tls) :=
  refines_of_stocked huniform (fun _ h => Prod.ext rfl h.asked.1.symm) (fun _ _ => rfl) rfl rfl

/-! ## What a pass keeps and what it files -/

theorem keeps_later (next : Snapshot) : (alone onDisk).Keeps (transacting next)
    fun s s' => s.files.Sound → s.files.Later s'.files where
  refl s h := .refl h
  trans h h' hs := (h hs).trans (h' (h hs).sound)
  send {s q s' a} _ hsend hs := by
    rw [files_of_delivered (alone_send_iff.1 hsend)]
    exact .refl hs
  certs {s m s' a} _ hcerts hs := by
    obtain ⟨rfl, -⟩ := hcerts
    exact (hs.pathsFor m).2.1
  retain htells := htells.elim

/-- Whether a material has its files. -/
def Filed (m : TlsMaterial) (files : Certificates.Store) : Prop :=
  files.Sound ∧ ∃ k ∈ files.kept, k.material = m

theorem keeps_filed (huniform : next.Uniform) : (alone onDisk).Keeps (transacting next)
    fun s s' => Filed next.downstream.tls s.files → Filed next.downstream.tls s'.files where
  refl s := id
  trans h h' := h' ∘ h
  send {s q s' a} _ hsend hs := by
    rw [files_of_delivered (alone_send_iff.1 hsend)]
    exact hs
  certs {s m s' a} hm hcerts hs := by
    obtain ⟨rfl, -⟩ := hcerts
    obtain rfl := huniform m hm
    obtain ⟨hsound, k, hk, hmaterial⟩ := hs
    dsimp only
    rw [← hmaterial]
    show Filed k.material (s.files.pathsFor k.material).1
    rw [hsound.pathsFor_of_kept hk]
    exact ⟨hsound, k, hk, rfl⟩
  retain htells := htells.elim

/-- **Staging a sealed part files the material.** -/
theorem filed_of_stageParts (huniform : next.Uniform) {ticket : Dataplane.Ticket}
    {parts : List Part} (hparts : ∀ p ∈ parts, p.Within (staging next))
    (hsealed : ∃ m ops, .sealed m ops ∈ parts) (hs : s.files.Sound)
    (h : Runs (alone onDisk) (Reconciler.stageParts ticket parts) s s' (.ok ())) :
    Filed next.downstream.tls s'.files := by
  -- by induction, up to the first sealed part; from there on the files are kept
  induction parts generalizing s with
  | nil =>
      obtain ⟨m, ops, hmem⟩ := hsealed
      exact absurd hmem List.not_mem_nil
  | cons part parts ih =>
      have hrestParts : ∀ p ∈ parts, p.Within (staging next) :=
        fun p hp => hparts p (List.mem_cons_of_mem _ hp)
      cases part with
      | plain op =>
          obtain ⟨s₁, res, hops, hrest⟩ := Runs.bind_iff.1 h
          have hlater := hops.keeps (keeps_later next) (within_transacting
            (Reconciler.within_stageOps fun o ho => by
              rw [List.mem_singleton.1 ho]
              exact hparts _ List.mem_cons_self)) hs
          cases res with
          | error e => exact nomatch (Runs.done_iff.1 hrest).2
          | ok done =>
              obtain ⟨m, ops, hmem⟩ := hsealed
              refine ih hrestParts ⟨m, ops, ?_⟩ hlater.sound hrest
              exact (List.mem_cons.1 hmem).resolve_left nofun
      | sealed m ops =>
          obtain ⟨hm, hwithin⟩ := hparts _ List.mem_cons_self
          obtain rfl := huniform m hm
          obtain ⟨s₁, answer, hcerts, hrest⟩ := Runs.certs_iff.1 h
          have hfiled : Filed next.downstream.tls s₁.files := by
            obtain ⟨rfl, -⟩ := hcerts
            obtain ⟨-, hlater, k, hk, hmaterial, -⟩ := hs.pathsFor next.downstream.tls
            exact ⟨hlater.sound, k, hk, hmaterial⟩
          cases answer with
          | error e => exact nomatch (Runs.done_iff.1 hrest).2
          | ok files =>
              refine hrest.keeps (keeps_filed huniform) (within_transacting ?_) hfiled
              exact Dialogue.Within.andThen (Reconciler.within_stageOps (hwithin files))
                fun _ => Reconciler.within_stageParts hrestParts

/-- A transaction with a sealed part that is committed files the material. -/
theorem filed_of_transact (huniform : next.Uniform) {tracked : UInt64} {plan : Plan}
    {versions : UInt64 × UInt64}
    (hsealed : ∃ m ops, .sealed m ops ∈ plan.parts next options) (hs : s.files.Sound)
    (h : Runs (alone onDisk) (Reconciler.transact tracked (plan.parts next options)) s s'
      (.ok versions)) : Filed next.downstream.tls s'.files := by
  obtain ⟨ticket, s₁, s₂, version, hbegin, hstage, hcommit⟩ := Reconciler.transact_ok h
  have hlater := hbegin.keeps (keeps_later next)
    (within_transacting (within_begin next tracked)) hs
  have hfiled := filed_of_stageParts huniform (plan.within_parts options) hsealed hlater.sound
    hstage
  exact hcommit.keeps (keeps_filed huniform) (within_commit next tracked ticket) hfiled

/-- A plan that builds the downstream has a sealed part. -/
theorem sealed_of_downstream {plan : Plan} (h : plan.downstream ≠ none) :
    ∃ m ops, .sealed m ops ∈ plan.parts next options := by
  obtain ⟨e, he⟩ := Option.ne_none_iff_exists'.1 h
  refine ⟨next.downstream.tls, Downstream.rest next.downstream options, ?_⟩
  rw [Plan.parts, he]
  refine List.mem_append_left _ (List.mem_append_left _ (List.mem_append_right _ ?_))
  exact List.mem_cons_of_mem _ List.mem_cons_self

section Applied

variable (huniform : next.Uniform) {v : UInt64} {downstream : Bool} {rebuilt removed : Nat}

include huniform

/-- A plan that is applied leaves the material filed and tells that it is in use,
    if it is filed before where the plan leaves the downstream alone. -/
theorem filed_of_carryOut {plan : Plan} (hs : s.files.Sound)
    (hkept : plan.downstream = none → Filed next.downstream.tls s.files)
    (h : Runs (alone onDisk) (r.carryOut next plan) s s'
      (r', .ok (.applied v downstream rebuilt removed))) :
    Filed next.downstream.tls s'.files ∧ s'.files.committed = next.tlsMaterials := by
  obtain ⟨-, versions, s₁, htransact, hretain⟩ := Reconciler.carryOut_applied h
  have hfiled : Filed next.downstream.tls s₁.files := by
    by_cases hdownstream : plan.downstream = none
    · exact htransact.keeps (keeps_filed huniform)
        (Reconciler.within_transact r.tracked plan r.options) (hkept hdownstream)
    · exact filed_of_transact huniform (sealed_of_downstream hdownstream) hs htransact
  obtain rfl := hretain
  obtain ⟨hsound, hk⟩ := hfiled
  exact ⟨⟨hsound.retain _, hk⟩, rfl⟩

/-- **A pass that is applied leaves the material filed**, and tells that it is in
    use. -/
theorem filed_of_applied (hs : s.files.Sound)
    (hheld : ∀ p, r.applied = some p → Filed p.downstream.tls s.files)
    (h : Runs (alone onDisk) (r.apply next) s s'
      (r', .ok (.applied v downstream rebuilt removed))) :
    Filed next.downstream.tls s'.files ∧ s'.files.committed = next.tlsMaterials := by
  rcases Reconciler.apply_applied h with ⟨-, s₁, tracked, inventory, htake, hcarryOut⟩ |
    ⟨-, hcarryOut⟩
  · have hlater := htake.keeps (keeps_later next)
      (within_transacting (within_staging next (Reconciler.within_takeStock r.tracked))) hs
    -- a plan from the store builds the downstream anew
    exact filed_of_carryOut huniform hlater.sound
      (fun hdownstream => absurd hdownstream (Option.some_ne_none _)) hcarryOut
  · refine filed_of_carryOut huniform hs (fun hdownstream => ?_) hcarryOut
    -- nothing to do for the downstream: its material was that of the last commit
    obtain ⟨p, hp⟩ : ∃ p, r.applied = some p := by
      refine Option.ne_none_iff_exists'.1 fun hnone => ?_
      rw [hnone] at hdownstream
      exact absurd hdownstream (Option.some_ne_none _)
    rw [hp] at hdownstream
    rw [← Plan.downstream_between_iff.1 hdownstream]
    exact hheld p hp

end Applied

/-! ## Runs -/

/-- What a reconciler is sure of does not depend on what the files of other
    materials than those of the last commit are called. -/
theorem Sure.repath {paths' : TlsMaterial → Certificates.Paths} {st : Dataplane.Store}
    (hs : Sure paths options st r)
    (hpaths : ∀ p, r.force = false → r.applied = some p → ∀ m ∈ p.tlsMaterials,
      paths m = paths' m) : Sure paths' options st r := by
  refine ⟨hs.settings, hs.tidy, hs.valid, fun hforce => ?_⟩
  have hknows := hs.knows hforce
  rw [Known] at hknows ⊢
  cases hp : r.applied with
  | none =>
      rw [hp] at hknows
      exact hknows
  | some p =>
      rw [hp] at hknows
      exact ⟨hknows.1, hknows.2.repath (hpaths p hforce hp)⟩

/-- The states that a reconciler and its site get into where nobody else uses the
    store, which held nothing at the start, nor the directory; and the snapshot
    whose commit was carried out last, reported or not. -/
inductive Landed (options : Options) :
    Site Certificates.Store → Reconciler → Option Snapshot → Prop
  | start (version tracked : UInt64) (place : String) :
      Landed options ⟨.new version, .new place .empty, []⟩ (.new options tracked) none
  | pass {s s' : Site Certificates.Store} {r r' : Reconciler} {served : Option Snapshot}
      {next : Snapshot} {out : Except PassError Outcome} (before : Landed options s r served)
      (valid : next.Valid) (uniform : next.Uniform)
      (runs : Runs (alone onDisk) (r.apply next) s s' (r', out)) :
      Landed options s' r' (if s'.store.version = s.store.version then served else some next)

/-- Whether what the proxy is known to use is on disk, and the objects of the
    store name the files of what was committed last, if it is among that. -/
structure Guarded (options : Options) (s : Site Certificates.Store) (r : Reconciler)
    (served : Option Snapshot) : Prop where
  sound : s.files.Sound
  sure : Sure s.files.expected options s.store r
  owned : ∀ k v, s.store.objects.get? k = some v → Owned k
  kept : ∀ m ∈ s.files.committed, ∃ k ∈ s.files.kept, k.material = m
  told : ∀ p, r.applied = some p → p.downstream.tls ∈ s.files.committed
  cites : ∀ k v, s.store.objects.get? k = some v → ∃ x, served = some x ∧
    (x.downstream.tls ∈ s.files.committed → Cites (s.files.expected x.downstream.tls) v)

namespace Guarded

variable {served : Option Snapshot}

theorem new (version tracked : UInt64) (place : String) :
    Guarded options ⟨.new version, .new place .empty, []⟩ (.new options tracked) none :=
  ⟨Certificates.Store.sound_new place, .new .empty options tracked, nofun, nofun, nofun, nofun⟩

/-- **A pass keeps the files that are named**, unless it fails with a commit of
    other files. -/
theorem pass (h : Guarded options s r served) (hnext : next.Valid) (huniform : next.Uniform)
    {out : Except PassError Outcome}
    (hrun : Runs (alone onDisk) (r.apply next) s s' (r', out)) :
    Guarded options s' r' (if s'.store.version = s.store.version then served else some next) := by
  -- the files are abstracted to their labels: what is known of such passes then applies
  obtain ⟨hlabelled, hstocked⟩ := hrun.transfer (onDisk_refines_labelled huniform)
    (Reconciler.within_apply r next) ⟨h.sound, rfl⟩
  obtain ⟨hsure, hended, hstrangers⟩ := h.sure.pass (fixed_labelled _) hnext hlabelled
  have howned : ∀ k v, s'.store.objects.get? k = some v → Owned k := by
    intro k v hv
    by_contra hnot
    rw [hstrangers k hnot] at hv
    exact hnot (h.owned k v hv)
  have shown : Converged s.files.expected options next s'.store.objects →
      ∀ k v, s'.store.objects.get? k = some v → Cites (s.files.expected next.downstream.tls) v :=
    fun hconverged k v hv => hconverged.shows.cites hnext huniform (howned k v hv) hv
  cases hended with
  | unchanged empty force store reconciler =>
      rw [apply_eq_done force empty] at hrun
      obtain ⟨rfl, -⟩ := Runs.done_iff.1 hrun
      rw [if_pos rfl, reconciler]
      exact h
  | applied reconciler converged version =>
      obtain ⟨⟨hsound, hfiled⟩, hcommitted⟩ := filed_of_applied huniform h.sound
        (fun p hp => ⟨h.sound, h.kept _ (h.told p hp)⟩) hrun
      have happlied : r'.applied = some next := by rw [reconciler]
      refine ⟨hsound, hsure.repath ?_, howned, fun m hm => ?_, fun p hp => ?_, fun k v hv => ?_⟩
      · intro p _ hp m hm
        obtain rfl := Option.some.inj (happlied.symm.trans hp)
        rw [huniform m hm]
        exact hstocked.expected.symm
      · rw [hcommitted] at hm
        rw [huniform m hm]
        exact hfiled
      · obtain rfl := Option.some.inj (happlied.symm.trans hp)
        rw [hcommitted]
        exact List.mem_cons_self
      · rw [version, if_neg (ne_add_one _)]
        refine ⟨next, rfl, fun _ => ?_⟩
        rw [hstocked.expected]
        exact shown converged k v hv
  | failed force kept store =>
      have hlater := Reconciler.keeps_of_error (keeps_later next) hrun h.sound
      have hexpected : ∀ m ∈ s'.files.committed, s'.files.expected m = s.files.expected m := by
        intro m hm
        rw [hlater.committed] at hm
        obtain ⟨k, hk, rfl⟩ := h.kept m hm
        exact hlater.expected h.sound hk hm
      refine ⟨hlater.sound, hsure.repath ?_, howned, fun m hm => ?_, fun p hp => ?_,
        fun k v hv => ?_⟩
      · intro p hforce
        exact nomatch force.symm.trans hforce
      · rw [hlater.committed] at hm
        obtain ⟨k, hk, rfl⟩ := h.kept m hm
        exact ⟨k, hlater.kept k hk hm, rfl⟩
      · rw [hlater.committed]
        exact h.told p (kept.symm.trans hp)
      · -- the store is as it was, or the answer to the commit was lost
        rcases store with ⟨hobjects, hversion⟩ | ⟨hconverged, hversion⟩
        · rw [hobjects] at hv
          obtain ⟨x, hx, hcites⟩ := h.cites k v hv
          rw [if_pos hversion]
          refine ⟨x, hx, fun hm => ?_⟩
          rw [hexpected _ hm]
          rw [hlater.committed] at hm
          exact hcites hm
        · rw [hversion, if_neg (ne_add_one _)]
          refine ⟨next, rfl, fun hm => ?_⟩
          rw [hexpected _ hm]
          exact shown hconverged k v hv

end Guarded

namespace Landed

variable {served : Option Snapshot}

theorem guarded (h : Landed options s r served) : Guarded options s r served := by
  induction h with
  | start version tracked place => exact .new version tracked place
  | pass before valid uniform runs ih => exact ih.pass valid uniform runs

/-- As long as every commit that is carried out is reported, the snapshot that was
    committed last is the one that the reconciler knows of. -/
theorem served_eq_applied (h : Landed options s r served) (hnext : next.Valid)
    (huniform : next.Uniform) {out : Except PassError Outcome}
    (hrun : Runs (alone onDisk) (r.apply next) s s' (r', out)) (hserved : served = r.applied)
    (hreported : ∀ e, out = .error e → s'.store.version = s.store.version) :
    (if s'.store.version = s.store.version then served else some next) = r'.applied := by
  obtain ⟨hlabelled, -⟩ := hrun.transfer (onDisk_refines_labelled huniform)
    (Reconciler.within_apply r next) ⟨h.guarded.sound, rfl⟩
  obtain ⟨-, hended, -⟩ := h.guarded.sure.pass (fixed_labelled _) hnext hlabelled
  cases hended with
  | unchanged empty force store reconciler => rw [store, if_pos rfl, reconciler, hserved]
  | applied reconciler converged version => rw [version, if_neg (ne_add_one _), reconciler]
  | failed force kept store => rw [hreported _ rfl, if_pos rfl, kept, hserved]

end Landed

/-- **The files that the store names are there**, as long as no commit was carried
    out unreported that brought other files: in every state of a reconciler on
    its own, whatever trouble its passes had, if the snapshot whose commit was
    carried out last has the material of the one that was reported last, then
    every certificate file that an object of the store names holds what it
    should. -/
theorem named_files_present {served : Option Snapshot} (h : Landed options s r served)
    (hreported : served.map (·.downstream.tls) = r.applied.map (·.downstream.tls))
    {k : Dataplane.ObjectKey} {v : Json} (hv : s.store.objects.get? k = some v) :
    ∃ x, served = some x ∧
      (∀ t, v.field? "ssl_certificate" = some (.string t) →
        s.files.Holds t (Certificates.certificateText x.downstream.tls)) ∧
      ∀ t, v.field? "ssl_cafile" = some (.string t) →
        s.files.Holds t (Certificates.authoritiesText x.downstream.tls.cas) := by
  have hguarded := h.guarded
  obtain ⟨x, rfl, hcites⟩ := hguarded.cites k v hv
  -- the directory was told of the material that was reported last
  obtain ⟨p, hp, (hmaterial : p.downstream.tls = x.downstream.tls)⟩ :=
    Option.map_eq_some_iff.1 hreported.symm
  have htold : x.downstream.tls ∈ s.files.committed := by
    rw [← hmaterial]
    exact hguarded.told p hp
  obtain ⟨kept, hkept, heq⟩ := hguarded.kept _ htold
  obtain ⟨hcertificate, hca⟩ := hguarded.sound.holds hkept
  have hcites := hcites htold
  rw [heq, Certificates.bundle_eq] at hcertificate
  rw [heq, Certificates.caBundle_eq] at hca
  refine ⟨x, rfl, fun t ht => ?_, fun t ht => ?_⟩
  · rw [hcites.certificate t ht]
    exact hcertificate
  · rw [hcites.caFile t ht]
    exact hca

/-- All listeners of `nodeOn` have one material. -/
theorem uniform_nodeOn (port : UInt16) : (nodeOn port).Uniform := by
  intro m hm
  rcases List.mem_cons.1 hm with rfl | hm
  · rfl
  · rw [List.mem_singleton.1 hm]
    rfl

/-- The bind of the downstream names the certificate file of its material. -/
theorem Shows.bind {x : Snapshot} {objects : Dataplane.Objects}
    (h : Shows paths options x objects) : ∃ k v, objects.get? k = some v ∧
      v.field? "ssl_certificate" = some (.string (paths x.downstream.tls).certificate) := by
  have hop : .createBind Listener.downstream.frontend
      (Downstream.bind x.downstream (paths x.downstream.tls)) ∈ downstreamOps paths options x :=
    List.mem_cons_of_mem _ List.mem_cons_self
  have hbuilds : Builds .downstream (downstreamOps paths options x) := builds_downstream _ _
  obtain ⟨k, v, hchange, howns⟩ := hbuilds.creates _ hop
  refine ⟨k, v, (h.downstream.get?_iff hbuilds.toCreates howns).2 (List.mem_map.2 ⟨_, hop, hchange⟩), ?_⟩
  obtain ⟨-, rfl⟩ := Dataplane.Change.create.inj hchange
  rw [Dataplane.Bind.json, Dataplane.field?_present _ (by simp)]
  rfl

/-- The first pass of a reconciler whose files are on disk, without trouble. -/
theorem landed_first (place : String) (port : UInt16) : ∃ s r,
    Landed .standard s r (some (nodeOn port)) ∧ r.applied = some (nodeOn port) ∧
      ∃ k v t, s.store.objects.get? k = some v ∧
        v.field? "ssl_certificate" = some (.string t) := by
  have hnew : Landed .standard ⟨.new 1, .new place .empty, []⟩ (.new .standard 1) none :=
    .start 1 1 place
  have hready : ∀ files m, ((labelled (Certificates.Store.new place .empty).expected).certs
      files m).2 = .ok ((Certificates.Store.new place .empty).expected m) := fun _ _ => rfl
  have hruns := runs_calm hready ((Reconciler.new .standard 1).apply (nodeOn port))
    ⟨.new 1, .new place .empty, []⟩
  obtain ⟨st, r, d, rebuilt, removed, hrun⟩ :=
    run_new (Certificates.Store.new place .empty).expected 1 (valid_nodeOn port)
  dsimp only at hruns
  rw [hrun] at hruns
  generalize (((Reconciler.new .standard 1).apply (nodeOn port)).run _ _).1 = s at hruns
  obtain ⟨hdisk, -⟩ := hruns.transfer (labelled_refines_onDisk (uniform_nodeOn port))
    (Reconciler.within_apply _ _) ⟨hnew.guarded.sound, rfl⟩
  obtain ⟨-, hended, -⟩ :=
    hnew.guarded.sure.pass (fixed_labelled _) (valid_nodeOn port) hruns
  have hlanded := hnew.pass (valid_nodeOn port) (uniform_nodeOn port) hdisk
  have hserved := hnew.served_eq_applied (valid_nodeOn port) (uniform_nodeOn port) hdisk rfl nofun
  obtain ⟨happlied, hconverged, -⟩ := hended.of_applied
  rw [hserved, happlied] at hlanded
  obtain ⟨k, v, hk, hv⟩ := hconverged.shows.bind
  exact ⟨s, r, hlanded, happlied, k, v, _, hk, hv⟩

theorem first_pass_files_present : ∃ (s : Site Certificates.Store) (r : Reconciler)
    (k : Dataplane.ObjectKey) (v : Json) (t : String),
    Landed .standard s r (some (nodeOn 20000)) ∧ s.store.objects.get? k = some v ∧
      v.field? "ssl_certificate" = some (.string t) ∧
      s.files.Holds t (Certificates.certificateText (nodeOn 20000).downstream.tls) := by
  obtain ⟨s, r, hlanded, happlied, k, v, t, hk, hv⟩ := landed_first "/certs" 20000
  obtain ⟨x, hx, hcertificate, -⟩ := named_files_present hlanded (by rw [happlied]) hk
  obtain rfl := Option.some.inj hx
  exact ⟨s, r, k, v, t, hlanded, hk, hv, hcertificate t hv⟩

end MeshSync.Reconcile
