import MeshSync.Proofs.Reconcile.Filing

/-! # How certificate files get lost

    The directory keeps the files of the materials that it was told to be in
    use.  A pass that fails at its commit tells of none, though it may have been
    carried out, and then the store names its files (`Guarded.exists_cut`).  The
    passes after it can fail as well, each with a material of its own
    (`Landed.failing`), until the directory is full and the files go that the
    store names (`unreported_files_lost`). -/

namespace MeshSync.Reconcile

open Dataplane (calm ne_add_one)
open Dialogue (Runs)

variable {options : Options} {next : Snapshot} {s s' : Site Certificates.Store}
  {r r' : Reconciler} {served : Option Snapshot}

/-- A pass with one material asks for its files again and again, or never. -/
theorem keeps_asked (huniform : next.Uniform) : (alone onDisk).Keeps (transacting next)
    fun s s' => s.files.Sound → s'.files = s.files ∨
      s'.files = (s.files.pathsFor next.downstream.tls).1 where
  refl s _ := .inl rfl
  trans {s s' s''} h h' hs := by
    rcases h hs with hsame | hasked
    · rw [← hsame]
      exact h' (hsame ▸ hs)
    · obtain ⟨-, hlater, k, hk, hmaterial, -⟩ := hs.pathsFor next.downstream.tls
      -- once they are there, asking for them changes nothing
      have hagain : (s'.files.pathsFor next.downstream.tls).1 = s'.files := by
        rw [← hasked] at hk
        rw [← hmaterial, Certificates.Store.Sound.pathsFor_of_kept (hasked ▸ hlater.sound) hk]
      have hs' : s'.files.Sound := hasked ▸ hlater.sound
      rcases h' hs' with hsame | hsame
      · exact .inr (hsame.trans hasked)
      · rw [hagain] at hsame
        exact .inr (hsame.trans hasked)
  send {s q s' a} _ hsend _ := .inl (files_of_delivered (alone_send_iff.1 hsend))
  certs {s m s' a} hm hcerts _ := by
    obtain ⟨rfl, -⟩ := hcerts
    obtain rfl := huniform m hm
    exact .inr rfl
  retain htells := htells.elim

/-- A pass that gets as far as its commit: it has filed its material and
    committed nothing, and the request for the commit may fail before it is
    carried out or after it. -/
structure Cut (options : Options) (next : Snapshot) (s : Site Certificates.Store) (r : Reconciler)
    (s' : Site Certificates.Store) (q : Dataplane.Request) (r' : Reconciler) : Prop where
  files : s'.files = (s.files.pathsFor next.downstream.tls).1
  kept : Kept s s'
  converged : Converged s.files.expected options next (s'.carry q).store.objects
  version : (s'.carry q).store.version = s.store.version + 1
  runs : ∀ s₁, Delivered s' q s₁ (.error .http) →
    Runs (alone onDisk) (r.apply next) s s₁ (r', .error (.dataplane .http))

/-- **A pass that would be applied may fail at its commit.** -/
theorem Guarded.exists_cut (h : Guarded options s r served) (hnext : next.Valid)
    (huniform : next.Uniform) (hrun : ∃ st r₁ v downstream rebuilt removed,
      (r.apply next).run (calm s.files.expected) s.store =
        (st, r₁, .ok (.applied v downstream rebuilt removed))) :
    ∃ s' q r', Cut options next s r s' q r' := by
  obtain ⟨st, r₁, v, d, b, c, hrun⟩ := hrun
  have hready : ∀ files m, ((labelled s.files.expected).certs files m).2 =
      .ok (s.files.expected m) := fun _ _ => rfl
  have hruns := runs_calm hready (r.apply next) s
  rw [hrun] at hruns
  generalize ((r.apply next).run (quiet (labelled s.files.expected)) s).1 = s₁ at hruns
  -- the pass without trouble, whose files go by their labels and lie on disk
  obtain ⟨-, hended, -⟩ := h.sure.pass (fixed_labelled _) hnext hruns
  obtain ⟨-, hconverged, hversion⟩ := hended.of_applied
  obtain ⟨s', q, r', hretain, hkept, hcut⟩ := runs_apply_cut hruns
  have hstocked : Stocked s.files.expected next.downstream.tls s := ⟨h.sound, rfl⟩
  obtain ⟨hdisk, -⟩ := hruns.transfer (labelled_refines_onDisk huniform)
    (Reconciler.within_apply r next) hstocked
  obtain ⟨⟨-, k, hk, hmaterial⟩, -⟩ := filed_of_applied huniform h.sound
    (fun p hp => ⟨h.sound, h.kept _ (h.told p hp)⟩) hdisk
  obtain ⟨hstore, hfiles⟩ := told_of_retain hretain
  rw [hstore] at hconverged hversion
  rw [hfiles, s'.carry_files q] at hk
  have hfailing : ∀ s₁, Delivered s' q s₁ (.error .http) →
      Runs (alone onDisk) (r.apply next) s s₁ (r', .error (.dataplane .http)) :=
    fun s₁ hdelivered => ((hcut s₁ .http hdelivered rfl).transfer
      (labelled_refines_onDisk huniform) (Reconciler.within_apply r next) hstocked).1
  refine ⟨s', q, r', ?_, hkept, hconverged, hversion, hfailing⟩
  rcases Reconciler.keeps_of_error (keeps_asked huniform) (hfailing s' (.lost .http)) h.sound with
    hsame | hasked
  · -- the material was there before the pass
    have hk : k ∈ s.files.kept := hsame ▸ hk
    rw [hsame, ← hmaterial, h.sound.pathsFor_of_kept hk]
  · exact hasked

namespace Landed

/-- **After a failed pass there may be another one** that has its own material
    filed and leaves the store as it is. -/
theorem failing (h : Landed options s r served) (hforce : r.force = true) (hnext : next.Valid)
    (huniform : next.Uniform) : ∃ s' r', Landed options s' r' served ∧ r'.force = true ∧
      s'.files = (s.files.pathsFor next.downstream.tls).1 ∧
      s'.store.objects = s.store.objects := by
  have hguarded := h.guarded
  obtain ⟨st, r₁, d, b, c, hrun, -⟩ := hguarded.sure.exists_run hnext hforce
  obtain ⟨s', q, r', hcut⟩ :=
    hguarded.exists_cut hnext huniform ⟨st, r₁, st.version, d, b, c, hrun⟩
  have hruns := hcut.runs s' (.lost .http)
  have hlanded := h.pass hnext huniform hruns
  rw [if_pos hcut.kept.version] at hlanded
  obtain ⟨hforce', -⟩ := Reconciler.apply_error hruns
  exact ⟨s', r', hlanded, hforce', hcut.files, hcut.kept.objects⟩

/-- And so with any number of passes. -/
theorem failing_all (h : Landed options s r served) (hforce : r.force = true)
    {xs : List Snapshot} (hxs : ∀ x ∈ xs, x.Valid ∧ x.Uniform) :
    ∃ s' r', Landed options s' r' served ∧
      s'.files = s.files.asked (xs.map (·.downstream.tls)) ∧
      s'.store.objects = s.store.objects := by
  induction xs generalizing s r with
  | nil => exact ⟨s, r, h, rfl, rfl⟩
  | cons x xs ih =>
      obtain ⟨hvalid, huniform⟩ := hxs x List.mem_cons_self
      obtain ⟨s₁, r₁, h₁, hforce₁, hfiles₁, hobjects₁⟩ := h.failing hforce hvalid huniform
      obtain ⟨s', r', h', hfiles, hobjects⟩ :=
        ih h₁ hforce₁ fun y hy => hxs y (List.mem_cons_of_mem _ hy)
      refine ⟨s', r', h', ?_, hobjects.trans hobjects₁⟩
      rw [hfiles, hfiles₁]
      rfl

end Landed

/-- **Files that the store names get lost** after a failed pass, if the directory
    was not told of them: in passes that fail with as many new materials as it
    takes to have one too many. -/
theorem unreported_files_lost (h : Landed options s r served) (hforce : r.force = true)
    {k : Certificates.Kept} {rest : List Certificates.Kept} (hkept : s.files.kept = k :: rest)
    (hunused : k.material ∉ s.files.committed) (xs : List Snapshot) (x : Snapshot)
    (hxs : ∀ y ∈ xs ++ [x], y.Valid ∧ y.Uniform)
    (hnew : (s.files.kept.map (·.material) ++ (xs ++ [x]).map (·.downstream.tls)).Nodup)
    (hfull : s.files.kept.length + xs.length = Certificates.capacity) :
    ∃ s' r', Landed options s' r' served ∧ s'.store.objects = s.store.objects ∧
      ∀ content, ¬ s'.files.Holds (k.paths s.files.place).certificate content := by
  obtain ⟨s', r', h', hfiles, hobjects⟩ := h.failing_all hforce hxs
  refine ⟨s', r', h', hobjects, fun content => ?_⟩
  rw [List.map_append] at hnew hfiles
  rw [hfiles]
  refine h.guarded.sound.lost hkept hunused hnew ?_ content
  rw [List.length_map]
  exact hfull

/-- `nodeOn` without upstreams, with a certificate of its own. -/
def rotated (n : UInt8) : Snapshot :=
  { nodeOn 20000 with
    downstream := ⟨"0.0.0.0", 20000, "127.0.0.1", 8080, ⟨[], [n], []⟩⟩
    upstreams := [] }

theorem valid_rotated (n : UInt8) : (rotated n).Valid := ⟨.nil, nofun⟩

theorem uniform_rotated (n : UInt8) : (rotated n).Uniform := fun _ hm => List.mem_singleton.1 hm

/-- The first pass of a reconciler fails although its commit was carried out. -/
theorem landed_unreported : ∃ s r k v, Landed .standard s r (some (nodeOn 20000)) ∧
    r.force = true ∧ s.store.objects.get? k = some v ∧
    v.field? "ssl_certificate" =
      some (.string ((⟨⟨[], [], []⟩, Certificates.pairId 1⟩ : Certificates.Kept).paths
        "/certs").certificate) ∧
    s.files = ((Certificates.Store.new "/certs" .empty).pathsFor ⟨[], [], []⟩).1 := by
  have hnew : Landed .standard ⟨.new 1, .new "/certs" .empty, []⟩ (.new .standard 1) none :=
    .start 1 1 "/certs"
  obtain ⟨st, r₁, d, b, c, hrun⟩ := run_new
    (Certificates.Store.new "/certs" .empty).expected 1 (valid_nodeOn 20000)
  obtain ⟨s', q, r', hcut⟩ := hnew.guarded.exists_cut (valid_nodeOn 20000) (uniform_nodeOn 20000)
    ⟨st, r₁, 1 + 1, d, b, c, hrun⟩
  have hruns := hcut.runs (s'.carry q) (.muted .http)
  have hlanded := hnew.pass (valid_nodeOn 20000) (uniform_nodeOn 20000) hruns
  rw [hcut.version, if_neg (ne_add_one _)] at hlanded
  obtain ⟨hforce, -⟩ := Reconciler.apply_error hruns
  obtain ⟨k, v, hk, hv⟩ := hcut.converged.shows.bind
  refine ⟨s'.carry q, r', k, v, hlanded, hforce, hk, hv, ?_⟩
  rw [s'.carry_files q]
  exact hcut.files

/-- **The store may name files that are not there**: the answer to the commit of
    the first pass gets lost, and the next eight passes fail, each with a new
    certificate. -/
theorem named_files_may_be_lost : ¬ ∀ (options : Options) (s : Site Certificates.Store)
    (r : Reconciler) (served : Option Snapshot) (k : Dataplane.ObjectKey) (v : Json) (t : String),
    Landed options s r served → s.store.objects.get? k = some v →
    v.field? "ssl_certificate" = some (.string t) → ∃ content, s.files.Holds t content := by
  intro hall
  obtain ⟨s, r, k, v, h, hforce, hk, hv, hfiles⟩ := landed_unreported
  have hsound := Certificates.Store.sound_new "/certs"
  have hkept : s.files.kept = [⟨⟨[], [], []⟩, Certificates.pairId 1⟩] := by
    rw [hfiles]
    exact hsound.kept_pathsFor (m := ⟨[], [], []⟩) List.not_mem_nil (by decide)
  have hunused : ⟨[], [], []⟩ ∉ s.files.committed := by
    rw [hfiles, (hsound.pathsFor ⟨[], [], []⟩).2.1.committed]
    exact List.not_mem_nil
  have hplace : s.files.place = "/certs" := by
    rw [hfiles, (hsound.pathsFor ⟨[], [], []⟩).2.1.place]
    rfl
  have hrotated : ∀ x ∈ [1, 2, 3, 4, 5, 6, 7].map rotated ++ [rotated 8], x.Valid ∧ x.Uniform := by
    intro x hx
    have hx : x ∈ [1, 2, 3, 4, 5, 6, 7, 8].map rotated := hx
    obtain ⟨n, -, rfl⟩ := List.mem_map.1 hx
    exact ⟨valid_rotated n, uniform_rotated n⟩
  obtain ⟨s', r', h', hobjects, hlost⟩ := unreported_files_lost h hforce hkept hunused _ _ hrotated
    (by rw [hkept]; decide) (by rw [hkept]; rfl)
  rw [hplace] at hlost
  rw [← hobjects] at hk
  obtain ⟨content, hcontent⟩ := hall .standard s' r' _ k v _ h' hk hv
  exact hlost content hcontent

end MeshSync.Reconcile
