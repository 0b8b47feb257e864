import MeshSync.Proofs.Reconcile.Likeness
import MeshSync.Proofs.Reconcile.Sole

/-! # When a pass has nothing to do

    A pass whose snapshot asks for what the last commit asked for sends no
    request.  `Alone` follows a reconciler that is the only one to commit, with
    the passes it made and how they ended.  In each of its states a pass comes
    to nothing exactly if the last one did not fail and its snapshot `Agrees`
    with the one that was committed last; and building everything anew from the
    store would then come to a store that is `Alike` (`skips_iff`). -/

namespace MeshSync.Reconcile

open Certificates (Provider)
open Dataplane
open Dialogue (Runs)

variable {κ : Type} {provider : Provider κ} {paths : TlsMaterial → Certificates.Paths}
  {options : Options} {previous next : Snapshot} {s s' : Site κ} {r r' : Reconciler}

/-! ## Snapshots that ask for the same -/

/-- Whether two snapshots ask for the same downstream, and for the same upstreams
    under the same names, in whatever order. -/
structure Agrees (a b : Snapshot) : Prop where
  downstream : a.downstream = b.downstream
  upstreams : ∀ service,
    Option.Rel (fun u w => u.same w = true) (a.upstream? service) (b.upstream? service)

theorem Agrees.refl (x : Snapshot) : Agrees x x := by
  refine ⟨rfl, fun service => ?_⟩
  cases x.upstream? service with
  | none => exact .none
  | some u => exact .some (by simp [Upstream.same])

theorem Agrees.of_upstream (h : Agrees previous next) (hprevious : previous.Valid)
    (hnext : next.Valid) {w : Upstream} (hw : w ∈ next.upstreams) :
    ∃ u ∈ previous.upstreams, u.service = w.service ∧ u.same w = true := by
  have hrel := h.upstreams w.service
  rw [(Snapshot.upstream?_eq_some_iff hnext).2 ⟨hw, rfl⟩] at hrel
  cases hu : previous.upstream? w.service with
  | none =>
      rw [hu] at hrel
      cases hrel
  | some u =>
      rw [hu] at hrel
      cases hrel with
      | some hsame =>
          obtain ⟨hmem, hservice⟩ := (Snapshot.upstream?_eq_some_iff hprevious).1 hu
          exact ⟨u, hmem, hservice, hsame⟩

theorem Agrees.mem_iff (h : Agrees previous next) (service : String) :
    (∀ w ∈ next.upstreams, w.service ≠ service) ↔
      ∀ u ∈ previous.upstreams, u.service ≠ service := by
  rw [← Snapshot.upstream?_isNone_iff, ← Snapshot.upstream?_isNone_iff]
  have hrel := h.upstreams service
  generalize previous.upstream? service = u at hrel ⊢
  generalize next.upstream? service = w at hrel ⊢
  cases hrel with
  | none => exact Iff.rfl
  | some _ => exact ⟨nofun, nofun⟩

namespace Plan

theorem removed_between_iff (h : previous.Valid) : (between (some previous) next).removed = [] ↔
    ∀ u ∈ previous.upstreams, ∃ w ∈ next.upstreams, w.service = u.service := by
  constructor
  · intro hnil u hu
    by_contra hnot
    have hgone : (next.upstream? u.service).isNone = true :=
      Snapshot.upstream?_isNone_iff.2 fun w hw heq => hnot ⟨w, hw, heq⟩
    have hkey : u.service ∈ (byName (some previous)).keys :=
      (SortedMap.mem_keys _ _).2 ⟨u, (byName_eq_some_iff h).2 ⟨hu, rfl⟩⟩
    have hmem : (u.service, Existing.both) ∈ (between (some previous) next).removed :=
      List.mem_map.2 ⟨u.service, List.mem_filter.2 ⟨hkey, hgone⟩, rfl⟩
    rw [hnil] at hmem
    exact absurd hmem List.not_mem_nil
  · refine fun hall => List.eq_nil_iff_forall_not_mem.2 fun x hx => ?_
    obtain ⟨⟨u, hu, hservice⟩, hgone, -⟩ := mem_removed_between h hx
    obtain ⟨w, hw, heq⟩ := hall u hu
    exact hgone w hw (heq.trans hservice)

theorem rebuilt_between_iff (h : previous.Valid) : (between (some previous) next).rebuilt = [] ↔
    ∀ w ∈ next.upstreams, ∃ u ∈ previous.upstreams, u.service = w.service ∧ u.same w = true := by
  refine List.filterMap_eq_nil_iff.trans (forall₂_congr fun w _ => ?_)
  rw [rebuild?_eq_none_iff h]
  exact exists_congr fun u => and_congr_right fun _ =>
    ⟨fun hsame => ⟨service_of_same hsame, hsame⟩, fun hboth => hboth.2⟩

/-- **A plan has nothing to do exactly if the snapshots ask for the same.** -/
theorem isEmpty_between_iff (h : previous.Valid) (hnext : next.Valid) :
    (between (some previous) next).isEmpty = true ↔ Agrees previous next := by
  rw [isEmpty, Bool.and_eq_true, Bool.and_eq_true, Option.isNone_iff_eq_none, List.isEmpty_iff,
    List.isEmpty_iff, downstream_between_iff, removed_between_iff h, rebuilt_between_iff h]
  constructor
  · rintro ⟨⟨hdownstream, hremoved⟩, hrebuilt⟩
    refine ⟨hdownstream, fun service => ?_⟩
    cases hw : next.upstream? service with
    | some w =>
        obtain ⟨hmem, rfl⟩ := (Snapshot.upstream?_eq_some_iff hnext).1 hw
        obtain ⟨u, hu, hservice, hsame⟩ := hrebuilt w hmem
        rw [(Snapshot.upstream?_eq_some_iff h).2 ⟨hu, hservice⟩]
        exact .some hsame
    | none =>
        cases hu : previous.upstream? service with
        | none => exact .none
        | some u =>
            obtain ⟨hmem, rfl⟩ := (Snapshot.upstream?_eq_some_iff h).1 hu
            obtain ⟨w, hw', hservice⟩ := hremoved u hmem
            rw [(Snapshot.upstream?_eq_some_iff hnext).2 ⟨hw', hservice⟩] at hw
            cases hw
  · intro hagrees
    refine ⟨⟨hagrees.downstream, fun u hu => ?_⟩,
      fun w hw => hagrees.of_upstream h hnext hw⟩
    by_contra hnot
    exact (hagrees.mem_iff u.service).1 (fun w hw heq => hnot ⟨w, hw, heq⟩) u hu rfl

end Plan

/-- What shows a snapshot shows every other one that asks for the same. -/
theorem Shows.of_agrees {objects : Objects} (h : Shows paths options previous objects)
    (hagrees : Agrees previous next) (hprevious : previous.Valid) (hnext : next.Valid) :
    Shows paths options next objects := by
  refine ⟨?_, fun w hw => ?_, fun service hservice => ?_⟩
  · have hstands := h.downstream
    rwa [downstreamOps, hagrees.downstream] at hstands
  · obtain ⟨u, hu, hservice, hsame⟩ := hagrees.of_upstream hprevious hnext hw
    obtain ⟨z, hz, hstands⟩ := h.upstreams u hu
    rw [hservice] at hstands
    exact ⟨z, Plan.same_trans hz hsame, hstands⟩
  · exact h.others service ((hagrees.mem_iff service).1 hservice)

/-! ## A reconciler on its own, and the passes it made -/

/-- The passes that were made, the last one first. -/
abbrev History := List (Snapshot × Except PassError Outcome)

/-- The snapshot of the last pass that was applied. -/
def committed : History → Option Snapshot
  | [] => none
  | (next, .ok (.applied _ _ _ _)) :: _ => some next
  | (_, .ok .unchanged) :: before => committed before
  | (_, .error _) :: before => committed before

/-- Whether the last pass failed. -/
def lastFailed : History → Bool
  | (_, .error _) :: _ => true
  | _ => false

/-- The states that a reconciler and its site get into where nobody else uses the
    store, which was free of objects of reconcilers at the start; and the passes
    that were made. -/
inductive Alone (provider : Provider κ) (options : Options) :
    Site κ → Reconciler → History → Prop
  | start {s : Site κ} (tracked : UInt64) (free : Free s.store.objects) :
      Alone provider options s (.new options tracked) []
  | pass {s s' : Site κ} {r r' : Reconciler} {history : History} {next : Snapshot}
      {out : Except PassError Outcome} (before : Alone provider options s r history)
      (valid : next.Valid) (runs : Runs (alone provider) (r.apply next) s s' (r', out)) :
      Alone provider options s' r' ((next, out) :: history)

namespace Alone

variable {history : History}

/-- A reconciler on its own is sure of the store, and knows its passes. -/
theorem sure (hpaths : Fixed provider paths) (h : Alone provider options s r history) :
    Sure paths options s.store r ∧ r.applied = committed history ∧
      r.force = lastFailed history := by
  induction h with
  | start tracked free => exact ⟨.new free options tracked, rfl, rfl⟩
  | pass before valid runs ih =>
      obtain ⟨hs, happlied, hforce⟩ := ih
      obtain ⟨hsure, hended, -⟩ := hs.pass hpaths valid runs
      refine ⟨hsure, ?_⟩
      cases hended with
      | unchanged empty force store reconciler => exact ⟨reconciler ▸ happlied, reconciler ▸ force⟩
      | applied reconciler converged => exact ⟨by rw [reconciler]; rfl, by rw [reconciler]; rfl⟩
      | failed force kept store => exact ⟨kept.trans happlied, force⟩

end Alone

/-- A pass that has nothing to do asks nothing. -/
theorem apply_eq_done (hforce : r.force = false)
    (hempty : (Plan.between r.applied next).isEmpty = true) :
    r.apply next = .done (r, .ok .unchanged) := by
  rw [Reconciler.apply, hforce, if_neg Bool.noConfusion, Reconciler.carryOut, if_pos hempty]

/-- **Skipping a pass agrees with building everything anew.** In every state of a
    reconciler that is the only one to commit, over a store that was free of its
    objects and listed no stranger under a name it owns (`Free`), and whatever
    trouble there was: a pass comes to nothing exactly if
    the last one did not fail and the snapshot asks for what was committed last.
    It then asks nothing at all; and a pass that starts from the store would be
    applied, leave all other objects as they are, and come to objects that are
    the same but for the names and the repetition of the servers of an
    upstream. -/
theorem skips_iff {history : History} (hpaths : Fixed provider paths)
    (h : Alone provider options s r history) (hnext : next.Valid) :
    (∀ s' r' out, Runs (alone provider) (r.apply next) s s' (r', out) →
      (out = .ok .unchanged ↔
        lastFailed history = false ∧ ∃ p, committed history = some p ∧ Agrees p next)) ∧
    (lastFailed history = false → (∃ p, committed history = some p ∧ Agrees p next) →
      r.apply next = .done (r, .ok .unchanged) ∧
      ∃ s' r' v downstream rebuilt removed,
        ({ r with force := true }.apply next).run (calm paths) s.store =
          (s', r', .ok (.applied v downstream rebuilt removed)) ∧
        Alike s.store.objects s'.objects ∧
        ∀ k, ¬ Owned k → s'.objects.get? k = s.store.objects.get? k) := by
  obtain ⟨hs, happlied, hforce⟩ := h.sure hpaths
  have skipped : lastFailed history = false → (∃ p, committed history = some p ∧ Agrees p next) →
      r.apply next = .done (r, .ok .unchanged) := by
    rintro hlast ⟨p, hp, hagrees⟩
    refine apply_eq_done (hforce.trans hlast) ?_
    rw [happlied, hp]
    exact (Plan.isEmpty_between_iff (hs.valid p (happlied.trans hp)) hnext).2 hagrees
  refine ⟨fun s' r' out hrun => ⟨?_, fun ⟨hlast, hagrees⟩ => ?_⟩, fun hlast hagrees =>
    ⟨skipped hlast hagrees, ?_⟩⟩
  · rintro rfl
    obtain ⟨-, hended, -⟩ := hs.pass hpaths hnext hrun
    cases hended with
    | unchanged hempty hf store reconciler =>
        refine ⟨hforce.symm.trans hf, ?_⟩
        cases hp : r.applied with
        | none =>
            rw [hp] at hempty
            cases hempty
        | some p =>
            rw [hp] at hempty
            exact ⟨p, happlied.symm.trans hp,
              (Plan.isEmpty_between_iff (hs.valid p hp) hnext).1 hempty⟩
  · rw [skipped hlast hagrees] at hrun
    exact (Prod.mk.inj (Runs.done_iff.1 hrun).2).2
  · obtain ⟨p, hp, hagrees⟩ := hagrees
    have hp := happlied.trans hp
    have hvalid := hs.valid p hp
    have hknows := hs.knows (hforce.trans hlast)
    rw [Known, hp] at hknows
    have hshows := (hknows.2.shows).of_agrees hagrees hvalid hnext
    -- the same reconciler, made to start from the store
    have hsure : Sure paths options s.store { r with force := true } :=
      ⟨hs.settings, hs.tidy, hs.valid, fun hf => by cases hf⟩
    obtain ⟨s', r', d, b, c, hrun, hcarried⟩ := hsure.exists_run hnext rfl
    obtain ⟨hconverged, -, hstrangers⟩ := hsure.carried_out hnext hcarried
    exact ⟨s', r', _, d, b, c, hrun, alike_of_shows hnext hshows hconverged.shows, hstrangers⟩

/-- `nodeOn`, with the endpoint of its upstream found twice. -/
def twiceOn (port : UInt16) : Snapshot :=
  { nodeOn port with
    upstreams := [⟨"db", "127.0.0.1", 5432, ⟨[], [], []⟩,
      [⟨"10.0.0.1", 5432, 1⟩, ⟨"10.0.0.1", 5432, 1⟩]⟩] }

theorem valid_twiceOn (port : UInt16) : (twiceOn port).Valid :=
  ⟨(by decide : ["db"].Nodup), fun u hu => by
    rw [List.mem_singleton.1 hu]
    exact (by decide : Url.Unreserved "db")⟩

/-- A reconciler whose first pass was applied. -/
theorem alone_first (port : UInt16) : ∃ s r d rebuilt removed,
    Alone (ready oneFile) .standard s r
      [(nodeOn port, .ok (.applied 2 d rebuilt removed))] := by
  obtain ⟨st, r, d, rebuilt, removed, hrun⟩ := run_first 1 port
  have hruns := runs_calm (certs_ready oneFile)
    ((Reconciler.new .standard 1).apply (nodeOn port)) fresh
  rw [show fresh.store = Store.new 1 from rfl, hrun] at hruns
  exact ⟨_, r, d, rebuilt, removed, .pass (.start 1 .empty) (valid_nodeOn port) hruns⟩

/-- An endpoint that is found twice makes no difference. -/
theorem agrees_twiceOn (port : UInt16) : Agrees (nodeOn port) (twiceOn port) := by
  refine ⟨rfl, fun service => ?_⟩
  rw [Snapshot.upstream?, Snapshot.upstream?, nodeOn, twiceOn, List.find?_singleton,
    List.find?_singleton]
  dsimp only
  split
  · exact .some (by simp [Upstream.same, Upstream.endpointSet, Endpoint.toSet, Endpoint.sort,
      List.mergeSort, List.cons_merge_cons, Endpoint.dedupSorted])
  · exact .none

theorem skips_endpoint_found_twice : ∃ (s : Site Unit) (r : Reconciler) (d : Bool)
    (rebuilt removed : Nat),
    Alone (ready oneFile) .standard s r
      [(nodeOn 20000, .ok (.applied 2 d rebuilt removed))] ∧
    r.apply (twiceOn 20000) = .done (r, .ok .unchanged) := by
  obtain ⟨s, r, d, rebuilt, removed, h⟩ := alone_first 20000
  obtain ⟨-, hskips⟩ := skips_iff (fixed_ready oneFile) h (valid_twiceOn 20000)
  exact ⟨s, r, d, rebuilt, removed, h, (hskips rfl ⟨_, rfl, agrees_twiceOn 20000⟩).1⟩

end MeshSync.Reconcile
