import MeshSync.Proofs.Reconcile.Reworking
import MeshSync.Proofs.Reconcile.Serving

/-! # Plans as reworks

    What a plan stages depends on the certificate files that it is given, part
    by part (`Rendered`).  But whatever they are, it reworks the listeners that
    it touches, with what it believes to be there of them, and builds those that
    its snapshot wants (`Plan.reworks_of_rendered`). -/

namespace MeshSync.Reconcile

open Dataplane

variable {options : Options} {next : Snapshot} {p : Plan} {ops : List Operation}

/-! ## Rendering -/

/-- What parts stage, for some files for each part that needs any. -/
inductive Rendered : List Part → List Operation → Prop
  | nil : Rendered [] []
  | plain {parts : List Part} {ops : List Operation} (op : Operation) (rest : Rendered parts ops) :
      Rendered (.plain op :: parts) (op :: ops)
  | sealed {parts : List Part} {ops : List Operation} {m : TlsMaterial}
      {f : Certificates.Paths → List Operation} (files : Certificates.Paths)
      (rest : Rendered parts ops) : Rendered (.sealed m f :: parts) (f files ++ ops)

namespace Rendered

theorem exists_rendered (parts : List Part) : ∃ ops, Rendered parts ops := by
  induction parts with
  | nil => exact ⟨[], .nil⟩
  | cons part parts ih =>
      obtain ⟨ops, hops⟩ := ih
      cases part with
      | plain op => exact ⟨_, .plain op hops⟩
      | sealed m f => exact ⟨_, .sealed default hops⟩

/-- What holds of the operations of all parts holds of what the parts stage. -/
theorem forall_mem {P : Operation → Prop} {parts : List Part} (h : Rendered parts ops)
    (hp : ∀ part ∈ parts, ∀ files, ∀ op ∈ part.operations fun _ => files, P op) :
    ∀ op ∈ ops, P op := by
  induction h with
  | nil => exact fun op hop => absurd hop List.not_mem_nil
  | plain op rest ih =>
      have hfirst := hp _ List.mem_cons_self default op (List.mem_singleton_self op)
      exact List.forall_mem_cons.2 ⟨hfirst, ih fun part h => hp part (List.mem_cons_of_mem _ h)⟩
  | sealed files rest ih =>
      have hfirst := hp _ List.mem_cons_self files
      exact List.forall_mem_append.2 ⟨hfirst, ih fun part h => hp part (List.mem_cons_of_mem _ h)⟩

theorem of_append {ps qs : List Part} (h : Rendered (ps ++ qs) ops) :
    ∃ os os', ops = os ++ os' ∧ Rendered ps os ∧ Rendered qs os' := by
  induction ps generalizing ops with
  | nil => exact ⟨[], ops, rfl, .nil, h⟩
  | cons part ps ih =>
      cases h with
      | plain op rest =>
          obtain ⟨os, os', rfl, hps, hqs⟩ := ih rest
          exact ⟨op :: os, os', rfl, .plain op hps, hqs⟩
      | sealed files rest =>
          obtain ⟨os, os', rfl, hps, hqs⟩ := ih rest
          exact ⟨_, os', (List.append_assoc _ _ _).symm, .sealed files hps, hqs⟩

theorem of_plain {os : List Operation} (h : Rendered (os.map .plain) ops) : ops = os := by
  induction os generalizing ops with
  | nil =>
      cases h
      rfl
  | cons op os ih =>
      cases h with
      | plain op rest => rw [ih rest]

theorem of_sealed {m : TlsMaterial} {f : Certificates.Paths → List Operation}
    (h : Rendered [.sealed m f] ops) : ∃ files, ops = f files := by
  cases h with
  | sealed files rest =>
      cases rest
      exact ⟨files, List.append_nil _⟩

/-- The downstream has one part that needs files. -/
theorem of_downstream {d : Downstream} (h : Rendered (Downstream.build d options) ops) :
    ∃ files, ops = operations (fun _ => files) (Downstream.build d options) := by
  cases h with
  | plain op rest =>
      obtain ⟨files, rfl⟩ := rest.of_sealed
      refine ⟨files, ?_⟩
      rw [Downstream.build, operations, List.flatMap_cons, List.flatMap_cons, List.flatMap_nil,
        List.append_nil]
      rfl

/-- So has an upstream, if it has endpoints. -/
theorem of_upstream {u : Upstream} (h : Rendered (Upstream.build u options) ops) :
    ∃ files, ops = operations (fun _ => files) (Upstream.build u options) := by
  rw [Upstream.build] at h ⊢
  obtain ⟨os, os', rfl, hframe, hservers⟩ := h.of_append
  rw [hframe.of_plain]
  split at hservers
  · cases hservers
    rename_i hempty
    exact ⟨default, by rw [if_pos hempty, operations_append, operations_plain]; rfl⟩
  · rename_i hsome
    obtain ⟨files, rfl⟩ := hservers.of_sealed
    refine ⟨files, ?_⟩
    rw [if_neg hsome, operations_append, operations_plain, operations, List.flatMap_cons,
      List.flatMap_nil, List.append_nil]
    rfl

end Rendered

/-! ## Listeners that are wanted -/

/-- Whether a snapshot, if there is one, asks for a listener. -/
def Wanted : Option Snapshot → Listener → Prop
  | none, _ => False
  | some s, l => l = .downstream ∨ ∃ u ∈ s.upstreams, l = .upstream u.service

theorem wanted_upstream_iff {s : Snapshot} {service : String} :
    Wanted (some s) (.upstream service) ↔ ∃ u ∈ s.upstreams, u.service = service := by
  constructor
  · rintro (h | ⟨u, hu, h⟩)
    · exact absurd h.symm (Listener.downstream_ne_upstream service)
    · exact ⟨u, hu, (Listener.upstream_inj h).symm⟩
  · rintro ⟨u, hu, rfl⟩
    exact .inr ⟨u, hu, rfl⟩

namespace Plan

/-- The listeners that a plan touches, with what it believes to be there of
    them. -/
def touched (p : Plan) : List (Listener × Existing) :=
  (p.downstream.map (Listener.downstream, ·)).toList ++
    (p.removed.map (fun x => (Listener.upstream x.1, x.2)) ++
      p.rebuilt.map fun x => (Listener.upstream x.1, x.2))

theorem mem_touched {x : Listener × Existing} (h : x ∈ p.touched) :
    (∃ e, p.downstream = some e ∧ x = (.downstream, e)) ∨
      ∃ y, (y ∈ p.removed ∨ y ∈ p.rebuilt) ∧ x = (.upstream y.1, y.2) := by
  rcases List.mem_append.1 h with h | h
  · obtain ⟨e, he, rfl⟩ := Option.map_eq_some_iff.1 (Option.mem_toList.1 h)
    exact .inl ⟨e, he, rfl⟩
  · rcases List.mem_append.1 h with h | h
    · obtain ⟨y, hy, rfl⟩ := List.mem_map.1 h
      exact .inr ⟨y, .inl hy, rfl⟩
    · obtain ⟨y, hy, rfl⟩ := List.mem_map.1 h
      exact .inr ⟨y, .inr hy, rfl⟩

theorem touched_downstream {e : Existing} (h : p.downstream = some e) :
    (.downstream, e) ∈ p.touched := by
  rw [touched, h]
  exact List.mem_cons_self

theorem touched_removed {x : String × Existing} (h : x ∈ p.removed) :
    (.upstream x.1, x.2) ∈ p.touched :=
  List.mem_append_right _ (List.mem_append_left _ (List.mem_map.2 ⟨x, h, rfl⟩))

theorem touched_rebuilt {x : String × Existing} (h : x ∈ p.rebuilt) :
    (.upstream x.1, x.2) ∈ p.touched :=
  List.mem_append_right _ (List.mem_append_right _ (List.mem_map.2 ⟨x, h, rfl⟩))

/-- No listener is touched twice. -/
theorem Sound.nodup_touched (h : p.Sound next) : (p.touched.map (·.1)).Nodup := by
  have hupstreams : (p.removed.map (fun x => (Listener.upstream x.1, x.2)) ++
      p.rebuilt.map fun x => (Listener.upstream x.1, x.2)).map (·.1) =
        (p.removed.map (·.1) ++ p.rebuilt.map (·.1)).map Listener.upstream := by
    simp only [List.map_append, List.map_map]
    rfl
  rw [touched, List.map_append, hupstreams]
  refine List.nodup_append.2 ⟨?_, h.distinct.map fun a b => Listener.upstream_inj, ?_⟩
  · cases p.downstream with
    | none => exact .nil
    | some e => exact List.nodup_singleton _
  · rintro l hl m hm rfl
    obtain ⟨x, hx, rfl⟩ := List.mem_map.1 hl
    obtain ⟨e, -, rfl⟩ := Option.map_eq_some_iff.1 (Option.mem_toList.1 hx)
    obtain ⟨service, -, hservice⟩ := List.mem_map.1 hm
    exact Listener.downstream_ne_upstream service hservice.symm

/-- Whether a rework is what a snapshot asks for, where something is touched. -/
structure Answers (next : Snapshot) (x : Listener × Existing) (y : Rework) : Prop where
  same : (y.listener, y.believed) = x
  sound : y.Sound
  build : y.build = [] ↔ ¬ Wanted (some next) y.listener

/-- One rework after another. -/
theorem reworks_of_flatMap {α : Type} {f : α → List Part} {as : List α} (next : Snapshot)
    (g : α → Listener × Existing)
    (hf : ∀ a ∈ as, ∀ {os}, Rendered (f a) os → ∃ y, os = y.operations ∧ Answers next (g a) y)
    (h : Rendered (as.flatMap f) ops) : ∃ ys : List Rework, ops = ys.flatMap (·.operations) ∧
      ys.map (fun y => (y.listener, y.believed)) = as.map g ∧
        ∀ y ∈ ys, ∃ x, Answers next x y := by
  induction as generalizing ops with
  | nil =>
      cases h
      exact ⟨[], rfl, rfl, fun y hy => absurd hy List.not_mem_nil⟩
  | cons a as ih =>
      obtain ⟨os, os', rfl, hfirst, hrest⟩ := Rendered.of_append h
      obtain ⟨y, rfl, hy⟩ := hf a List.mem_cons_self hfirst
      obtain ⟨ys, rfl, hsame, hys⟩ := ih (fun b hb => hf b (List.mem_cons_of_mem _ hb)) hrest
      refine ⟨y :: ys, rfl, ?_, fun z hz => ?_⟩
      · rw [List.map_cons, List.map_cons, hsame, hy.same]
      · rcases List.mem_cons.1 hz with rfl | hz
        · exact ⟨_, hy⟩
        · exact hys z hz

/-- What builds a listener is not nothing. -/
theorem ne_nil_of_builds {l : Listener} (h : Builds l ops) : ops ≠ [] := by
  obtain ⟨op, hop, -⟩ := h.front
  exact List.ne_nil_of_mem hop

theorem answers_downstream {e : Existing}
    (h : Rendered (replaceParts .downstream e (Downstream.build next.downstream options)) ops) :
    ∃ y, ops = y.operations ∧ Answers next (.downstream, e) y := by
  obtain ⟨os, os', rfl, hteardown, hbuild⟩ := Rendered.of_append h
  obtain ⟨files, rfl⟩ := hbuild.of_downstream
  have hbuilds : Builds .downstream
      (operations (fun _ => files) (Downstream.build next.downstream options)) :=
    builds_downstream next.downstream options
  refine ⟨⟨.downstream, e, _⟩, ?_, rfl, ⟨Listener.plain_downstream, .inr hbuilds⟩, ?_⟩
  · rw [hteardown.of_plain]
    rfl
  · exact iff_of_false (ne_nil_of_builds hbuilds) (not_not.2 (.inl rfl))

theorem answers_removed (h : p.Sound next) {x : String × Existing} (hx : x ∈ p.removed)
    (hr : Rendered (replaceParts (.upstream x.1) x.2 []) ops) :
    ∃ y, ops = y.operations ∧ Answers next (.upstream x.1, x.2) y := by
  obtain ⟨os, os', rfl, hteardown, hbuild⟩ := Rendered.of_append hr
  cases hbuild
  obtain ⟨hname, hgone⟩ := h.removed x hx
  refine ⟨⟨.upstream x.1, x.2, []⟩, ?_, rfl, ⟨Listener.plain_upstream hname, .inl rfl⟩, ?_⟩
  · rw [hteardown.of_plain]
    rfl
  · refine iff_of_true rfl fun hwanted => ?_
    obtain ⟨u, hu, hservice⟩ := wanted_upstream_iff.1 hwanted
    exact hgone u hu hservice

theorem answers_rebuilt (h : p.Sound next) (hnext : next.Valid) {x : String × Existing}
    (hx : x ∈ p.rebuilt) (hr : Rendered (rebuildParts next options x.1 x.2) ops) :
    ∃ y, ops = y.operations ∧ Answers next (.upstream x.1, x.2) y := by
  obtain ⟨u, hu, hservice⟩ := h.rebuilt x hx
  rw [rebuildParts, (Snapshot.upstream?_eq_some_iff hnext).2 ⟨hu, hservice⟩] at hr
  obtain ⟨os, os', rfl, hteardown, hbuild⟩ := Rendered.of_append hr
  obtain ⟨files, rfl⟩ := hbuild.of_upstream
  have hname := hnext.unreserved u hu
  have hbuilds : Builds (.upstream u.service)
      (operations (fun _ => files) (Upstream.build u options)) := builds_upstream hname options
  rw [hservice] at hname hbuilds
  refine ⟨⟨.upstream x.1, x.2, _⟩, ?_, rfl, ⟨Listener.plain_upstream hname, .inr hbuilds⟩, ?_⟩
  · rw [hteardown.of_plain]
    rfl
  · exact iff_of_false (ne_nil_of_builds hbuilds)
      (not_not.2 (wanted_upstream_iff.2 ⟨u, hu, hservice⟩))

/-- **Whatever files it is given, a plan reworks the listeners that it touches**,
    and builds those that its snapshot wants. -/
theorem reworks_of_rendered (h : p.Sound next) (hnext : next.Valid)
    (hr : Rendered (p.parts next options) ops) : ∃ ys : List Rework,
      ops = ys.flatMap (·.operations) ∧ Reworks ys ∧
      ys.map (fun y => (y.listener, y.believed)) = p.touched ∧
      ∀ y ∈ ys, (y.build = [] ↔ ¬ Wanted (some next) y.listener) := by
  -- a plan has three stretches: the downstream listener, what is removed, what is rebuilt
  obtain ⟨os, os₃, rfl, hr, hr₃⟩ := Rendered.of_append hr
  obtain ⟨os₁, os₂, rfl, hr₁, hr₂⟩ := hr.of_append
  have hdownstream : Rendered (p.downstream.toList.flatMap fun e =>
      replaceParts .downstream e (Downstream.build next.downstream options)) os₁ := by
    cases hp : p.downstream with
    | none =>
        rw [hp] at hr₁
        exact hr₁
    | some e =>
        rw [hp] at hr₁
        rw [Option.toList_some, List.flatMap_cons, List.flatMap_nil, List.append_nil]
        exact hr₁
  obtain ⟨ys₁, rfl, hsame₁, hys₁⟩ := reworks_of_flatMap next
    (fun e => (Listener.downstream, e)) (fun e _ => answers_downstream) hdownstream
  obtain ⟨ys₂, rfl, hsame₂, hys₂⟩ := reworks_of_flatMap next
    (fun x => (Listener.upstream x.1, x.2)) (fun x hx => answers_removed h hx) hr₂
  obtain ⟨ys₃, rfl, hsame₃, hys₃⟩ := reworks_of_flatMap next
    (fun x => (Listener.upstream x.1, x.2)) (fun x hx => answers_rebuilt h hnext hx) hr₃
  have hsame : (ys₁ ++ ys₂ ++ ys₃).map (fun y => (y.listener, y.believed)) = p.touched := by
    rw [List.map_append, List.map_append, hsame₁, hsame₂, hsame₃, touched, List.append_assoc]
    cases p.downstream <;> rfl
  have hys : ∀ y ∈ ys₁ ++ ys₂ ++ ys₃, ∃ x, Answers next x y := by
    intro y hy
    rcases List.mem_append.1 hy with hy | hy
    · exact (List.mem_append.1 hy).elim (hys₁ y) (hys₂ y)
    · exact hys₃ y hy
  refine ⟨ys₁ ++ ys₂ ++ ys₃, ?_, ⟨fun y hy => ?_, ?_⟩, hsame, fun y hy => ?_⟩
  · rw [List.flatMap_append, List.flatMap_append]
  · obtain ⟨x, hx⟩ := hys y hy
    exact hx.sound
  · -- the listeners are those that the plan touches, each of them once
    have hdistinct := h.nodup_touched
    rw [← hsame, List.map_map] at hdistinct
    exact hdistinct
  · obtain ⟨x, hx⟩ := hys y hy
    exact hx.build

section Rendered

variable (h : p.Sound next) (hnext : next.Valid) (hr : Rendered (p.parts next options) ops)

include h hnext hr

/-- What a plan stages can be put into requests. -/
theorem legible_of_rendered : ∀ op ∈ ops, op.Legible := by
  obtain ⟨ys, rfl, hys, -, -⟩ := reworks_of_rendered h hnext hr
  exact hys.legible

/-- It keeps objects well formed. -/
theorem orderly_of_rendered : Orderly [] (ops.map (·.change)) := by
  obtain ⟨ys, rfl, hys, -, -⟩ := reworks_of_rendered h hnext hr
  rw [Reworks.map_operations]
  exact hys.orderly

/-- **It tears every listener down before it builds it.** -/
theorem tearsDownFirst_of_rendered : TearsDownFirst (ops.map (·.change)) := by
  obtain ⟨ys, rfl, hys, -, -⟩ := reworks_of_rendered h hnext hr
  rw [Reworks.map_operations]
  exact hys.tearsDownFirst

end Rendered

end Plan

end MeshSync.Reconcile
