import MeshSync.Proofs.Reconcile.Convergence

/-! # Strangers

    A store may hold objects that no reconciler has to do with, in whatever
    form.  They do not matter as long as none of them is listed under the name
    of a listener: `Tidy` objects are well formed as far as reconcilers own
    them, what such a store lists is right (`Tidy.right`), a plan that is right
    goes through (`Tidy.exists_applyAll_plan`), and it leaves the objects tidy
    and the strangers as they were (`Tidy.carried_out`). -/

namespace MeshSync.Reconcile

open Dataplane
open Url (Unreserved)

variable {paths : TlsMaterial → Certificates.Paths} {options : Options} {next : Snapshot}
  {a b objects objects' : Objects}

/-! ## What agrees where reconcilers own it -/

theorem Change.Within.mono {P Q : ObjectKey → Prop} {c : Change} (h : c.Within P)
    (hPQ : ∀ k, P k → Q k) : c.Within Q := by
  cases c with
  | create key value => exact hPQ _ h
  | replace key value => exact hPQ _ h
  | delete key => exact ⟨hPQ _ h.1, fun k hk => hPQ k (h.2 k hk)⟩

theorem AgreeOn.owns (h : a.AgreeOn Owned b) {l : Listener} (hl : l.Ours) : a.AgreeOn l.Owns b :=
  fun k hk => h k ⟨l, hl, hk⟩

theorem Listener.Accurate.congr (h : a.AgreeOn Owned b) {l : Listener} (hl : l.Ours)
    {e : Existing} (ha : l.Accurate e a) : l.Accurate e b := ha.of_agree (AgreeOn.owns h hl)

theorem Serves.congr (h : a.AgreeOn Owned b) (hs : Serves paths options next a) :
    Serves paths options next b := by
  have hsymm := h.symm
  exact ⟨hs.downstream.congr (AgreeOn.owns hsymm Listener.ours_downstream),
    fun u hu => (hs.upstreams u hu).congr (AgreeOn.owns hsymm (Listener.ours_upstream _)),
    fun service hservice => (AgreeOn.owns hsymm (Listener.ours_upstream _)).trans
      (hs.others service hservice)⟩

theorem Converged.congr (h : a.AgreeOn Owned b) (hc : Converged paths options next a) :
    Converged paths options next b := by
  obtain ⟨served, hsame, hserves⟩ := hc
  exact ⟨served, hsame, hserves.congr h⟩

namespace Plan

variable {p : Plan}

theorem Accurate.congr (h : a.AgreeOn Owned b) (ha : p.Accurate paths options next a) :
    p.Accurate paths options next b := by
  have hsymm := h.symm
  refine ⟨fun e he => (ha.downstream e he).congr h Listener.ours_downstream,
    fun hnone => (ha.keptDownstream hnone).congr (AgreeOn.owns hsymm Listener.ours_downstream),
    fun x hx => (ha.removed x hx).congr h (Listener.ours_upstream _),
    fun x hx => (ha.rebuilt x hx).congr h (Listener.ours_upstream _), fun u hu hother => ?_,
    fun service hnext hremoved => ?_⟩
  · obtain ⟨v, hv, hstands⟩ := ha.kept u hu hother
    exact ⟨v, hv, hstands.congr (AgreeOn.owns hsymm (Listener.ours_upstream _))⟩
  · exact (AgreeOn.owns hsymm (Listener.ours_upstream _)).trans
      (ha.forgotten service hnext hremoved)

/-- The changes of a plan concern nothing but what reconcilers own. -/
theorem Sound.within_owned (h : p.Sound next) (hnext : next.Valid) :
    ∀ c ∈ p.changes paths options next, c.Within Owned := by
  intro c hc
  rw [changes_eq_blocks] at hc
  obtain ⟨x, hx, hc⟩ := List.mem_flatMap.1 hc
  exact Change.Within.mono (h.within hnext x hx c hc) fun k hk => ⟨x.1, ours_of_mem_blocks hx, hk⟩

end Plan

/-! ## Tidy objects -/

/-- Whether an object is listed as a frontend or backend under the name of a
    listener. -/
def Passes (k : ObjectKey) (value : Json) (l : Listener) : Prop :=
  (k.kind = "frontends" ∧ value.field? "name" = some (.string l.frontend)) ∨
    (k.kind = "backends" ∧ value.field? "name" = some (.string l.backend))

/-- Whether objects are well formed as far as reconcilers own them, and no other
    object passes for one of a listener. -/
structure Tidy (objects : Objects) : Prop where
  ours : ∃ o : Objects, o.WellFormed ∧ objects.AgreeOn Owned o
  strangers : ∀ k v, objects.get? k = some v → ¬ Owned k → ∀ l : Listener, l.Ours → ¬ Passes k v l

/-- Whether reconcilers own no objects, and none passes for one of a listener:
    no stranger is listed under a name that a listener owns.  A store that is
    well formed and clear is free (`Free.of_wellFormed`); of others this asks no
    more than that of their strangers. -/
structure Free (objects : Objects) : Prop where
  clear : Clear objects
  strangers : ∀ k v, objects.get? k = some v → ∀ l : Listener, l.Ours → ¬ Passes k v l

theorem Free.tidy (h : Free objects) : Tidy objects :=
  ⟨⟨∅, .empty, h.clear⟩, fun k v hk _ => h.strangers k v hk⟩

theorem Free.empty : Free ∅ := ⟨fun _ _ => rfl, fun _ _ hk => nomatch hk⟩

/-- Well-formed objects none of which reconcilers own are free. -/
theorem Free.of_wellFormed (h : objects.WellFormed) (hclear : Clear objects) : Free objects := by
  refine ⟨hclear, fun k v hk l hl hpasses => ?_⟩
  have absent : ∀ name, l.Owns ⟨k.kind, none, name⟩ → k ≠ ⟨k.kind, none, name⟩ := by
    intro name howns hkey
    rw [hkey, hclear _ ⟨l, hl, howns⟩] at hk
    exact nomatch hk
  rcases hpasses with ⟨hkind, hname⟩ | ⟨hkind, hname⟩
  · exact absent l.frontend (hkind ▸ l.owns_front) (h.key_of_listed hk (.inl hkind)
      (Listener.head?_frontend hl) (by decide) (by decide) hname)
  · exact absent l.backend (hkind ▸ l.owns_back) (h.key_of_listed hk (.inr hkind)
      (Listener.head?_backend hl) (by decide) (by decide) hname)

namespace Tidy

/-- What is listed under the name of a listener is its own. -/
theorem mem_listed {s : Store} (h : Tidy s.objects) {l : Listener} (hl : l.Ours) :
    (l.frontend ∈ s.listed "frontends" ↔ ∃ v, s.objects.get? l.front = some v) ∧
      (l.backend ∈ s.listed "backends" ↔ ∃ v, s.objects.get? l.back = some v) := by
  obtain ⟨o, hwf, hagree⟩ := h.ours
  have found : ∀ (kind name : String), (kind = "frontends" ∨ kind = "backends") →
      (∃ c, name.toList.head? = some c ∧ Decimal.isDigit c = false ∧
        (c ≠ '-' ∧ c ≠ '.' ∧ c ≠ 'e')) →
      l.Owns ⟨kind, none, name⟩ →
      (∀ k v, k.kind = kind → v.field? "name" = some (.string name) → Passes k v l) →
      (name ∈ s.listed kind ↔ ∃ v, s.objects.get? ⟨kind, none, name⟩ = some v) := by
    rintro kind name hkind ⟨c, hhead, hc, hsign⟩ howns hpasses
    rw [mem_listed_iff, AgreeOn.owns hagree hl _ howns]
    constructor
    · rintro ⟨k, v, hk, rfl, hname⟩
      have howned : Owned k := by
        by_contra hnot
        exact h.strangers k v hk hnot l hl (hpasses k v rfl hname)
      rw [hagree k howned] at hk
      refine ⟨v, ?_⟩
      rw [← hwf.key_of_listed hk hkind hhead hc hsign hname]
      exact hk
    · rintro ⟨v, hv⟩
      refine ⟨_, v, (AgreeOn.owns hagree hl _ howns).trans hv, rfl, ?_⟩
      exact (objectName?_eq_some hhead hc hsign).1 (hwf.names _ v hv).named
  exact ⟨found "frontends" l.frontend (.inl rfl)
      ⟨_, Listener.head?_frontend hl, by decide, by decide⟩ l.owns_front
      fun k v hk hv => .inl ⟨hk, hv⟩,
    found "backends" l.backend (.inr rfl) ⟨_, Listener.head?_backend hl, by decide, by decide⟩
      l.owns_back fun k v hk hv => .inr ⟨hk, hv⟩⟩

/-- **What a tidy store lists is right.** -/
theorem right {s : Store} (h : Tidy s.objects) :
    Plan.Right ⟨s.listed "frontends", s.listed "backends"⟩ s.objects := by
  intro l hl
  obtain ⟨hfront, hback⟩ := h.mem_listed hl
  constructor
  · rw [Bool.eq_iff_iff, SortedMap.contains_iff]
    exact List.contains_iff_mem.trans hfront
  · rw [Bool.eq_iff_iff, SortedMap.contains_iff]
    exact List.contains_iff_mem.trans hback

/-- The upstreams that a tidy store lists have names that stand for themselves
    in URLs. -/
theorem unreserved_services {s : Store} (h : Tidy s.objects) :
    ∀ service ∈ Inventory.services ⟨s.listed "frontends", s.listed "backends"⟩,
      Unreserved service := by
  obtain ⟨o, hwf, hagree⟩ := h.ours
  intro service hservice
  have hl := Listener.ours_upstream service
  have named : ∀ k : ObjectKey, (Listener.upstream service).Owns k →
      (∃ v, s.objects.get? k = some v) → Unreserved k.name := by
    rintro k hk ⟨v, hv⟩
    rw [AgreeOn.owns hagree hl k hk] at hv
    exact (hwf.names k v hv).unreserved
  rcases Plan.mem_services.1 hservice with hmem | hmem
  · exact (named _ (Listener.owns_front _) ((h.mem_listed hl).1.1 hmem)).of_append_right
  · exact (named _ (Listener.owns_back _) ((h.mem_listed hl).2.1 hmem)).of_append_right

section Plans

variable {p : Plan} (h : Tidy objects) (hsound : p.Sound next) (hnext : next.Valid)

include h hsound hnext

/-- A plan that is right goes through. -/
theorem exists_applyAll_plan (ha : p.Accurate paths options next objects) :
    ∃ o, objects.applyAll (p.changes paths options next) = .ok o := by
  obtain ⟨o, hwf, hagree⟩ := h.ours
  obtain ⟨o', ho'⟩ := Plan.exists_applyAll_plan hsound hnext hwf (ha.congr hagree)
  obtain ⟨objects', hall, -⟩ :=
    Objects.applyAll_agree hagree.symm (hsound.within_owned hnext) ho'
  exact ⟨objects', hall⟩

/-- **A plan that was right serves the snapshot**, and leaves the objects tidy
    and the strangers as they were. -/
theorem carried_out (ha : p.Accurate paths options next objects)
    (hall : objects.applyAll (p.changes paths options next) = .ok objects') :
    Converged paths options next objects' ∧ Tidy objects' ∧
      ∀ k, ¬ Owned k → objects'.get? k = objects.get? k := by
  obtain ⟨o, hwf, hagree⟩ := h.ours
  obtain ⟨o', ho', hagree'⟩ := Objects.applyAll_agree hagree (hsound.within_owned hnext) hall
  have hstill : ∀ k, ¬ Owned k → objects'.get? k = objects.get? k := fun k hk =>
    Plan.untouched hsound hnext hall hk
  have hconverged : Converged paths options next o' :=
    Plan.serves_of_plan hsound hnext hwf (ha.congr hagree) ho'
  refine ⟨hconverged.congr hagree'.symm, ⟨⟨o', ?_, hagree'⟩, fun k v hk hnot => ?_⟩, hstill⟩
  · exact hwf.applyAll (fun p hp => absurd hp List.not_mem_nil) (hsound.orderly hnext) ho'
  · rw [hstill k hnot] at hk
    exact h.strangers k v hk hnot

end Plans

/-- A plan from the listing of a tidy store is right. -/
theorem fromStore_accurate {s : Store} (h : Tidy s.objects) :
    (Plan.fromStore ⟨s.listed "frontends", s.listed "backends"⟩ next).Accurate paths options next
      s.objects := by
  obtain ⟨o, hwf, hagree⟩ := h.ours
  have hright : Plan.Right ⟨s.listed "frontends", s.listed "backends"⟩ o := fun l hl =>
    (h.right l hl).congr hagree hl
  exact (Plan.fromStore_accurate hwf hright).congr hagree.symm

end Tidy

end MeshSync.Reconcile
