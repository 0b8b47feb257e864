import MeshSync.Proofs.Dataplane.Exchange
import MeshSync.Proofs.Reconcile.Serving

/-! # Plans are sound and right

    A plan from the last committed snapshot is right if that snapshot is
    served (`between_accurate`), a plan from a listing is right if the listing
    is (`fromStore_accurate`), whatever is there of the listeners; and both are
    sound in any case. -/

namespace MeshSync.Reconcile

open Dataplane
open Url (Unreserved)

variable {paths : TlsMaterial → Certificates.Paths} {options : Options}
  {previous next : Snapshot} {objects : Objects}

namespace Plan

/-! ## From the last committed snapshot -/

theorem byName_eq_some_iff (h : previous.Valid) {service : String} {u : Upstream} :
    (byName (some previous)).get? service = some u ↔
      u ∈ previous.upstreams ∧ u.service = service := by
  have hkeys : (previous.upstreams.map fun u => (u.service, u)).map (·.1) =
      previous.upstreams.map (·.service) := by
    rw [List.map_map]
    rfl
  rw [byName, SortedMap.get?_ofList (by rw [hkeys]; exact h.distinct), List.mem_map]
  constructor
  · rintro ⟨v, hv, heq⟩
    obtain ⟨hservice, rfl⟩ := Prod.mk.inj heq
    exact ⟨hv, hservice⟩
  · rintro ⟨hu, rfl⟩
    exact ⟨u, hu, rfl⟩

theorem mem_removed_between {x : String × Existing} (h : previous.Valid)
    (hx : x ∈ (between (some previous) next).removed) :
    (∃ u ∈ previous.upstreams, u.service = x.1) ∧ (∀ u ∈ next.upstreams, u.service ≠ x.1) ∧
      x.2 = .both := by
  obtain ⟨n, hn, rfl⟩ := List.mem_map.1 hx
  obtain ⟨hkey, hgone⟩ := List.mem_filter.1 hn
  obtain ⟨u, hu⟩ := (SortedMap.mem_keys _ _).1 hkey
  exact ⟨⟨u, (byName_eq_some_iff h).1 hu⟩, Snapshot.upstream?_isNone_iff.1 hgone, rfl⟩

/-- Which upstreams are rebuilt. -/
theorem mem_rebuilt_between {x : String × Existing} {before : Option Snapshot} :
    x ∈ (between before next).rebuilt ↔ ∃ u ∈ next.upstreams, rebuild? (byName before) u = some x :=
  List.mem_filterMap

/-- The downstream is left alone if it is what it was. -/
theorem downstream_between_iff :
    (between (some previous) next).downstream = none ↔ previous.downstream = next.downstream := by
  change (if previous.downstream = next.downstream then none else some Existing.both) = none ↔ _
  split
  · rename_i heq
    exact ⟨fun _ => heq, fun _ => rfl⟩
  · rename_i hne
    exact ⟨nofun, fun heq => absurd heq hne⟩

/-- An upstream is left alone if it was there and was the same. -/
theorem rebuild?_eq_none_iff (h : previous.Valid) (u : Upstream) :
    rebuild? (byName (some previous)) u = none ↔ ∃ old ∈ previous.upstreams, old.same u = true := by
  rw [rebuild?]
  split
  · rename_i hnone
    refine iff_of_false nofun ?_
    rintro ⟨old, hold, hsame⟩
    rw [(byName_eq_some_iff h).2 ⟨hold, service_of_same hsame⟩] at hnone
    cases hnone
  · rename_i old hold
    obtain ⟨hmem, hname⟩ := (byName_eq_some_iff h).1 hold
    split
    · rename_i hsame
      exact iff_of_true rfl ⟨old, hmem, hsame⟩
    · rename_i hnot
      refine iff_of_false nofun ?_
      rintro ⟨v, hv, hsame⟩
      -- names differ in a snapshot, so it is the one that was found
      have heq := hname.trans (service_of_same hsame).symm
      rw [List.inj_on_of_nodup_map h.distinct hmem hv heq] at hnot
      exact hnot hsame

/-- What is believed of an upstream that is rebuilt. -/
theorem rebuild?_eq_some {before : SortedMap String Upstream} {u : Upstream}
    {x : String × Existing} (h : rebuild? before u = some x) :
    x.1 = u.service ∧ ((before.get? u.service = none ∧ x.2 = .neither) ∨
      ∃ old, before.get? u.service = some old ∧ x.2 = .both) := by
  rw [rebuild?] at h
  split at h
  · rename_i hnone
    obtain rfl := Option.some.inj h
    exact ⟨rfl, .inl ⟨hnone, rfl⟩⟩
  · rename_i old hold
    split at h
    · exact nomatch h
    · obtain rfl := Option.some.inj h
      exact ⟨rfl, .inr ⟨old, hold, rfl⟩⟩

theorem nodup_rebuilt (before : SortedMap String Upstream) {us : List Upstream}
    (h : (us.map (·.service)).Nodup) : ((us.filterMap (rebuild? before)).map (·.1)).Nodup := by
  refine h.sublist ?_
  induction us with
  | nil => exact .slnil
  | cons u us ih =>
      have ih := ih (List.nodup_cons.1 h).2
      rw [List.map_cons]
      cases hu : rebuild? before u with
      | none =>
          rw [List.filterMap_cons_none hu]
          exact .cons _ ih
      | some x =>
          rw [List.filterMap_cons_some hu, List.map_cons, (rebuild?_eq_some hu).1]
          exact .cons_cons _ ih

theorem between_sound {before : Option Snapshot} (h : ∀ s, before = some s → s.Valid)
    (hnext : next.Valid) : (between before next).Sound next := by
  have hrebuilt : ∀ x ∈ (between before next).rebuilt, ∃ u ∈ next.upstreams, u.service = x.1 := by
    intro x hx
    obtain ⟨u, hu, hr⟩ := mem_rebuilt_between.1 hx
    exact ⟨u, hu, (rebuild?_eq_some hr).1.symm⟩
  have hnodup : ((between before next).rebuilt.map (·.1)).Nodup := nodup_rebuilt _ hnext.distinct
  cases before with
  | none => exact ⟨hnodup, fun x hx => absurd hx List.not_mem_nil, hrebuilt⟩
  | some previous =>
      have hprevious := h previous rfl
      refine ⟨List.nodup_append.2 ⟨?_, hnodup, ?_⟩, fun x hx => ?_, hrebuilt⟩
      · show ((List.map (·, Existing.both) _).map _).Nodup
        rw [List.map_map]
        exact ((SortedMap.nodup_keys _).filter _).map fun a b hab => hab
      · rintro a ha b hb rfl
        obtain ⟨x, hx, rfl⟩ := List.mem_map.1 ha
        obtain ⟨y, hy, hxy⟩ := List.mem_map.1 hb
        obtain ⟨u, hu, hservice⟩ := hrebuilt y hy
        exact (mem_removed_between hprevious hx).2.1 u hu (hservice.trans hxy)
      · obtain ⟨⟨u, hu, hservice⟩, hgone, -⟩ := mem_removed_between hprevious hx
        exact ⟨hservice ▸ hprevious.unreserved u hu, hgone⟩

theorem same_trans {a b c : Upstream} (h : a.same b = true) (h' : b.same c = true) :
    a.same c = true := by
  simp only [Upstream.same, Bool.and_eq_true, decide_eq_true_eq] at h h' ⊢
  obtain ⟨⟨⟨⟨h1, h2⟩, h3⟩, h4⟩, h5⟩ := h
  obtain ⟨⟨⟨⟨h1', h2'⟩, h3'⟩, h4'⟩, h5'⟩ := h'
  exact ⟨⟨⟨⟨h1.trans h1', h2.trans h2'⟩, h3.trans h3'⟩, h4.trans h4'⟩, h5.trans h5'⟩

/-- Snapshots that ask for the same have upstreams that ask for the same. -/
theorem upstreams_of_same {as bs : List Upstream} (h : Snapshot.sameUpstreams as bs = true) :
    (∀ b ∈ bs, ∃ a ∈ as, a.same b = true) ∧ ∀ a ∈ as, ∃ b ∈ bs, a.same b = true := by
  induction as generalizing bs with
  | nil =>
      cases bs with
      | nil =>
          exact ⟨fun b hb => absurd hb List.not_mem_nil, fun a ha => absurd ha List.not_mem_nil⟩
      | cons b bs => exact nomatch h
  | cons a as ih =>
      cases bs with
      | nil => exact nomatch h
      | cons b bs =>
          rw [Snapshot.sameUpstreams, Bool.and_eq_true] at h
          obtain ⟨hab, hrest⟩ := h
          obtain ⟨hl, hr⟩ := ih hrest
          refine ⟨fun c hc => ?_, fun c hc => ?_⟩
          · rcases List.mem_cons.1 hc with rfl | hc
            · exact ⟨a, by simp, hab⟩
            · obtain ⟨d, hd, hdc⟩ := hl c hc
              exact ⟨d, List.mem_cons_of_mem _ hd, hdc⟩
          · rcases List.mem_cons.1 hc with rfl | hc
            · exact ⟨b, by simp, hab⟩
            · obtain ⟨d, hd, hdc⟩ := hr c hc
              exact ⟨d, List.mem_cons_of_mem _ hd, hdc⟩

theorem downstream_of_same {a b : Snapshot} (h : a.same b = true) :
    a.downstream = b.downstream := by
  simp only [Snapshot.same, Bool.and_eq_true, decide_eq_true_eq] at h
  exact h.1.2

theorem sameUpstreams_of_same {a b : Snapshot} (h : a.same b = true) :
    Snapshot.sameUpstreams a.upstreams b.upstreams = true := by
  rw [Snapshot.same, Bool.and_eq_true] at h
  exact h.2

section Between

variable {served : Snapshot} (h : previous.Valid) (hsame : served.same previous = true)
  (hserves : Serves paths options served objects)

include h hsame hserves

omit h in
/-- Each upstream of the last committed snapshot stands. -/
theorem stands_of_committed {u : Upstream} (hu : u ∈ previous.upstreams) :
    ∃ v, v.same u = true ∧ Stands (.upstream u.service) (upstreamOps paths options v) objects := by
  obtain ⟨v, hv, hvu⟩ := (upstreams_of_same (sameUpstreams_of_same hsame)).1 u hu
  refine ⟨v, hvu, ?_⟩
  rw [← service_of_same hvu]
  exact hserves.upstreams v hv

theorem accurate_of_committed {u : Upstream} (hu : u ∈ previous.upstreams) :
    (Listener.upstream u.service).Accurate .both objects := by
  obtain ⟨v, hvu, hstands⟩ := stands_of_committed hsame hserves hu
  have hv : Unreserved v.service := service_of_same hvu ▸ h.unreserved u hu
  have hbuilds : Builds (.upstream v.service) (upstreamOps paths options v) :=
    builds_upstream hv options
  rw [service_of_same hvu] at hbuilds
  exact hstands.accurate hbuilds

omit h in
/-- Nothing is there of an upstream that the last committed snapshot has not. -/
theorem nothing_of_committed {service : String}
    (hservice : ∀ u ∈ previous.upstreams, u.service ≠ service) :
    objects.AgreeOn (Listener.upstream service).Owns ∅ := by
  refine hserves.others service fun v hv heq => ?_
  obtain ⟨u, hu, hvu⟩ := (upstreams_of_same (sameUpstreams_of_same hsame)).2 v hv
  exact hservice u hu ((service_of_same hvu).symm.trans heq)

/-- **A plan from the last committed snapshot is right where that is served.** -/
theorem between_accurate : (between (some previous) next).Accurate paths options next objects := by
  refine ⟨fun e he => ?_, fun hnone => ?_, fun x hx => ?_, fun x hx => ?_, fun u hu hother => ?_,
    fun service hnext hremoved => ?_⟩
  · have hboth : e = .both := by
      change (if previous.downstream = next.downstream then none else some Existing.both) = _ at he
      split at he
      · exact nomatch he
      · exact (Option.some.inj he).symm
    rw [hboth]
    exact hserves.downstream.accurate (builds_downstream served.downstream options)
  · have hserved : served.downstream = next.downstream :=
      (downstream_of_same hsame).trans (downstream_between_iff.1 hnone)
    have hstands := hserves.downstream
    rwa [downstreamOps, hserved] at hstands
  · obtain ⟨⟨u, hu, hservice⟩, -, hboth⟩ := mem_removed_between h hx
    rw [hboth, ← hservice]
    exact accurate_of_committed h hsame hserves hu
  · obtain ⟨u, hu, hr⟩ := mem_rebuilt_between.1 hx
    obtain ⟨hservice, hbelief⟩ := rebuild?_eq_some hr
    rw [hservice]
    -- a service that was not committed has no objects yet; one that was has both
    rcases hbelief with ⟨hnone, hneither⟩ | ⟨old, hold, hboth⟩
    · rw [hneither]
      refine accurate_of_nothing (nothing_of_committed hsame hserves fun v hv heq => ?_)
      rw [(byName_eq_some_iff h).2 ⟨hv, heq⟩] at hnone
      exact nomatch hnone
    · rw [hboth]
      obtain ⟨hmem, hname⟩ := (byName_eq_some_iff h).1 hold
      rw [← hname]
      exact accurate_of_committed h hsame hserves hmem
  · -- an upstream that is left alone was committed in the same form
    have hkept : rebuild? (byName (some previous)) u = none := by
      refine Option.eq_none_iff_forall_ne_some.2 fun x hr => ?_
      exact hother x (mem_rebuilt_between.2 ⟨u, hu, hr⟩) (rebuild?_eq_some hr).1
    obtain ⟨old, hmem, holdu⟩ := (rebuild?_eq_none_iff h u).1 hkept
    obtain ⟨v, hv, hstands⟩ := stands_of_committed hsame hserves hmem
    rw [service_of_same holdu] at hstands
    exact ⟨v, same_trans hv holdu, hstands⟩
  · refine nothing_of_committed hsame hserves fun u hu heq => ?_
    have hkey : service ∈ (byName (some previous)).keys :=
      (SortedMap.mem_keys _ _).2 ⟨u, (byName_eq_some_iff h).2 ⟨hu, heq⟩⟩
    refine hremoved (service, .both) (List.mem_map.2 ⟨service, ?_, rfl⟩) rfl
    exact List.mem_filter.2 ⟨hkey, Snapshot.upstream?_isNone_iff.2 hnext⟩

end Between

/-- A plan without a committed snapshot is right where nothing is there. -/
theorem between_none_accurate (h : Clear objects) :
    (between none next).Accurate paths options next objects := by
  refine ⟨fun e he => ?_, fun hnone => (nomatch hnone), fun x hx => absurd hx List.not_mem_nil,
    fun x hx => ?_, fun u hu hother => ?_, fun service _ _ => h.nothing (Listener.ours_upstream _)⟩
  · obtain rfl : Existing.neither = e := Option.some.inj he
    exact accurate_of_nothing (h.nothing Listener.ours_downstream)
  · obtain ⟨u, hu, hr⟩ := mem_rebuilt_between.1 hx
    obtain rfl : (u.service, Existing.neither) = x := Option.some.inj hr
    exact accurate_of_nothing (h.nothing (Listener.ours_upstream _))
  · have hr : rebuild? (byName none) u = some (u.service, .neither) := rfl
    exact absurd rfl (hother _ (mem_rebuilt_between.2 ⟨u, hu, hr⟩))

/-! ## From a listing -/

theorem mem_services {i : Inventory} {service : String} :
    service ∈ i.services ↔ (Listener.upstream service).frontend ∈ i.frontends ∨
      (Listener.upstream service).backend ∈ i.backends := by
  rw [Inventory.services, SortedMap.mem_keys_ofList, List.map_map]
  show service ∈ List.map id _ ↔ _
  rw [List.map_id, List.mem_append, List.mem_filterMap, List.mem_filterMap]
  have hafter : ∀ (lead : String) (names : List String),
      (∃ n ∈ names, Text.after? lead n = some service) ↔ lead ++ service ∈ names := by
    intro lead names
    constructor
    · rintro ⟨n, hn, heq⟩
      rwa [← Text.eq_append_of_after? heq]
    · exact fun hmem => ⟨_, hmem, Text.after?_append _ _⟩
  rw [hafter, hafter]
  rfl

/-- Of a service that is not listed nothing is known to be there. -/
theorem existing_of_unlisted {i : Inventory} {service : String} (h : service ∉ i.services) :
    i.existing (.upstream service) = .neither := by
  rw [mem_services, not_or] at h
  rw [Inventory.existing, Existing.neither,
    Bool.eq_false_iff.2 fun hmem => h.1 (List.contains_iff_mem.1 hmem),
    Bool.eq_false_iff.2 fun hmem => h.2 (List.contains_iff_mem.1 hmem)]

/-- Whether an inventory says of every listener what is there. -/
def Right (i : Inventory) (objects : Objects) : Prop :=
  ∀ l : Listener, l.Ours → l.Accurate (i.existing l) objects

theorem fromStore_sound {i : Inventory} (hi : ∀ service ∈ i.services, Unreserved service)
    (hnext : next.Valid) : (fromStore i next).Sound next := by
  have hremoved : ∀ x ∈ (fromStore i next).removed,
      x.1 ∈ i.services ∧ ∀ u ∈ next.upstreams, u.service ≠ x.1 := by
    intro x hx
    obtain ⟨n, hn, rfl⟩ := List.mem_map.1 hx
    obtain ⟨hmem, hgone⟩ := List.mem_filter.1 hn
    exact ⟨hmem, Snapshot.upstream?_isNone_iff.1 hgone⟩
  have hrebuilt : ∀ x ∈ (fromStore i next).rebuilt, ∃ u ∈ next.upstreams, u.service = x.1 := by
    intro x hx
    obtain ⟨u, hu, rfl⟩ := List.mem_map.1 hx
    exact ⟨u, hu, rfl⟩
  refine ⟨List.nodup_append.2 ⟨?_, ?_, ?_⟩, fun x hx => ?_, hrebuilt⟩
  · show ((List.map _ _).map _).Nodup
    rw [List.map_map]
    exact ((SortedMap.nodup_keys _).filter _).map fun a b hab => hab
  · show ((List.map _ _).map _).Nodup
    rw [List.map_map]
    exact hnext.distinct
  · rintro a ha b hb rfl
    obtain ⟨x, hx, rfl⟩ := List.mem_map.1 ha
    obtain ⟨y, hy, hxy⟩ := List.mem_map.1 hb
    obtain ⟨u, hu, hservice⟩ := hrebuilt y hy
    exact (hremoved x hx).2 u hu (hservice.trans hxy)
  · exact ⟨hi _ (hremoved x hx).1, (hremoved x hx).2⟩

/-- **A plan from a listing is right where the listing is**, whatever it says. -/
theorem fromStore_accurate {i : Inventory} (hwf : objects.WellFormed) (hi : Right i objects) :
    (fromStore i next).Accurate paths options next objects := by
  refine ⟨fun e he => ?_, fun hnone => (nomatch hnone), fun x hx => ?_, fun x hx => ?_,
    fun u hu hother => ?_, fun service hnext hremoved => ?_⟩
  · obtain rfl : i.existing .downstream = e := Option.some.inj he
    exact hi _ Listener.ours_downstream
  · obtain ⟨n, -, rfl⟩ := List.mem_map.1 hx
    exact hi _ (Listener.ours_upstream n)
  · obtain ⟨u, -, rfl⟩ := List.mem_map.1 hx
    exact hi _ (Listener.ours_upstream u.service)
  · exact absurd rfl (hother _ (List.mem_map.2 ⟨u, hu, rfl⟩))
  · have hright := hi _ (Listener.ours_upstream service)
    have hnot : service ∉ i.services := by
      intro hmem
      refine hremoved _ (List.mem_map.2 ⟨service, ?_, rfl⟩) rfl
      exact List.mem_filter.2 ⟨hmem, Snapshot.upstream?_isNone_iff.2 hnext⟩
    rw [existing_of_unlisted hnot] at hright
    exact Listener.nothing_of_absent hwf ((SortedMap.not_contains_iff _ _).1 hright.frontend.symm)
      ((SortedMap.not_contains_iff _ _).1 hright.backend.symm)

/-- What a store of well-formed objects lists is right. -/
theorem right_listed {s : Store} (h : s.objects.WellFormed) :
    Right ⟨s.listed "frontends", s.listed "backends"⟩ s.objects := by
  intro l hl
  constructor
  · have hiff := mem_listed h (.inl rfl) (Listener.head?_frontend hl) (by decide) (by decide)
    rw [Bool.eq_iff_iff, SortedMap.contains_iff]
    exact List.contains_iff_mem.trans hiff
  · have hiff := mem_listed h (.inr rfl) (Listener.head?_backend hl) (by decide) (by decide)
    rw [Bool.eq_iff_iff, SortedMap.contains_iff]
    exact List.contains_iff_mem.trans hiff

/-- Names that are listed are unreserved. -/
theorem unreserved_listed {s : Store} (h : s.objects.WellFormed) {kind name : String}
    (hname : name ∈ s.listed kind) : Unreserved name := by
  obtain ⟨k, v, hk, -, hv⟩ := (mem_listed_iff s kind name).1 hname
  have hnames := h.names k v hk
  have hbody : Command.objectName? v = some name := by
    rw [Command.objectName?, hv]
  rw [← Option.some.inj (hnames.named.symm.trans hbody)]
  exact hnames.unreserved

theorem unreserved_services {s s' : Store} (h : s.objects.WellFormed) (h' : s'.objects.WellFormed) :
    ∀ service ∈ Inventory.services ⟨s.listed "frontends", s'.listed "backends"⟩,
      Unreserved service := by
  intro service hservice
  rcases mem_services.1 hservice with hmem | hmem
  · exact (unreserved_listed h hmem).of_append_right
  · exact (unreserved_listed h' hmem).of_append_right

end Plan

end MeshSync.Reconcile
