import MeshSync.Proofs.Reconcile.Planning
import MeshSync.Proofs.Reconcile.Rendering

/-! # Which listeners a store shows

    All that a plan has to know of a store is which listeners it shows
    (`Plan.Informed`).  A plan from the last commit knows that if its listeners
    are shown (`Plan.between_informed`), and a plan from a listing if the listing is right
    (`Plan.fromStore_informed`).  What such a plan stages can be made one change
    at a time, and shows the listeners of its snapshot then, whatever files it
    was given (`Plan.Informed.executable`, `Plan.Informed.after`). -/

namespace MeshSync.Reconcile

open Dataplane

variable {options : Options} {next : Snapshot} {before : Option Snapshot} {p : Plan}
  {objects objects' : Objects} {ops : List Operation}

/-- Whether both objects of a listener are there if it is wanted, and neither is
    if it is not. -/
structure Listener.Shown (l : Listener) (s : Option Snapshot) (objects : Objects) : Prop where
  wanted : Wanted s l → l.Accurate .both objects
  unwanted : ¬ Wanted s l → l.Accurate .neither objects

/-- Whether the listeners that are there are those that are wanted. -/
def Shown (s : Option Snapshot) (objects : Objects) : Prop :=
  ∀ l : Listener, l.Ours → l.Shown s objects

/-- Where nothing is there of any listener, none is wanted. -/
theorem Clear.shows (h : Clear objects) : Shown none objects := fun _ hl =>
  ⟨False.elim, fun _ => accurate_of_nothing (h.nothing hl)⟩

theorem Listener.Shown.of_agree {l : Listener} {s : Option Snapshot} (h : l.Shown s objects)
    (hagree : objects.AgreeOn l.Owns objects') : l.Shown s objects' :=
  ⟨fun hw => (h.wanted hw).of_agree hagree, fun hw => (h.unwanted hw).of_agree hagree⟩

namespace Plan

/-- Whether a plan knows which listeners are there: it is right about those that
    it touches, and of the others there are those that the snapshot wants. -/
structure Informed (p : Plan) (next : Snapshot) (objects : Objects) : Prop where
  believed : ∀ x ∈ p.touched, x.1.Accurate x.2 objects
  left : ∀ l : Listener, l.Ours → (∀ x ∈ p.touched, x.1 ≠ l) → l.Shown (some next) objects

namespace Informed

variable (hi : p.Informed next objects)

include hi

theorem believed_of_same {ys : List Rework}
    (hsame : ys.map (fun y => (y.listener, y.believed)) = p.touched) :
    ∀ y ∈ ys, y.listener.Accurate y.believed objects := by
  intro y hy
  refine hi.believed (y.listener, y.believed) ?_
  rw [← hsame]
  exact List.mem_map_of_mem hy

variable (h : p.Sound next) (hnext : next.Valid) (hwf : objects.WellFormed)
  (hr : Rendered (p.parts next options) ops)

include h hnext hwf hr

/-- **What an informed plan stages can be made one change at a time.** -/
theorem executable : Executable objects (ops.map (·.change)) := by
  obtain ⟨ys, rfl, hys, hsame, -⟩ := reworks_of_rendered h hnext hr
  rw [Reworks.map_operations]
  exact hys.executable hwf (hi.believed_of_same hsame)

/-- **Afterwards the listeners of its snapshot are shown.** -/
theorem after (ha : objects.applyAll (ops.map (·.change)) = .ok objects') :
    Shown (some next) objects' := by
  obtain ⟨ys, rfl, hys, hsame, hbuild⟩ := reworks_of_rendered h hnext hr
  rw [Reworks.map_operations] at ha
  obtain ⟨hreworked, hothers⟩ := hys.after hwf (hi.believed_of_same hsame) ha
  intro l hl
  by_cases hy : ∃ y ∈ ys, y.listener = l
  · obtain ⟨y, hy, rfl⟩ := hy
    obtain ⟨hbuilt, hgone⟩ := hreworked y hy
    refine ⟨fun hwanted => hbuilt fun hnone => (hbuild y hy).1 hnone hwanted, fun hunwanted => ?_⟩
    exact hgone ((hbuild y hy).2 hunwanted)
  · have hother : ∀ y ∈ ys, y.listener ≠ l := fun y hmem heq => hy ⟨y, hmem, heq⟩
    refine (hi.left l hl fun x hx heq => ?_).of_agree (hothers l hl hother).symm
    rw [← hsame] at hx
    obtain ⟨y, hmem, rfl⟩ := List.mem_map.1 hx
    exact hother y hmem heq

end Informed

/-- The upstreams that are wanted are those that are found by their names. -/
theorem wanted_upstream_iff_byName (hvalid : ∀ s, before = some s → s.Valid) (service : String) :
    Wanted before (.upstream service) ↔ ∃ old, (byName before).get? service = some old := by
  cases before with
  | none => exact iff_of_false id nofun
  | some s =>
      rw [wanted_upstream_iff]
      exact exists_congr fun u => (byName_eq_some_iff (hvalid s rfl)).symm

/-- What is believed of the downstream after a commit. -/
theorem downstream_between {e : Existing} (h : (between before next).downstream = some e) :
    (Wanted before .downstream → e = .both) ∧ (¬ Wanted before .downstream → e = .neither) := by
  change downstreamBetween before next = some e at h
  cases before with
  | none => exact ⟨False.elim, fun _ => (Option.some.inj h).symm⟩
  | some s =>
      rw [downstreamBetween] at h
      split at h
      · cases h
      · exact ⟨fun _ => (Option.some.inj h).symm, fun hnot => absurd (.inl rfl) hnot⟩

/-- What a plan from the last commit believes of an upstream is so. -/
theorem believed_upstream_between (hs : Shown before objects)
    (hvalid : ∀ s, before = some s → s.Valid) {y : String × Existing}
    (hy : y ∈ (between before next).removed ∨ y ∈ (between before next).rebuilt) :
    (Listener.upstream y.1).Accurate y.2 objects := by
  have hwanted := wanted_upstream_iff_byName hvalid
  have hshown := hs (.upstream y.1) (Listener.ours_upstream _)
  rcases hy with hy | hy
  · obtain ⟨service, hservice, rfl⟩ := List.mem_map.1 hy
    exact hshown.wanted ((hwanted _).2 ((SortedMap.mem_keys _ _).1 (List.mem_filter.1 hservice).1))
  · obtain ⟨u, -, hu⟩ := mem_rebuilt_between.1 hy
    obtain ⟨hservice, hbelief⟩ := rebuild?_eq_some hu
    rw [← hservice] at hbelief
    rcases hbelief with ⟨hnone, hneither⟩ | ⟨old, hold, hboth⟩
    · rw [hneither]
      refine hshown.unwanted fun hw => ?_
      obtain ⟨old, hold⟩ := (hwanted _).1 hw
      rw [hnone] at hold
      cases hold
    · rw [hboth]
      exact hshown.wanted ((hwanted _).2 ⟨old, hold⟩)

/-- An upstream that is left alone is wanted now as it was before. -/
theorem wanted_upstream_of_untouched (hvalid : ∀ s, before = some s → s.Valid) {service : String}
    (hother : ∀ x ∈ (between before next).touched, x.1 ≠ .upstream service) :
    Wanted before (.upstream service) ↔ Wanted (some next) (.upstream service) := by
  rw [wanted_upstream_iff_byName hvalid, wanted_upstream_iff]
  constructor
  · rintro ⟨old, hold⟩
    by_contra hgone
    have hremoved : (service, Existing.both) ∈ (between before next).removed :=
      List.mem_map.2 ⟨service, List.mem_filter.2 ⟨(SortedMap.mem_keys _ _).2 ⟨old, hold⟩,
        Snapshot.upstream?_isNone_iff.2 fun u hu heq => hgone ⟨u, hu, heq⟩⟩, rfl⟩
    exact hother _ (touched_removed hremoved) rfl
  · rintro ⟨u, hu, rfl⟩
    cases hr : rebuild? (byName before) u with
    | some x =>
        have hrebuilt := touched_rebuilt (mem_rebuilt_between.2 ⟨u, hu, hr⟩)
        exact absurd (congrArg Listener.upstream (rebuild?_eq_some hr).1) (hother _ hrebuilt)
    | none =>
        -- nothing is rebuilt only if the upstream was there before
        rw [rebuild?] at hr
        split at hr
        · cases hr
        · rename_i old hold
          exact ⟨old, hold⟩

/-- So is every listener. -/
theorem wanted_of_untouched (hvalid : ∀ s, before = some s → s.Valid) {l : Listener}
    (hl : l.Ours) (hother : ∀ x ∈ (between before next).touched, x.1 ≠ l) :
    Wanted before l ↔ Wanted (some next) l := by
  rcases hl with rfl | ⟨service, rfl⟩
  · cases hd : (between before next).downstream with
    | some e => exact absurd rfl (hother _ (touched_downstream hd))
    | none =>
        cases before with
        | none => cases hd
        | some s => exact iff_of_true (.inl rfl) (.inl rfl)
  · exact wanted_upstream_of_untouched hvalid hother

/-- **A plan from the last commit is informed where its listeners are shown.** -/
theorem between_informed (hs : Shown before objects) (hvalid : ∀ s, before = some s → s.Valid) :
    (between before next).Informed next objects := by
  refine ⟨fun x hx => ?_, fun l hl hother => ?_⟩
  · rcases mem_touched hx with ⟨e, he, rfl⟩ | ⟨y, hy, rfl⟩
    · have hshown := hs .downstream Listener.ours_downstream
      obtain ⟨hboth, hneither⟩ := downstream_between he
      by_cases hw : Wanted before .downstream
      · rw [hboth hw]
        exact hshown.wanted hw
      · rw [hneither hw]
        exact hshown.unwanted hw
    · exact believed_upstream_between hs hvalid hy
  · have hsame := wanted_of_untouched hvalid hl hother
    have hshown := hs l hl
    exact ⟨fun hw => hshown.wanted (hsame.2 hw), fun hw => hshown.unwanted (mt hsame.1 hw)⟩

/-- An upstream that a plan from a listing leaves alone is neither wanted nor
    listed. -/
theorem unlisted_of_untouched {i : Inventory} {service : String}
    (hother : ∀ x ∈ (fromStore i next).touched, x.1 ≠ .upstream service) :
    ¬ Wanted (some next) (.upstream service) ∧ i.existing (.upstream service) = .neither := by
  have hgone : ∀ u ∈ next.upstreams, u.service ≠ service := by
    rintro u hu rfl
    have hrebuilt : (u.service, i.existing (.upstream u.service)) ∈ (fromStore i next).rebuilt :=
      List.mem_map.2 ⟨u, hu, rfl⟩
    exact hother _ (touched_rebuilt hrebuilt) rfl
  have hunlisted : service ∉ i.services := by
    intro hmem
    have hremoved : (service, i.existing (.upstream service)) ∈ (fromStore i next).removed :=
      List.mem_map.2 ⟨service, List.mem_filter.2 ⟨hmem,
        Snapshot.upstream?_isNone_iff.2 hgone⟩, rfl⟩
    exact hother _ (touched_removed hremoved) rfl
  refine ⟨fun hw => ?_, existing_of_unlisted hunlisted⟩
  obtain ⟨u, hu, hservice⟩ := wanted_upstream_iff.1 hw
  exact hgone u hu hservice

/-- **A plan from a listing is informed where the listing is right.** -/
theorem fromStore_informed {i : Inventory} (hi : Right i objects) :
    (fromStore i next).Informed next objects := by
  refine ⟨fun x hx => ?_, fun l hl hother => ?_⟩
  · rcases mem_touched hx with ⟨e, he, rfl⟩ | ⟨y, hy, rfl⟩
    · obtain rfl : i.existing .downstream = e := Option.some.inj he
      exact hi _ Listener.ours_downstream
    · rcases hy with hy | hy
      · obtain ⟨service, -, rfl⟩ := List.mem_map.1 hy
        exact hi _ (Listener.ours_upstream service)
      · obtain ⟨u, -, rfl⟩ := List.mem_map.1 hy
        exact hi _ (Listener.ours_upstream u.service)
  · rcases hl with rfl | ⟨service, rfl⟩
    · exact absurd rfl (hother _ (touched_downstream (e := i.existing .downstream) rfl))
    · obtain ⟨hunwanted, hneither⟩ := unlisted_of_untouched hother
      have hright := hi _ (Listener.ours_upstream service)
      rw [hneither] at hright
      exact ⟨fun hw => absurd hw hunwanted, fun _ => hright⟩

end Plan

end MeshSync.Reconcile
