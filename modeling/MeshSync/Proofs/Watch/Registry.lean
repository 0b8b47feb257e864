import MeshSync.Proofs.Watch.Learning

/-! # The registry of upstreams and their watches

    Definitions of the sidecar come while watches wait, pause, or hold answers
    that nobody has looked at.  Whatever the order, the records are those of the
    last definition, each has one watch at work, and every other watch is
    cancelled and writes nothing any more.

    What a run has learned is read as `definitions` and, for each watch,
    `reports`; the ledger recalls both (`Ledger.Recalls`).  A watch that is
    followed stays so while its upstream is declared in the same datacenter
    (`Ledger.follows_hear`), and one that is not is never followed again
    (`Ledger.unfollowed_hear`), because numbers are given out once. -/

namespace MeshSync.Watch

/-! ## What was learned -/

/-- The definition in an answer, if it has one. -/
def Heard.definition? : Heard → Option Mesh.Service
  | .proxy a => some a.1
  | _ => none

/-- What an answer reports to a watch, if it is for that watch. -/
def Heard.report? (id : WatchId) : Heard → Option (List Mesh.Instance)
  | .instances j a => if j = id then some a.1 else none
  | _ => none

/-- The definitions of the sidecar among answers, in order. -/
def definitions (hs : List Heard) : List Mesh.Service := hs.filterMap Heard.definition?

/-- What was reported to a watch, in order. -/
def reports (id : WatchId) (hs : List Heard) : List (List Mesh.Instance) :=
  hs.filterMap (Heard.report? id)

theorem definitions_append (hs ks : List Heard) :
    definitions (hs ++ ks) = definitions hs ++ definitions ks :=
  List.filterMap_append

theorem reports_append (id : WatchId) (hs ks : List Heard) :
    reports id (hs ++ ks) = reports id hs ++ reports id ks :=
  List.filterMap_append

theorem reports_snoc_of_none {id : WatchId} {hs : List Heard} {x : Heard}
    (hx : x.report? id = none) : reports id (hs ++ [x]) = reports id hs := by
  rw [reports, List.filterMap_append, List.filterMap_cons_none hx, List.filterMap_nil,
    List.append_nil]
  rfl

theorem definitions_snoc_of_none {hs : List Heard} {x : Heard} (hx : x.definition? = none) :
    definitions (hs ++ [x]) = definitions hs := by
  rw [definitions, List.filterMap_append, List.filterMap_cons_none hx, List.filterMap_nil,
    List.append_nil]
  rfl

namespace Ledger

variable {l l' : Ledger} {hs ks : List Heard} {x : Heard} {name : String} {id : WatchId}

/-- Whether an answer is to a watch that was started. -/
def Reaches (l : Ledger) (x : Heard) : Prop := ∀ id a, x = .instances id a → id < l.started

/-- What a ledger has to do with the answers that made it. -/
structure Recalls (l : Ledger) (hs : List Heard) : Prop where
  declared : l.proxy.map (·.1) = (definitions hs).getLast?
  latest : ∀ name f, l.followed name = some f →
    f.latest.map (·.1) = (reports f.watch hs).getLast?
  unheard : ∀ id, l.started ≤ id → reports id hs = []

theorem recalls_blank : blank.Recalls [] := ⟨rfl, fun _ _ hf => (nomatch hf), fun _ _ => rfl⟩

/-- A new watch has a number that was not given out. -/
theorem started_le_of_mem {service : Mesh.Service} {u : Mesh.UpstreamDeclaration}
    (h : ((name, u), id) ∈ (l.unfollowed service).zipIdx l.started) : l.started ≤ id := by
  obtain ⟨-, rfl⟩ := (mem_zipIdx_iff (l.nodup_unfollowed service)).1 h
  exact Nat.le_add_right _ _

/-- An answer that is neither a definition nor a report. -/
theorem Recalls.aside (h : l.Recalls hs) (hproxy : l'.proxy = l.proxy)
    (hfollowed : l'.followed = l.followed) (hstarted : l'.started = l.started)
    (hdefinition : x.definition? = none) (hreport : ∀ id, x.report? id = none) :
    l'.Recalls (hs ++ [x]) := by
  refine ⟨?_, fun name f hf => ?_, fun id hid => ?_⟩
  · rw [definitions_snoc_of_none hdefinition, hproxy]
    exact h.declared
  · rw [hfollowed] at hf
    rw [reports_snoc_of_none (hreport _)]
    exact h.latest name f hf
  · rw [hstarted] at hid
    rw [reports_snoc_of_none (hreport id)]
    exact h.unheard id hid

/-- **A ledger that hears goes on recalling.** -/
theorem Recalls.hear (h : l.Recalls hs) (hx : l.Reaches x) : (l.hear x).Recalls (hs ++ [x]) := by
  cases x with
  | caRoots a => exact h.aside rfl rfl rfl rfl fun _ => rfl
  | leaf a => exact h.aside rfl rfl rfl rfl fun _ => rfl
  | service a => exact h.aside rfl rfl rfl rfl fun _ => rfl
  | proxy a =>
      refine ⟨?_, fun name f hf => ?_, fun id hid => ?_⟩
      · rw [definitions_append]
        exact List.getLast?_concat.symm
      · rw [reports_snoc_of_none rfl]
        rcases followed_cases hf with ⟨hf, -⟩ | ⟨u, hmem, hlatest⟩
        · exact h.latest name f hf
        · rw [hlatest, h.unheard _ (started_le_of_mem hmem)]
          rfl
      · rw [reports_snoc_of_none rfl]
        exact h.unheard id (Nat.le_trans (Nat.le_add_right _ _) hid)
  | instances j a =>
      refine ⟨?_, fun name f hf => ?_, fun id hid => ?_⟩
      · rw [definitions_snoc_of_none rfl]
        exact h.declared
      · obtain ⟨f₀, hf₀, rfl⟩ := Option.map_eq_some_iff.1 hf
        rw [Followed.watch_report, Followed.report]
        -- a report counts for the service whose watch it came from
        by_cases hj : f₀.watch = j
        · have hreport : Heard.report? f₀.watch (.instances j a) = some a.1 := if_pos hj.symm
          rw [if_pos hj, reports_append, reports, reports, List.filterMap_cons_some hreport]
          exact List.getLast?_concat.symm
        · have hreport : Heard.report? f₀.watch (.instances j a) = none := if_neg (Ne.symm hj)
          rw [if_neg hj, reports_snoc_of_none hreport]
          exact h.latest name f₀ hf₀
      · have hj : j ≠ id := Nat.ne_of_lt (Nat.lt_of_lt_of_le (hx j a rfl) hid)
        have hreport : Heard.report? id (.instances j a) = none := if_neg hj
        rw [reports_snoc_of_none hreport]
        exact h.unheard id hid

theorem Recalls.declarations (h : l.Recalls hs) (name : String) :
    l.declarations.get? name = (definitions hs).getLast?.bind (declaration? · name) := by
  rw [← h.declared, Ledger.declarations]
  cases l.proxy with
  | none => rfl
  | some a => exact get?_upstreamsOf a.1 name

theorem started_le_hear (l : Ledger) (x : Heard) : l.started ≤ (l.hear x).started := by
  cases x with
  | proxy a => exact Nat.le_add_right _ _
  | _ => exact Nat.le_refl _

/-- **A watch goes on** while its upstream is declared in the same datacenter. -/
theorem follows_hear {f : Followed} (hf : l.followed name = some f)
    (hx : ∀ service, x.definition? = some service →
      ∃ d, declaration? service name = some d ∧ d.datacenter = f.datacenter) :
    ∃ f', (l.hear x).followed name = some f' ∧ f'.watch = f.watch ∧
      f'.datacenter = f.datacenter := by
  cases x with
  | proxy a =>
      obtain ⟨d, hd, hdatacenter⟩ := hx a.1 rfl
      rw [← get?_upstreamsOf] at hd
      exact ⟨f, followed_of_kept hf ⟨d, hd, hdatacenter⟩, rfl, rfl⟩
  | instances id a =>
      refine ⟨f.report id a, ?_, f.watch_report id a, f.datacenter_report id a⟩
      rw [followed_hear_instances, hf]
      rfl
  | caRoots a => exact ⟨f, hf, rfl, rfl⟩
  | leaf a => exact ⟨f, hf, rfl, rfl⟩
  | service a => exact ⟨f, hf, rfl, rfl⟩

/-- By induction on the answers. -/
theorem follows_foldl {f : Followed} (hf : l.followed name = some f)
    (hks : ∀ service ∈ definitions ks,
      ∃ d, declaration? service name = some d ∧ d.datacenter = f.datacenter) :
    ∃ f', (ks.foldl Ledger.hear l).followed name = some f' ∧ f'.watch = f.watch ∧
      f'.datacenter = f.datacenter := by
  induction ks using List.reverseRecOn with
  | nil => exact ⟨f, hf, rfl, rfl⟩
  | append_singleton ks x ih =>
      rw [definitions_append] at hks
      obtain ⟨f₁, hf₁, hwatch, hdatacenter⟩ :=
        ih fun service hservice => hks service (List.mem_append_left _ hservice)
      rw [List.foldl_append]
      obtain ⟨f₂, hf₂, hwatch₂, hdatacenter₂⟩ := follows_hear (x := x) hf₁ fun service hx => by
        rw [hdatacenter]
        refine hks service (List.mem_append_right _ ?_)
        rw [definitions, List.filterMap_cons_some hx]
        exact List.mem_singleton_self _
      exact ⟨f₂, hf₂, hwatch₂.trans hwatch, hdatacenter₂.trans hdatacenter⟩

/-- **A watch that is not followed is never followed again.** -/
theorem unfollowed_hear (h : ∀ name f, l.followed name = some f → f.watch ≠ id)
    (hid : id < l.started) (x : Heard) :
    ∀ name f, (l.hear x).followed name = some f → f.watch ≠ id := by
  intro name f hf
  cases x with
  | proxy a =>
      rcases followed_cases hf with ⟨hf, -⟩ | ⟨u, hmem, -⟩
      · exact h name f hf
      · exact Nat.ne_of_gt (Nat.lt_of_lt_of_le hid (started_le_of_mem hmem))
  | instances j a =>
      obtain ⟨f₀, hf₀, rfl⟩ := Option.map_eq_some_iff.1 hf
      rw [Followed.watch_report]
      exact h name f₀ hf₀
  | caRoots a => exact h name f hf
  | leaf a => exact h name f hf
  | service a => exact h name f hf

theorem unfollowed_foldl (h : ∀ name f, l.followed name = some f → f.watch ≠ id)
    (hid : id < l.started) (ks : List Heard) :
    id < (ks.foldl Ledger.hear l).started ∧
      ∀ name f, (ks.foldl Ledger.hear l).followed name = some f → f.watch ≠ id := by
  induction ks using List.reverseRecOn with
  | nil => exact ⟨hid, h⟩
  | append_singleton ks x ih =>
      rw [List.foldl_append]
      exact ⟨Nat.lt_of_lt_of_le ih.1 (started_le_hear _ x), unfollowed_hear ih.2 ih.1 x⟩

end Ledger

namespace Watcher

variable {first w w' : Watcher} {l : Ledger} {e : Event} {es fs : List Event}
  {P : Followed → UpstreamWatch → Prop}

/-! ## The ledger of a run -/

/-- The watches of a watcher are those that were started. -/
theorem Attended.lt_started (h : Attended P l w) {id : WatchId} {u : UpstreamWatch}
    (hu : w.watch? id = some u) : id < l.started := by
  obtain ⟨hmem, rfl⟩ := (watch?_eq_some_iff h.nodup).1 hu
  rw [← List.mem_range, ← h.numbered]
  exact List.mem_map_of_mem hmem

/-- A watch with a number that was given out is there. -/
theorem Attended.exists_watch (h : Attended P l w) {id : WatchId} (hid : id < l.started) :
    ∃ u, w.watch? id = some u := by
  rw [← List.mem_range, ← h.numbered] at hid
  obtain ⟨u, hu, rfl⟩ := List.mem_map.1 hid
  exact ⟨u, (watch?_eq_some_iff h.nodup).2 ⟨hu, rfl⟩⟩

theorem Attended.reaches (h : Attended P l w) {x : Heard} (hx : learned? (w, e) = some x) :
    l.Reaches x := by
  rintro id a rfl
  cases e with
  | process t =>
      cases t with
      | upstream j =>
          rw [learned?] at hx
          split at hx
          · cases hx
          · obtain ⟨u, hu, hx⟩ := Option.bind_eq_some_iff.1 hx
            obtain ⟨b, -, heq⟩ := Option.map_eq_some_iff.1 hx
            obtain ⟨rfl, -⟩ := Heard.instances.inj heq
            exact h.lt_started hu
      | caRoots =>
          obtain ⟨b, -, heq⟩ := Option.map_eq_some_iff.1 hx
          cases heq
      | leaf =>
          obtain ⟨b, -, heq⟩ := Option.map_eq_some_iff.1 hx
          cases heq
      | proxy =>
          obtain ⟨b, -, heq⟩ := Option.map_eq_some_iff.1 hx
          cases heq
      | service =>
          obtain ⟨b, -, heq⟩ := Option.map_eq_some_iff.1 hx
          cases heq
  | _ => cases hx

/-- The ledger of what a run learned recalls it. -/
theorem recalls_of_run {serviceId : String} {wait : Nat} {proxy : Except Mesh.Error String}
    {service : Except Mesh.Error Mesh.Service}
    (h : (start serviceId wait proxy service).run es = some w) :
    Ledger.Recalls (.after ((start serviceId wait proxy service).learned es))
      ((start serviceId wait proxy service).learned es) := by
  refine run_induction (P := fun es _ => Ledger.Recalls (.after (learned _ es)) (learned _ es))
    Ledger.recalls_blank ?_ h
  intro es v e v' hv ih _
  rw [learned_snoc hv]
  cases hx : learned? (v, e) with
  | none =>
      rw [Option.toList_none, List.append_nil]
      exact ih
  | some x =>
      rw [Option.toList_some, Ledger.after_snoc]
      exact ih.hear ((attended_of_run hv).reaches hx)

/-! ## Registry and watches -/

/-- Whether the registry and the watches of a watcher are as they should be
    after it has learned something. -/
structure Corresponds (hs : List Heard) (w : Watcher) : Prop where
  /-- There are records for the names that the last definition declares, and
      they say what it says. -/
  records : ∀ name, (w.state.upstreams.get? name).map
      (fun r => (r.service, r.datacenter, r.localBindAddress, r.localBindPort)) =
    ((definitions hs).getLast?.bind (declaration? · name)).map
      fun d => (name, d.datacenter, d.localBindAddress, d.localBindPort)
  /-- Each has a watch that has not been told to stop and has not stopped, and
      asks for its instances where they are declared. -/
  watched : ∀ name r, w.state.upstreams.get? name = some r →
    ∃ u, w.watch? r.watch = some u ∧ u.service = name ∧ w.isCancelled (.upstream u.id) = false ∧
      u.track.stage ≠ .stopped ∧
      w.question? (.upstream r.watch) = some (.instances name,
        u.track.cursor.query w.wait (if r.datacenter.isEmpty then none else some r.datacenter))
  /-- Every other watch is cancelled. -/
  sole : ∀ u ∈ w.watches, u.cancelled = false →
    ∃ r, w.state.upstreams.get? u.service = some r ∧ w.watch? r.watch = some u
  /-- What a record holds is what was reported to its own watch last. -/
  entries : ∀ name r, w.state.upstreams.get? name = some r →
    r.instances = (reports r.watch hs).getLast?.getD []
  /-- What a cancelled watch gets is not written. -/
  silent : ∀ id u v, w.watch? id = some u → u.cancelled = true →
    w.process (.upstream id) = some v → v.state = w.state

/-- What stays while a watcher goes on and learns something. -/
structure Persists (hs : List Heard) (w w' : Watcher) : Prop where
  /-- A record whose datacenter does not change keeps its watch, and what it
      holds but for what is reported to that watch. -/
  records : ∀ name r, w.state.upstreams.get? name = some r →
    (∀ service ∈ definitions hs,
      ∃ d, declaration? service name = some d ∧ d.datacenter = r.datacenter) →
    ∃ r', w'.state.upstreams.get? name = some r' ∧ r'.watch = r.watch ∧
      r'.instances = (reports r.watch hs).getLast?.getD r.instances
  /-- A watch that was cancelled stays so. -/
  cancelled : ∀ id u, w.watch? id = some u → u.cancelled = true →
    ∃ u', w'.watch? id = some u' ∧ u'.cancelled = true

/-- The record of a followed upstream. -/
theorem Attended.record_cases (h : Attended P l w) {name : String} {r : UpstreamRecord}
    (hr : w.state.upstreams.get? name = some r) :
    ∃ d f, l.declarations.get? name = some d ∧ l.followed name = some f ∧
      f.datacenter = d.datacenter ∧ r = l.record name d ∧ r.watch = f.watch := by
  rw [h.state, Ledger.get?_upstreams] at hr
  obtain ⟨d, hd, rfl⟩ := Option.map_eq_some_iff.1 hr
  obtain ⟨f, hf, hdatacenter⟩ := h.sound.followed_of_declared hd
  refine ⟨d, f, hd, hf, hdatacenter, rfl, ?_⟩
  rw [Ledger.record, hf]
  rfl

/-- A cancelled watch writes nothing. -/
theorem state_of_cancelled {id : WatchId} {u : UpstreamWatch} (hu : w.watch? id = some u)
    (hcancelled : u.cancelled = true) (hp : w.process (.upstream id) = some w') :
    w'.state = w.state := by
  obtain ⟨v, hv, hp⟩ := Option.bind_eq_some_iff.1 hp
  obtain rfl := Option.some.inj (hu.symm.trans hv)
  obtain ⟨⟨t, news⟩, -, hp⟩ := Option.bind_eq_some_iff.1 hp
  cases news with
  | failed =>
      obtain rfl := Option.some.inj hp
      rfl
  | same =>
      obtain rfl := Option.some.inj hp
      rfl
  | changed instances =>
      obtain rfl := Option.some.inj hp
      have hstop : w.isCancelled (.upstream u.id) = true := by
        rw [isCancelled, id_of_watch? hu, hu]
        simp [hcancelled]
      show (w.reportInstances _ _).state = _
      rw [reportInstances]
      split
      · rfl
      · rw [if_pos hstop]
        rfl

/-- What a record holds is what was reported to its watch last. -/
theorem Attended.instances_eq {hs : List Heard} (h : Attended P l w) (hl : l.Recalls hs)
    {name : String} {r : UpstreamRecord} (hr : w.state.upstreams.get? name = some r) :
    r.instances = (reports r.watch hs).getLast?.getD [] := by
  obtain ⟨d, f, -, hf, -, hrecord, hwatch⟩ := h.record_cases hr
  rw [hwatch, ← hl.latest name f hf, hrecord]
  show l.reported name = _
  rw [Ledger.reported, hf]
  rfl

theorem Attended.corresponds {hs : List Heard} (h : Attended Lives l w) (hl : l.Recalls hs)
    (hgoing : w.stopping = false) : Corresponds hs w := by
  refine ⟨fun name => ?_, fun name r hr => ?_, fun u hu hcancelled => ?_,
    fun name r hr => h.instances_eq hl hr,
    fun id u v hu hcancelled hp => state_of_cancelled hu hcancelled hp⟩
  · rw [h.state, Ledger.get?_upstreams, hl.declarations, Option.map_map]
    rfl
  · obtain ⟨d, f, -, hf, hdatacenter, hrecord, hwatch⟩ := h.record_cases hr
    obtain ⟨u, hu, hname, hcancelled, hlives⟩ := h.followed name f hf
    rw [← hwatch] at hu
    have hid : u.id = r.watch := id_of_watch? hu
    refine ⟨u, hu, hname, ?_, (hlives hgoing).stage, ?_⟩
    · rw [isCancelled, hid, hu, hgoing]
      simpa using hcancelled
    · have hplace : u.datacenter = r.datacenter := by
        rw [(hlives hgoing).datacenter, hdatacenter, hrecord]
        rfl
      rw [question?, hu, Option.map_some, hname, hplace]
  · have hwatch : w.watch? u.id = some u := (watch?_eq_some_iff h.nodup).2 ⟨hu, rfl⟩
    obtain ⟨f, hf, hid⟩ := h.watched u.id u hwatch hcancelled
    obtain ⟨d, hd, -⟩ := h.sound.declared_of_followed hf
    refine ⟨l.record u.service d, ?_, ?_⟩
    · rw [h.state, Ledger.get?_upstreams, hd]
      rfl
    · rw [Ledger.record, hf]
      show w.watch? f.watch = _
      rw [hid]
      exact hwatch

/-- What follows is recalled together with what went before. -/
theorem Attended.persists {hs ks : List Heard} (h : Attended P l w) (hl : l.Recalls hs)
    (h' : Attended P (ks.foldl Ledger.hear l) w')
    (hl' : (ks.foldl Ledger.hear l).Recalls (hs ++ ks)) : Persists ks w w' := by
  constructor
  · intro name r hr hks
    obtain ⟨d, f, -, hf, hdatacenter, hrecord, hwatch⟩ := h.record_cases hr
    have hplace : r.datacenter = f.datacenter := by
      rw [hrecord, hdatacenter]
      rfl
    rw [hplace] at hks
    -- a service that every later definition keeps stays followed by the same watch
    obtain ⟨f', hf', hwatch', -⟩ := Ledger.follows_foldl hf hks
    obtain ⟨d', hd', -⟩ := h'.sound.declared_of_followed hf'
    have hr' : w'.state.upstreams.get? name = some ((ks.foldl Ledger.hear l).record name d') := by
      rw [h'.state, Ledger.get?_upstreams, hd']
      rfl
    have hsame : ((ks.foldl Ledger.hear l).record name d').watch = r.watch := by
      rw [Ledger.record, hf', hwatch]
      exact hwatch'
    refine ⟨_, hr', hsame, ?_⟩
    rw [h'.instances_eq hl' hr', hsame, h.instances_eq hl hr, reports_append,
      List.getLast?_append]
    cases (reports r.watch ks).getLast? with
    | none => rfl
    | some instances => rfl
  · intro id u hu hcancelled
    obtain ⟨hid, hunfollowed⟩ :=
      Ledger.unfollowed_foldl (h.unfollowed_of_cancelled hu hcancelled) (h.lt_started hu) ks
    obtain ⟨u', hu'⟩ := h'.exists_watch hid
    refine ⟨u', hu', ?_⟩
    -- a watch that runs is followed, and nothing follows a watch again that was cancelled
    by_contra hnot
    obtain ⟨f, hf, hwatch⟩ := h'.watched id u' hu' (Bool.eq_false_iff.2 hnot)
    exact hunfollowed _ f hf hwatch

/-- **Registry and watches correspond**, whatever the order in which definitions
    come and tracks move on, as long as nothing is told to stop: there is a
    record for each name of the last definition, with one watch at work, every
    other watch is cancelled and writes nothing, and records and cancelled
    watches stay what they are from then on. -/
theorem registry_matches_watches {serviceId : String} {wait : Nat}
    {proxy : Except Mesh.Error String} {service : Except Mesh.Error Mesh.Service}
    (h : (start serviceId wait proxy service).run es = some w) (hgoing : w.stopping = false) :
    Corresponds ((start serviceId wait proxy service).learned es) w ∧
      ∀ fs w', w.run fs = some w' → Persists (w.learned fs) w w' := by
  have hattended := attended_of_run h
  have hrecalls := recalls_of_run h
  refine ⟨hattended.corresponds hrecalls hgoing, fun fs w' hfs => ?_⟩
  have hrun : (start serviceId wait proxy service).run (es ++ fs) = some w' := by
    rw [run_append, h]
    exact hfs
  have hattended' := attended_of_run hrun
  have hrecalls' := recalls_of_run hrun
  rw [learned_append h, Ledger.after, List.foldl_append] at hattended' hrecalls'
  exact hattended.persists hrecalls hattended' hrecalls'

/-- The sidecar with its upstream in another datacenter. -/
def movedSidecar : Mesh.Service :=
  { webSidecar with sidecar := some ⟨"web", "web-1", ∅,
    [⟨"service", "db", "dc2", "127.0.0.1", 5432⟩]⟩ }

/-- The upstream moves while its watch holds an answer, which it then looks at. -/
def movedRun : List Event :=
  firstAnswers ++ [.ask (.upstream 0), .upstreamReply 0 (.ok ([], ⟨7, "c"⟩))] ++
    learning .proxy (.proxyReply (.ok (movedSidecar, ⟨2, "b"⟩))) ++ [.process (.upstream 0)]

/-- The upstream that moved has a new watch, and the old one is cancelled. -/
theorem moved_upstream_is_watched : ∃ w, webStart.run movedRun = some w ∧ w.stopping = false ∧
    w.watches.map (fun u => (u.id, u.datacenter, u.cancelled)) =
      [(0, "dc1", true), (1, "dc2", false)] ∧
    Corresponds (webStart.learned movedRun) w ∧
      ∀ fs w', w.run fs = some w' → Persists (w.learned fs) w w' := by
  have hrun : ∃ w, webStart.run movedRun = some w ∧ w.stopping = false ∧
      w.watches.map (fun u => (u.id, u.datacenter, u.cancelled)) =
        [(0, "dc1", true), (1, "dc2", false)] := ⟨_, rfl, rfl, rfl⟩
  obtain ⟨w, hw, hgoing, hwatches⟩ := hrun
  exact ⟨w, hw, hgoing, hwatches, registry_matches_watches hw hgoing⟩

end Watcher

end MeshSync.Watch
