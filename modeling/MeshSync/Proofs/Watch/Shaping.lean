import MeshSync.Proofs.Mesh.Selecting
import MeshSync.Proofs.Reconcile.Apart
import MeshSync.Proofs.Watch.Coalescing
import MeshSync.Proofs.Watch.Learning
import MeshSync.Proofs.Watch.Naming

/-! # The shape of snapshots

    Whatever definitions and instances the mesh reports, and in whatever order:
    a snapshot names its upstreams in ascending order, serves all listeners with
    one material, and lists endpoints in order and without zero weights
    (`Snapshot.Shaped`).  The listeners of a snapshot are then kept apart by the
    store where names stand for themselves in URLs.

    The state of a watcher is that of a ledger (`attended_of_run`), whose records
    stand under their own names; so the snapshot of every state is shaped, and
    what is sent was the snapshot of a state (`taken_of_run`). -/

namespace MeshSync

/-! ## Shaped snapshots -/

/-- The form of a snapshot on which plans, certificate files and deletions
    rely. -/
structure Snapshot.Shaped (x : Snapshot) : Prop where
  ascending : (x.upstreams.map (·.service)).Pairwise (· < ·)
  material : ∀ u ∈ x.upstreams, u.tls = x.downstream.tls
  ordered : ∀ u ∈ x.upstreams, u.endpoints.Pairwise Endpoint.Before
  weighted : ∀ u ∈ x.upstreams, ∀ e ∈ u.endpoints, e.weight ≠ 0
  /-- The store keeps the listeners apart where their names stand for
      themselves. -/
  apart : (∀ u ∈ x.upstreams, Url.Unreserved u.service) →
    ∀ (options : Reconcile.Options) (paths : TlsMaterial → Certificates.Paths) (id : String),
      Url.Unreserved id → Reconcile.Apart x options paths id

namespace Watch

variable {s : State} {x : Snapshot}

/-- **The snapshot of a state is shaped**, where records stand under their own
    names. -/
theorem shaped_of_snapshot? (h : ∀ name r, s.upstreams.get? name = some r → r.service = name)
    {serviceName serviceId : String} (hx : s.snapshot? serviceName serviceId = some x) :
    x.Shaped := by
  obtain ⟨tls, -, rfl⟩ := Option.map_eq_some_iff.1 hx
  have hservices := services_upstreams h tls
  have hascending : ((s.upstreams.values.map (·.upstream tls)).map (·.service)).Pairwise
      (· < ·) := by
    rw [hservices]
    exact s.upstreams.pairwise_keys
  refine ⟨hascending, ?_, ?_, ?_, fun hnames options paths id hid => ?_⟩
  · intro u hu
    obtain ⟨r, -, rfl⟩ := List.mem_map.1 hu
    rfl
  · intro u hu
    obtain ⟨r, -, rfl⟩ := List.mem_map.1 hu
    exact Endpoint.pairwise_sort _
  · intro u hu e he
    obtain ⟨r, -, rfl⟩ := List.mem_map.1 hu
    exact Endpoint.weight_ne_zero he
  · have hdistinct : ((s.upstreams.values.map (·.upstream tls)).map (·.service)).Nodup := by
      rw [hservices]
      exact SortedMap.nodup_keys _
    exact Reconcile.apart_of_valid ⟨hdistinct, hnames⟩ options paths hid

/-- The records that a ledger makes stand under their own names. -/
theorem Ledger.service_of_get? (l : Ledger) (name : String) (r : UpstreamRecord)
    (hr : l.state.upstreams.get? name = some r) : r.service = name := by
  rw [l.get?_upstreams] at hr
  obtain ⟨u, -, rfl⟩ := Option.map_eq_some_iff.1 hr
  rfl

namespace Watcher

variable {w v : Watcher} {es : List Event} {serviceId : String} {wait : Nat}
variable {proxy : Except Mesh.Error String} {service : Except Mesh.Error Mesh.Service}

/-- The snapshot of every state that is reached is shaped. -/
theorem shaped_of_run (h : (start serviceId wait proxy service).run es = some w)
    (hx : w.snapshot? = some x) : x.Shaped := by
  have hattended := attended_of_run h
  refine shaped_of_snapshot? ?_ hx
  rw [hattended.state]
  exact Ledger.service_of_get? _

/-- What is put into the output has been on its way. -/
theorem sending_of_sent? {e : Event} {x : Snapshot} (h : sent? (v, e) = some x) :
    v.publisher = .sending x := by
  cases e with
  | deliver =>
      rw [sent?, onItsWay?] at h
      split at h
      · next y hy => rw [hy, Option.some.inj h]
      · exact absurd h.symm (Option.some_ne_none x)
  | _ => simp [sent?] at h

/-- **What is sent was taken of a state**: what holds of the snapshots of all
    states that are reached holds of all snapshots that are on their way, held,
    or were sent. -/
theorem taken_of_run {P : Snapshot → Prop}
    (hP : ∀ es v x, (start serviceId wait proxy service).run es = some v → v.snapshot? = some x →
      P x)
    (h : (start serviceId wait proxy service).run es = some w) :
    w.UnderWay P ∧ ∀ x ∈ sent ((start serviceId wait proxy service).moments es), P x := by
  refine run_induction (P := fun es w => w.UnderWay P ∧ ∀ x ∈ sent (moments _ es), P x)
    ⟨underWay_start P _ _ _ _, nofun⟩ ?_ h
  rintro es v e v' hv ⟨hunder, hsent⟩ hstep
  refine ⟨hunder.step (steps_of_step hstep) fun x hx => hP es v x hv hx, ?_⟩
  rw [moments_snoc hv, sent_snoc]
  intro x hx
  rcases List.mem_append.1 hx with hx | hx
  · exact hsent x hx
  · exact hunder.sending x (sending_of_sent? (Option.mem_toList.1 hx))

/-- **Every snapshot is shaped**: those that were sent, the one on its way, the
    one that is held, and the one that would be taken now. -/
theorem snapshots_shaped (h : (start serviceId wait proxy service).run es = some w) :
    (∀ x ∈ sent ((start serviceId wait proxy service).moments es), x.Shaped) ∧
      (∀ x, w.publisher = .sending x → x.Shaped) ∧
      (∀ x, w.output.held = some x → x.Shaped) ∧
      ∀ x, w.snapshot? = some x → x.Shaped := by
  obtain ⟨⟨hsending, hheld⟩, hsent⟩ := taken_of_run (fun _ _ _ => shaped_of_run) h
  exact ⟨hsent, hsending, hheld, fun x hx => shaped_of_run h hx⟩

/-- A sidecar that declares one upstream twice, and another by an empty name. -/
def crowdedSidecar : Mesh.Service :=
  { webSidecar with sidecar := some ⟨"web", "web-1", ∅,
    [⟨"service", "db", "dc1", "127.0.0.1", 5432⟩, ⟨"service", "", "dc1", "127.0.0.1", 6000⟩,
      ⟨"service", "db", "dc1", "127.0.0.1", 5433⟩]⟩ }

/-- Two instances, neither in order nor both passing. -/
def crowd : List Mesh.Instance :=
  [⟨⟨"node-2", "10.0.0.2", "dc1"⟩, ⟨"db-2", "db", "", 5432, ⟨1, 1⟩⟩, []⟩,
    ⟨⟨"node-1", "10.0.0.1", "dc1"⟩, ⟨"db-1", "db", "", 5432, ⟨1, 0⟩⟩, [⟨"", "", "warning"⟩]⟩]

/-- The definition changes, instances are reported, and a snapshot is sent. -/
def crowdedRun : List Event :=
  firstAnswers ++ learning .proxy (.proxyReply (.ok (crowdedSidecar, ⟨2, "b"⟩))) ++
    learning (.upstream 0) (.upstreamReply 0 (.ok (crowd, ⟨1, "a"⟩))) ++
    [.pass, .drain, .build, .deliver]

theorem crowded_snapshots_shaped : ∃ w x, webStart.run crowdedRun = some w ∧
    sent (webStart.moments crowdedRun) = [x] ∧ x.upstreams.map (·.service) = ["", "db"] ∧
    x.Shaped := by
  have hrun : ∃ w x, webStart.run crowdedRun = some w ∧
      sent (webStart.moments crowdedRun) = [x] ∧ x.upstreams.map (·.service) = ["", "db"] :=
    ⟨_, _, rfl, rfl, rfl⟩
  obtain ⟨w, x, hw, hsent, hservices⟩ := hrun
  refine ⟨w, x, hw, hsent, hservices, (snapshots_shaped hw).1 x ?_⟩
  rw [← webStart, hsent]
  exact List.mem_singleton_self x

end Watcher

end Watch

end MeshSync
