import MeshSync.Proofs.Reconcile.Serving
import MeshSync.Proofs.Watch.Declaring
import MeshSync.Proofs.Watch.Looking

/-! # The names of upstreams

    The records of upstreams stand under the names that the sidecar's
    definition declares.  Where those stand for themselves in URLs, every
    snapshot is `Snapshot.Valid`: the one of the present state, the one that the
    publisher sends, and the one that is held (`Named.step`). -/

namespace MeshSync.Watch

open Url (Unreserved)

variable {upstreams : SortedMap String UpstreamRecord} {s : State} {x : Snapshot}

/-- Whether a service's sidecar declares upstreams by names that stand for
    themselves in URLs. -/
def NamesUnreserved (service : Mesh.Service) : Prop :=
  ∀ u ∈ (service.sidecar.getD blankSidecar).upstreams, Unreserved u.destinationName

instance (service : Mesh.Service) : Decidable (NamesUnreserved service) :=
  inferInstanceAs (Decidable (∀ u ∈ _, Unreserved _))

/-- Whether every record stands under its own name, and that name stands for
    itself in URLs. -/
def Registered (upstreams : SortedMap String UpstreamRecord) : Prop :=
  ∀ name r, upstreams.get? name = some r → r.service = name ∧ Unreserved name

theorem Registered.insert (h : Registered upstreams) {name : String} {r : UpstreamRecord}
    (hservice : r.service = name) (hname : Unreserved name) :
    Registered (upstreams.insert name r) := by
  intro name' r' hr'
  by_cases heq : name' = name
  · subst heq
    rw [SortedMap.get?_insert_self] at hr'
    rw [← Option.some.inj hr']
    exact ⟨hservice, hname⟩
  · rw [SortedMap.get?_insert_of_ne _ heq] at hr'
    exact h name' r' hr'

theorem Registered.filter (h : Registered upstreams) (p : String → UpstreamRecord → Bool) :
    Registered (upstreams.filter p) := by
  intro name r hr
  rw [SortedMap.get?_filter] at hr
  exact h name r (Option.eq_some_of_filter_eq_some hr)

theorem unreserved_of_declared {service : Mesh.Service} (h : NamesUnreserved service)
    {name : String} {u : Mesh.UpstreamDeclaration}
    (hu : (declared (service.sidecar.getD blankSidecar)).get? name = some u) : Unreserved name := by
  obtain ⟨v, hv, heq⟩ := List.mem_map.1 (SortedMap.mem_of_get?_ofList hu)
  obtain ⟨rfl, rfl⟩ := Prod.mk.inj heq
  exact h v hv

/-- A definition whose names stand for themselves registers what it declares. -/
theorem Registered.define (h : Registered s.upstreams) {service : Mesh.Service}
    (hs : NamesUnreserved service) (next : WatchId) :
    Registered (s.define next service).state.upstreams := by
  have hkept := h.filter (keeps (declared (service.sidecar.getD blankSidecar)))
  intro name r hr
  change (declareAll _ next _).1.get? name = some r at hr
  by_cases hname : name ∈ (declared (service.sidecar.getD blankSidecar)).keys
  · obtain ⟨u, hu⟩ := (SortedMap.mem_keys _ _).1 hname
    rw [get?_declareAll (SortedMap.nodup_keys _) ((SortedMap.mem_entries _ _ _).2 hu)] at hr
    refine ⟨?_, unreserved_of_declared hs hu⟩
    cases hold : (s.upstreams.filter (keeps _)).get? name with
    | none =>
        rw [hold] at hr
        rw [← Option.some.inj hr]
        rfl
    | some old =>
        rw [hold] at hr
        rw [← Option.some.inj hr]
        exact (hkept name old hold).1
  · rw [get?_declareAll_of_not_mem hname] at hr
    exact hkept name r hr

/-- Where every record stands under its own name, those are the names of the
    upstreams. -/
theorem services_upstreams (h : ∀ name r, upstreams.get? name = some r → r.service = name)
    (tls : TlsMaterial) :
    (upstreams.values.map (·.upstream tls)).map (·.service) = upstreams.keys := by
  rw [SortedMap.values, SortedMap.keys, List.map_map, List.map_map]
  exact List.map_congr_left fun e he => h e.1 e.2 ((SortedMap.mem_entries _ _ _).1 he)

/-- The snapshot of registered records is valid. -/
theorem Registered.valid (h : Registered s.upstreams) {serviceName serviceId : String}
    (hx : s.snapshot? serviceName serviceId = some x) : x.Valid := by
  obtain ⟨tls, -, rfl⟩ := Option.map_eq_some_iff.1 hx
  have hservices := services_upstreams (fun name r hr => (h name r hr).1) tls
  constructor
  · show ((s.upstreams.values.map (·.upstream tls)).map (·.service)).Nodup
    rw [hservices]
    exact SortedMap.nodup_keys _
  · intro u hu
    have hservice : u.service ∈ s.upstreams.keys := by
      rw [← hservices]
      exact List.mem_map_of_mem hu
    obtain ⟨r, hr⟩ := (SortedMap.mem_keys _ _).1 hservice
    exact (h _ r hr).2

namespace Watcher

variable {w w' : Watcher} {e : Event}

/-- A report of instances goes into a record that is there. -/
theorem registered_reportInstances {u : UpstreamWatch} {instances : List Mesh.Instance}
    (h : Registered w.state.upstreams) :
    Registered (w.reportInstances u instances).state.upstreams := by
  unfold reportInstances
  split
  · exact h
  · next record hrecord =>
      split
      · exact h
      · obtain ⟨hservice, hname⟩ := h _ _ hrecord
        exact h.insert hservice hname

theorem registered_process {t : TrackId} (hp : w.process t = some w')
    (hnames : ∀ a, heard? (w, .process t) = some (.proxy a) → NamesUnreserved a.1)
    (h : Registered w.state.upstreams) : Registered w'.state.upstreams := by
  cases t with
  | caRoots =>
      obtain ⟨⟨t, news⟩, -, hp⟩ := Option.bind_eq_some_iff.1 hp
      cases news <;> exact Option.some.inj hp ▸ h
  | leaf =>
      obtain ⟨⟨t, news⟩, -, hp⟩ := Option.bind_eq_some_iff.1 hp
      cases news <;> exact Option.some.inj hp ▸ h
  | service =>
      obtain ⟨⟨t, news⟩, -, hp⟩ := Option.bind_eq_some_iff.1 hp
      cases news <;> exact Option.some.inj hp ▸ h
  | proxy =>
      obtain ⟨⟨t, news⟩, ht, hp⟩ := Option.bind_eq_some_iff.1 hp
      cases Track.looks_of_process ht with
      | failed => exact Option.some.inj hp ▸ h
      | same => exact Option.some.inj hp ▸ h
      | changed a c hanswer =>
          obtain rfl := Option.some.inj hp
          exact h.define (hnames a (by rw [heard?, hanswer]; rfl)) _
  | upstream id =>
      obtain ⟨u, -, hp⟩ := Option.bind_eq_some_iff.1 hp
      obtain ⟨⟨t, news⟩, -, hp⟩ := Option.bind_eq_some_iff.1 hp
      cases news with
      | changed instances => exact Option.some.inj hp ▸ registered_reportInstances h
      | same => exact Option.some.inj hp ▸ h
      | failed => exact Option.some.inj hp ▸ h

/-- Whether all snapshots that there are, or that may be taken now, are valid. -/
structure Named (w : Watcher) : Prop where
  records : Registered w.state.upstreams
  sending : ∀ x, w.publisher = .sending x → x.Valid
  held : ∀ x, w.output.held = some x → x.Valid

theorem Named.underWay (h : w.Named) : w.UnderWay Snapshot.Valid := ⟨h.sending, h.held⟩

theorem named_start (serviceId : String) (wait : Nat) (proxy : Except Mesh.Error String)
    (service : Except Mesh.Error Mesh.Service) : (start serviceId wait proxy service).Named := by
  obtain ⟨hsending, hheld⟩ := underWay_start Snapshot.Valid serviceId wait proxy service
  refine ⟨?_, hsending, hheld⟩
  cases proxy with
  | error e => exact nofun
  | ok proxyId =>
      cases service with
      | error e => exact nofun
      | ok s => exact nofun

/-- **Every step keeps names**, where the definitions that it looks at declare
    unreserved ones. -/
theorem Named.step (h : w.Named) (hs : Steps w e w')
    (hnames : ∀ a, heard? (w, e) = some (.proxy a) → NamesUnreserved a.1) : w'.Named := by
  obtain ⟨hsending, hheld⟩ := h.underWay.step hs fun _ hx => h.records.valid hx
  refine ⟨?_, hsending, hheld⟩
  cases hs with
  | quiet _ _ _ hm =>
      rw [hm.others]
      exact h.records
  | notify t v hv =>
      have hothers := (onTrack_moved (R := Track.Moves) Track.Moves.refl
        (fun _ _ => Track.moves_of_notify) hv).others
      rw [hothers]
      exact h.records
  | process t _ hp => exact registered_process hp hnames h.records
  | pass => exact h.records
  | drain => exact h.records
  | build => exact h.records
  | hold => exact h.records
  | deliver => exact h.records
  | fail => exact h.records
  | quit => exact h.records
  | take => exact h.records
  | closeOutput => exact h.records
  | shutdown => exact h.records

end Watcher

end MeshSync.Watch
