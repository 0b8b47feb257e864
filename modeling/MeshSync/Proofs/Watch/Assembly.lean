import MeshSync.Proofs.Watch.Contents
import MeshSync.Proofs.Watch.Looking
import MeshSync.Proofs.Watch.Tracking

/-! # Snapshots are assembled from the latest answers

    Whatever the order in which answers come in and tracks look at them, a
    snapshot that is sent is the one that the latest answers determined when it
    was taken.  The route:

    * `Ledger.Complete` - each of the four tracks has had an answer; the gate
      opens only then.
    * **`Assembled`** - the invariant of a run, by `Tracked.step`.
    * **`sent_assembles_latest`** - the statement about every snapshot sent:
      field by field it says what the latest answers say (`Says`), and no other
      snapshot does. -/

namespace MeshSync.Watch

namespace Ledger

/-- Each of the four tracks has had an answer. -/
structure Complete (l : Ledger) : Prop where
  caRoots : l.caRoots ≠ none
  leaf : l.leaf ≠ none
  proxy : l.proxy ≠ none
  service : l.service ≠ none

/-- Hearing a reply, or nothing, keeps the ledger complete. -/
theorem Complete.hear? {l : Ledger} (h : l.Complete) (x : Option Heard) : (l.hear? x).Complete := by
  cases x with
  | none => exact h
  | some x =>
      cases x with
      | caRoots a => exact { h with caRoots := Option.some_ne_none a }
      | leaf a => exact { h with leaf := Option.some_ne_none a }
      | proxy a => exact { h with proxy := Option.some_ne_none a }
      | service a => exact { h with service := Option.some_ne_none a }
      | instances id a => exact { h with }

/-- **Every latest report was heard**: whatever holds of all reports holds of the
    latest to each upstream. -/
theorem latest_of_reports {P : Answer (List Mesh.Instance) → Prop} {hs : List Heard}
    (h : ∀ id a, .instances id a ∈ hs → P a) :
    ∀ name f b, (after hs).followed name = some f → f.latest = some b → P b := by
  induction hs using List.reverseRecOn with
  | nil => exact fun _ _ _ hf => nomatch hf
  | append_singleton hs x ih =>
      have hbefore := ih fun id a ha => h id a (List.mem_append_left _ ha)
      intro name f b hf hb
      rw [after_snoc] at hf
      cases x with
      | caRoots a => exact hbefore name f b hf hb
      | leaf a => exact hbefore name f b hf hb
      | service a => exact hbefore name f b hf hb
      | proxy a =>
          rcases followed_cases hf with ⟨hkept, -⟩ | ⟨u, -, hnew⟩
          · exact hbefore name f b hkept hb
          · rw [hnew] at hb
            exact nomatch hb
      | instances id a =>
          obtain ⟨f₀, hf₀, rfl⟩ := Option.map_eq_some_iff.1 hf
          rw [Followed.report] at hb
          split at hb
          · obtain rfl := Option.some.inj hb
            exact h id a (List.mem_append_right _ (List.mem_singleton_self _))
          · exact hbefore name f₀ b hf₀ hb

/-- A report with another cursor than all reports before may say anything. -/
theorem admits_instances (hs : List Heard) {id : WatchId} {a : Answer (List Mesh.Instance)}
    (h : (Cursor.index 0).mark a.2 ≠ .index 0)
    (hne : ∀ j b, .instances j b ∈ hs → (Cursor.index 0).mark b.2 ≠ (Cursor.index 0).mark a.2) :
    (after hs).Admits (.instances id a) :=
  fun name f hf _ => Track.follows_of_ne h fun b hb => latest_of_reports hne name f b hf hb

end Ledger

namespace Watcher

variable {first w w' : Watcher} {e : Event} {es : List Event}

/-- The ledger of a run. -/
def ledger (first : Watcher) (es : List Event) : Ledger := .after (heard (first.moments es))

/-- One more event adds what is heard at it to what was heard. -/
theorem heard_snoc (h : first.run es = some w) (e : Event) :
    heard (first.moments (es ++ [e])) = heard (first.moments es) ++ (heard? (w, e)).toList := by
  rw [moments_snoc h, heard, List.filterMap_append, heard]
  cases hx : heard? (w, e) <;> simp [hx]

/-- One more event enters what is heard at it in the ledger. -/
theorem ledger_snoc (h : first.run es = some w) (e : Event) :
    first.ledger (es ++ [e]) = (first.ledger es).hear? (heard? (w, e)) := by
  rw [ledger, heard_snoc h]
  cases heard? (w, e) with
  | none => exact congrArg _ (List.append_nil _)
  | some x => exact Ledger.after_snoc _ x

/-- Whether the publisher has been let through the gate. -/
def publishing (w : Watcher) : Bool :=
  match w.publisher with
  | .listening => true
  | .drained => true
  | .sending _ => true
  | .gated => false
  | .finished _ => false

/-- The gate opens when each of the four tracks has had an answer. -/
theorem Tracked.complete_of_gateOpen {l : Ledger} (h : Tracked l w) (hg : w.gateOpen = true) :
    l.Complete := by
  rw [gateOpen, Bool.not_eq_true', Bool.or_eq_false_iff, Bool.or_eq_false_iff,
    Bool.or_eq_false_iff] at hg
  obtain ⟨⟨⟨hcaRoots, hleaf⟩, hproxy⟩, hservice⟩ := hg
  exact ⟨h.caRoots.2 (.inl hcaRoots), h.leaf.2 (.inl hleaf), h.proxy.2 (.inl hproxy),
    h.service.2 (.inl hservice)⟩

/-- A snapshot that is taken from a complete ledger's state is its assembly. -/
theorem Tracked.assembles {l : Ledger} (h : Tracked l w) (hl : l.Complete) {s : Snapshot}
    (hs : w.snapshot? = some s) : l.Assembles w.identity s := by
  obtain ⟨caRoots, hcaRoots⟩ := Option.ne_none_iff_exists'.1 hl.caRoots
  obtain ⟨leaf, hleaf⟩ := Option.ne_none_iff_exists'.1 hl.leaf
  obtain ⟨proxy, hproxy⟩ := Option.ne_none_iff_exists'.1 hl.proxy
  obtain ⟨service, hservice⟩ := Option.ne_none_iff_exists'.1 hl.service
  rw [snapshot?, h.state, Ledger.snapshot?_state hcaRoots hleaf hproxy hservice] at hs
  exact ⟨caRoots, leaf, proxy, service, hcaRoots, hleaf, hproxy, hservice,
    (Option.some.inj hs).symm⟩

/-- A watcher that ended at its start follows the blank ledger. -/
theorem tracked_ended (identity : Identity) (wait : Nat) (error : WatchError) :
    Tracked .blank (ended identity wait error) := by
  have hnew := tracked_new identity wait
  have hdrop {α : Type} (t : Track α) : t.Moves t.drop :=
    .of_phase Stage.noConfusion Stage.noConfusion
  exact { hnew with
    caRoots := hnew.caRoots.move (hdrop _)
    leaf := hnew.leaf.move (hdrop _)
    proxy := hnew.proxy.move (hdrop _)
    service := hnew.service.move (hdrop _)
    followed := fun _ _ hf => nomatch hf }

/-- What holds after a run: the watcher and the ledger of the run belong
    together, nobody publishes before the ledger is complete, and the snapshot
    on its way was assembled when it was taken last. -/
structure Assembled (first : Watcher) (es : List Event) (w : Watcher) : Prop where
  tracked : Tracked (first.ledger es) w
  identity : w.identity = first.identity
  ready : w.publishing = true → (first.ledger es).Complete
  taken : ∀ s, w.publisher = .sending s → ∃ before rest, es = before ++ .build :: rest ∧
    .build ∉ rest ∧ (first.ledger before).Assembles first.identity s

/-- A run that goes on without taking a snapshot. -/
theorem taken_snoc {s : Snapshot} (he : e ≠ .build)
    (h : ∃ before rest, es = before ++ .build :: rest ∧ .build ∉ rest ∧
      (first.ledger before).Assembles first.identity s) :
    ∃ before rest, es ++ [e] = before ++ .build :: rest ∧ .build ∉ rest ∧
      (first.ledger before).Assembles first.identity s := by
  obtain ⟨before, rest, rfl, hrest, hs⟩ := h
  refine ⟨before, rest ++ [e], by rw [List.append_assoc, List.cons_append], ?_, hs⟩
  rw [List.mem_append, List.mem_singleton]
  rintro (hmem | heq)
  · exact hrest hmem
  · exact he heq.symm

/-- An event that the publisher does not take part in. -/
theorem Assembled.aside (h : Assembled first es w) (hrun : first.run es = some w)
    (ht : Tracked (first.ledger (es ++ [e])) w') (he : e ≠ .build)
    (hi : w'.identity = w.identity) (hp : w'.publisher = w.publisher) :
    Assembled first (es ++ [e]) w' := by
  have hpublishing : w'.publishing = w.publishing := by rw [publishing, hp, publishing]
  refine ⟨ht, hi.trans h.identity, fun hready => ?_, fun s hs => ?_⟩
  · rw [ledger_snoc hrun]
    exact (h.ready (hpublishing.symm.trans hready)).hear? _
  · exact taken_snoc he (h.taken s (hp.symm.trans hs))

/-- **Every step keeps the invariant.** -/
theorem Assembled.step (h : Assembled first es w) (hrun : first.run es = some w)
    (hs : Steps w e w') (ha : ∀ x, heard? (w, e) = some x → (first.ledger es).Admits x) :
    Assembled first (es ++ [e]) w' := by
  have ht : Tracked (first.ledger (es ++ [e])) w' := by
    rw [ledger_snoc hrun]
    exact h.tracked.step hs ha
  have hgoes (hready : w.publishing = true) : (first.ledger (es ++ [e])).Complete := by
    rw [ledger_snoc hrun]
    exact (h.ready hready).hear? _
  cases hs with
  | quiet _ _ he hm =>
      have hbuild : e ≠ .build := by
        rintro rfl
        exact nomatch he
      exact h.aside hrun ht hbuild (by rw [hm.others]) (by rw [hm.others])
  | notify t v hv =>
      have hothers := (onTrack_moved (R := Track.Moves) Track.Moves.refl
        (fun _ _ => Track.moves_of_notify) hv).others
      have hi : v.identity = w.identity := by rw [hothers]
      have hp : v.publisher = w.publisher := by rw [hothers]
      exact h.aside hrun ht Event.noConfusion hi hp
  | process t _ hp =>
      have hlooked := looked_of_process hp
      exact h.aside hrun ht Event.noConfusion hlooked.identity hlooked.publisher
  | pass hp hg =>
      have hcomplete : (first.ledger (es ++ [.pass])).Complete := by
        rw [ledger_snoc hrun]
        exact (h.tracked.complete_of_gateOpen hg).hear? _
      exact ⟨ht, h.identity, fun _ => hcomplete, fun s hs => (nomatch hs)⟩
  | drain hp hs => exact ⟨ht, h.identity, fun _ => hgoes (by rw [publishing, hp]),
      fun s hs => (nomatch hs)⟩
  | build s hp hs =>
      have hcomplete := h.ready (by rw [publishing, hp])
      have hassembles := h.tracked.assembles hcomplete hs
      rw [h.identity] at hassembles
      refine ⟨ht, h.identity, fun _ => hgoes (by rw [publishing, hp]), fun s' hs' => ?_⟩
      obtain rfl := Publisher.sending.inj hs'
      exact ⟨es, [], rfl, List.not_mem_nil, hassembles⟩
  | hold hp hs =>
      exact ⟨ht, h.identity, fun _ => hgoes (by rw [publishing, hp]), fun s hs => (nomatch hs)⟩
  | deliver s hp hh =>
      exact ⟨ht, h.identity, fun _ => hgoes (by rw [publishing, hp]), fun s hs => (nomatch hs)⟩
  | fail ho => exact ⟨ht, h.identity, fun hready => (nomatch hready), fun s hs => (nomatch hs)⟩
  | quit hs => exact ⟨ht, h.identity, fun hready => (nomatch hready), fun s hs => (nomatch hs)⟩
  | take s hh => exact h.aside hrun ht Event.noConfusion rfl rfl
  | closeOutput => exact h.aside hrun ht Event.noConfusion rfl rfl
  | shutdown => exact h.aside hrun ht Event.noConfusion rfl rfl

/-- A run from the start, in which only admissible replies are heard, ends
    in a watcher that assembles its ledger. -/
theorem assembled_of_run {serviceId : String} {wait : Nat} {proxy : Except Mesh.Error String}
    {service : Except Mesh.Error Mesh.Service}
    (h : (start serviceId wait proxy service).run es = some w)
    (ht : Ledger.blank.Trusted (heard ((start serviceId wait proxy service).moments es))) :
    Assembled (start serviceId wait proxy service) es w := by
  revert ht
  refine run_induction (P := fun es w => Ledger.blank.Trusted (heard (moments _ es)) →
    Assembled _ es w) ?_ ?_ h
  · intro _
    cases proxy with
    | error error =>
        exact ⟨tracked_ended _ _ _, rfl, fun hready => (nomatch hready), fun s hs => (nomatch hs)⟩
    | ok proxyId =>
        cases service with
        | error error =>
            exact ⟨tracked_ended _ _ _, rfl, fun hready => (nomatch hready),
              fun s hs => (nomatch hs)⟩
        | ok s =>
            exact ⟨tracked_new _ _, rfl, fun hready => (nomatch hready), fun s hs => (nomatch hs)⟩
  · intro es v e v' hv ih hstep ht
    rw [heard_snoc hv, Ledger.trusted_append] at ht
    refine (ih ht.1).step hv (steps_of_step hstep) fun x hx => ?_
    have hlast := ht.2
    rw [hx] at hlast
    exact hlast.1

/-- **Every snapshot that is sent was assembled from the latest answers.**
    Whenever the publisher puts a snapshot into the output, it took that
    snapshot last, and what it took is the one snapshot that says what the
    answers said that had been looked at by then, of which each of the four
    tracks had at least one. -/
theorem sent_assembles_latest {serviceId : String} {wait : Nat}
    {proxy : Except Mesh.Error String} {service : Except Mesh.Error Mesh.Service}
    (h : (start serviceId wait proxy service).run es = some w)
    (ht : Ledger.blank.Trusted (heard ((start serviceId wait proxy service).moments es)))
    {before after : List Event} (he : es = before ++ .deliver :: after) :
    ∃ taken rest v v' s, before = taken ++ .build :: rest ∧ .build ∉ rest ∧
      (start serviceId wait proxy service).run before = some v ∧ v.step .deliver = some v' ∧
      v'.output.held = some s ∧
      ((start serviceId wait proxy service).ledger taken).Determines
        (start serviceId wait proxy service).identity s := by
  rw [he, run_append] at h
  obtain ⟨v, hv, h⟩ := Option.bind_eq_some_iff.1 h
  obtain ⟨v', hv', h⟩ := Option.bind_eq_some_iff.1 h
  have hbefore := ht
  rw [he, moments_append hv, heard, List.filterMap_append, Ledger.trusted_append] at hbefore
  have hassembled := assembled_of_run hv hbefore.1
  cases steps_of_step hv' with
  | deliver s hp hh =>
      obtain ⟨taken, rest, hsplit, hrest, hs⟩ := hassembled.taken s hp
      exact ⟨taken, rest, v, _, s, hsplit, hrest, hv, hv', rfl, hs.determines⟩
  | quiet _ _ hquiet => exact nomatch hquiet

/-- An authority with one certificate. -/
def authority : Mesh.CaRoot :=
  { id := "r1"
    name := "primary"
    pem := "-----BEGIN CERTIFICATE-----\nAAEC\n-----END CERTIFICATE-----\n"
    active := true }

/-- A sidecar that is bound to an address of its own and declares a second
    upstream. -/
def boundSidecar : Mesh.Service :=
  { webSidecar with sidecar := some ⟨"web", "web-1", .ofList [("bind_address", .string "10.0.0.9")],
    [⟨"service", "db", "dc1", "127.0.0.1", 5433⟩, ⟨"service", "cache", "dc1", "127.0.0.1", 6379⟩]⟩ }

/-- The answers that come after a first run: two authorities, one of them
    without a certificate, another definition, and an instance. -/
def laterAnswers : List Event :=
  learning .caRoots
      (.caRootsReply (.ok (⟨"r1", [authority, { authority with pem := "" }]⟩, ⟨2, "b"⟩))) ++
    learning .proxy (.proxyReply (.ok (boundSidecar, ⟨2, "b"⟩))) ++
    learning (.upstream 0) (.upstreamReply 0 (.ok ([dbInstance], ⟨2, "b"⟩)))

/-- A first run, and a snapshot of what is known after the later answers. -/
def changingRun : List Event := firstRun ++ laterAnswers ++ [.drain, .build, .take, .deliver]

/-- The answers that are looked at in that run. -/
def changingAnswers : List Heard :=
  [.caRoots (⟨"", []⟩, ⟨1, "a"⟩), .leaf (⟨"", "cert", "key", ""⟩, ⟨1, "a"⟩),
    .proxy (webSidecar, ⟨1, "a"⟩), .service (web, ⟨1, "a"⟩), .instances 0 ([], ⟨1, "a"⟩),
    .caRoots (⟨"r1", [authority, { authority with pem := "" }]⟩, ⟨2, "b"⟩),
    .proxy (boundSidecar, ⟨2, "b"⟩), .instances 0 ([dbInstance], ⟨2, "b"⟩)]

/-- Each of them has another cursor than the one before it. -/
theorem trusted_changingAnswers : Ledger.blank.Trusted changingAnswers := by
  refine ⟨?caRoots, ?leaf, ?proxy, ?service, ?reported, ?caRootsAgain, ?proxyAgain,
    ?reportedAgain, trivial⟩
  case caRoots => exact Track.follows_of_ne (by decide) (by decide)
  case leaf => exact Track.follows_of_ne (by decide) (by decide)
  case proxy => exact Track.follows_of_ne (by decide) (by decide)
  case service => exact Track.follows_of_ne (by decide) (by decide)
  case caRootsAgain => exact Track.follows_of_ne (by decide) (by decide)
  case proxyAgain => exact Track.follows_of_ne (by decide) (by decide)
  case reported =>
      refine Ledger.admits_instances (changingAnswers.take 4) (by decide) fun j b hb => ?_
      simp [changingAnswers] at hb
  case reportedAgain =>
      refine Ledger.admits_instances (changingAnswers.take 7) (by decide) fun j b hb => ?_
      obtain ⟨-, rfl⟩ : j = 0 ∧ b = ([], ⟨1, "a"⟩) := by simpa [changingAnswers] using hb
      decide

/-- The snapshot that is sent last says what the later answers brought. -/
theorem changing_run_assembles_latest : ∃ taken w s, webStart.run changingRun = some w ∧
    w.output.held = some s ∧ (webStart.ledger taken).Determines webStart.identity s ∧
    s.downstream.tls.cas = [pemOf authority] ∧ s.caPool.certificates = [[0, 1, 2]] ∧
    s.downstream.localBindAddress = "10.0.0.9" ∧ s.downstream.targetAddress = "127.0.0.1" ∧
    s.upstreams.map (fun u => (u.service, u.localBindPort, u.endpoints)) =
      [("cache", 6379, []), ("db", 5433, [⟨"10.0.0.1", 5432, 1⟩])] := by
  have htrusted : Ledger.blank.Trusted (heard (webStart.moments changingRun)) :=
    trusted_changingAnswers
  have hsplit : changingRun = changingRun.dropLast ++ .deliver :: [] := rfl
  obtain ⟨w, hw⟩ : ∃ w, webStart.run changingRun = some w := ⟨_, rfl⟩
  obtain ⟨taken, rest, v, v', s, -, -, hv, hv', hheld, hs⟩ :=
    sent_assembles_latest hw htrusted hsplit
  have hbefore : webStart.run changingRun.dropLast = some v := hv
  have hlast : webStart.run changingRun = some v' := by
    rw [hsplit, run_append, hbefore, Option.bind_some, run, hv']
    rfl
  -- what is held at the end is evaluated field by field
  have hsays {α : Type} {x : α} (f : Snapshot → α)
      (h : ((webStart.run changingRun).bind (·.output.held)).map f = some x) : f s = x := by
    rw [hlast, Option.bind_some, hheld, Option.map_some] at h
    exact Option.some.inj h
  refine ⟨taken, v', s, hlast, hheld, hs, ?cas, ?certificates, ?bind, ?target, ?upstreams⟩
  case cas => exact hsays (·.downstream.tls.cas) (by decide +kernel)
  case certificates => exact hsays (·.caPool.certificates) (by decide +kernel)
  case bind => exact hsays (·.downstream.localBindAddress) (by decide +kernel)
  case target => exact hsays (·.downstream.targetAddress) (by decide +kernel)
  case upstreams =>
      refine hsays (·.upstreams.map fun u => (u.service, u.localBindPort, u.endpoints)) ?_
      decide +kernel

end Watcher

end MeshSync.Watch
