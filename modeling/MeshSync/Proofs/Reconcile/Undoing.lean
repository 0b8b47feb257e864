import MeshSync.Proofs.Dataplane.Misreading
import MeshSync.Proofs.Reconcile.Likeness
import MeshSync.Proofs.Reconcile.Sole
import MeshSync.Proofs.Url.Verbatim

/-! # Building an upstream and deleting it again

    A name is spelled three times: in the body that creates a frontend, in the
    query of what belongs to the frontend, and in the path of the request that
    deletes it.  For a `Verbatim` name the three agree, whatever else is in the
    store: the objects of the upstream are stored under keys of that name, and
    deleting frontend and backend leaves the store as it was
    (`teardown_undoes_build`). -/

namespace MeshSync.Reconcile

open Dataplane
open Url (Unreserved Verbatim Stretch)
open Url.Form (Literal)

variable {paths : TlsMaterial → Certificates.Paths} {options : Options} {u : Upstream}
  {l : Listener} {objects objects' : Objects}

/-! ## Requests -/

theorem stretch_frontend {service : String} (h : Verbatim service) :
    Stretch (Listener.upstream service).frontend.toList :=
  h.stretch_append (by decide : Unreserved "front_upstream_") (c := 'f') rfl (by decide) (by decide)

theorem stretch_backend {service : String} (h : Verbatim service) :
    Stretch (Listener.upstream service).backend.toList :=
  h.stretch_append (by decide : Unreserved "back_upstream_") (c := 'b') rfl (by decide) (by decide)

theorem literal_frontend {service : String} (h : Verbatim service) :
    Literal (Listener.upstream service).frontend :=
  h.literal_append (by decide : Unreserved "front_upstream_")

theorem literal_backend {service : String} (h : Verbatim service) :
    Literal (Listener.upstream service).backend :=
  h.literal_append (by decide : Unreserved "back_upstream_")

/-- What builds an upstream is read as it is meant. -/
theorem legible_build (h : Verbatim u.service) :
    ∀ op ∈ operations paths (Upstream.build u options), op.Legible := by
  intro op hop
  rw [operations_upstream] at hop
  rcases cases_of_mem hop with rfl | hop | rfl | hop
  · trivial
  · rcases List.mem_cons.1 hop with rfl | hop
    · exact literal_frontend h
    · rw [List.mem_singleton.1 hop]
      exact literal_frontend h
  · trivial
  · rcases List.mem_cons.1 hop with rfl | hop
    · exact literal_backend h
    · obtain ⟨i, hi, rfl⟩ := List.mem_mapIdx.1 hop
      exact literal_backend h

/-- What deletes it is, too. -/
theorem legible_teardown {service : String} (h : Verbatim service) (e : Existing) :
    ∀ op ∈ (Listener.upstream service).teardown e, op.Legible := by
  intro op hop
  rcases List.mem_append.1 hop with hop | hop
  · split at hop
    · rw [List.mem_singleton.1 hop]
      exact stretch_frontend h
    · exact absurd hop List.not_mem_nil
  · split at hop
    · rw [List.mem_singleton.1 hop]
      exact stretch_backend h
    · exact absurd hop List.not_mem_nil

/-! ## Objects -/

/-- The objects of an upstream, each under its key. -/
def Upstream.entries (u : Upstream) (options : Options) (files : Certificates.Paths) :
    List (ObjectKey × Json) :=
  let front := ObjectKey.frontend ("front_upstream_" ++ u.service)
  let back := ObjectKey.backend ("back_upstream_" ++ u.service)
  [(front, Frontend.json ⟨front.name, some back.name, some timeout, some .http, true⟩),
    (⟨"binds", some front.owner, front.name ++ "_bind"⟩, (Upstream.bind u).json),
    (⟨"log_targets", some front.owner, "0"⟩, (logTarget options).json),
    (back, Backend.json ⟨back.name, some .http, some timeout, some timeout, some ⟨"roundrobin"⟩⟩),
    (⟨"log_targets", some back.owner, "0"⟩, (logTarget options).json)] ++
  u.endpoints.mapIdx fun i e =>
    (⟨"servers", some back.owner, s!"{u.service}_{i}"⟩, (Upstream.server u files e i).json)

/-- What builds an upstream creates its objects. -/
theorem changes_build (u : Upstream) (options : Options) :
    (operations paths (Upstream.build u options)).map (·.change) =
      (Upstream.entries u options (paths u.tls)).map fun x => .create x.1 x.2 := by
  rw [operations_upstream, Upstream.entries, List.map_append, Upstream.servers,
    List.mapIdx_eq_zipIdx_map, List.mapIdx_eq_zipIdx_map, List.map_map]
  have hzero : Decimal.text (logTarget options).id.toNat = "0" := by
    show String.ofList (Decimal.digits 0) = "0"
    rw [Decimal.digits]
    rfl
  show _ :: _ :: Change.create ⟨_, _, Decimal.text (logTarget options).id.toNat⟩ _ :: _ ::
    Change.create ⟨_, _, Decimal.text (logTarget options).id.toNat⟩ _ ::
      (u.endpoints.zipIdx.map _).map _ = _
  rw [List.map_map, hzero]
  rfl

/-- Deleting a listener of which both objects are there deletes what it owns,
    and nothing else. -/
theorem exists_teardown (hfront : ∃ v, objects.get? l.front = some v)
    (hback : ∃ v, objects.get? l.back = some v) :
    ∃ o, objects.applyAll (teardownChanges l .both) = .ok o ∧
      (∀ k, l.Owns k → o.get? k = none) ∧ ∀ k, ¬ l.Owns k → o.get? k = objects.get? k := by
  have hne : l.back ≠ l.front := fun heq =>
    absurd (congrArg ObjectKey.kind heq) (by decide : ¬ (("backends" : String) = "frontends"))
  -- the backend does not go with the frontend
  have hkept : (objects.drop l.front).get? l.back = objects.get? l.back := by
    rw [Objects.get?_drop, if_neg]
    rintro (heq | hparent)
    · exact hne heq
    · exact nomatch hparent
  have happly : objects.applyAll (teardownChanges l .both) =
      .ok ((objects.drop l.front).drop l.back) :=
    Objects.applyAll_cons_iff.2 ⟨_, Objects.apply_delete_iff.2 ⟨hfront, rfl⟩,
      Objects.applyAll_cons_iff.2 ⟨_, Objects.apply_delete_iff.2 ⟨by rwa [hkept], rfl⟩, rfl⟩⟩
  refine ⟨_, happly, fun k hk => ?_, fun k hk => Objects.applyAll_frame
    (within_teardown l .both) happly hk⟩
  rw [Objects.get?_drop, Objects.get?_drop]
  by_cases hlast : k = l.back ∨ k.parent = some l.back.owner
  · rw [if_pos hlast]
  · obtain ⟨hne, hparent⟩ := not_or.1 hlast
    rw [if_neg hlast, if_pos]
    rcases hk with hk | hk | hk | hk
    · exact .inl hk
    · exact absurd hk hne
    · exact .inr hk
    · exact absurd hk hparent

/-! ## What was committed was read of the requests

    For names that are misread the changes are not those that the operations
    mean, but they are still read of the requests of these operations. -/

section Reads

variable {Q : Change → Prop} {s s' : Store} {ticket : Ticket}

/-- Whether all changes of open transactions are of a kind. -/
def Pends (Q : Change → Prop) (s : Store) : Prop :=
  ∀ id t, s.transactions.get? id = some t → ∀ c ∈ t.changes, Q c

/-- Whether a request commits nothing and stages only changes of a kind. -/
def Stages (Q : Change → Prop) (r : Request) : Prop :=
  r.method ≠ .put ∧ ∀ id c, Command.ofRequest r = .ok (.stage id c) → Q c

/-- A store before and after requests that commit nothing and stage only changes
    of a kind. -/
structure Unmoved (Q : Change → Prop) (s s' : Store) : Prop where
  objects : s'.objects = s.objects
  pends : Pends Q s → Pends Q s'

theorem Unmoved.refl (s : Store) : Unmoved Q s s := ⟨rfl, id⟩

theorem Unmoved.trans {s'' : Store} (h : Unmoved Q s s') (h' : Unmoved Q s' s'') : Unmoved Q s s'' :=
  ⟨h'.objects.trans h.objects, fun hs => h'.pends (h.pends hs)⟩

/-- Opening a transaction or closing one adds no change. -/
theorem Pends.insert {id : String} {t : Transaction} {n : Nat} (h : Pends Q s)
    (ht : ∀ c ∈ t.changes, Q c) :
    Pends Q { s with transactions := s.transactions.insert id t, opened := n } := by
  intro id' t' hget
  by_cases hid : id' = id
  · subst hid
    rw [SortedMap.get?_insert_self] at hget
    rwa [← Option.some.inj hget]
  · rw [SortedMap.get?_insert_of_ne _ hid] at hget
    exact h id' t' hget

theorem Pends.without {id : String} (h : Pends Q s) : Pends Q (s.without id) := by
  intro id' t hget
  by_cases hid : id' = id
  · subst hid
    rw [Store.without, SortedMap.get?_erase_self] at hget
    exact nomatch hget
  · rw [Store.without, SortedMap.get?_erase_of_ne _ hid] at hget
    exact h id' t hget

theorem unmoved_handle {r : Request} (h : Stages Q r) : Unmoved Q s (s.handle r).1 := by
  rcases handle_cases s r with ⟨refusal, hrefused⟩ | ⟨c, hc, hdoes⟩
  · rw [hrefused]
    exact .refl s
  have hcommit : ∀ id, c ≠ .commit id := by
    rintro id rfl
    exact h.1 (Command.put_of_commit hc)
  refine ⟨(hdoes.keeps (.inl hcommit)).2, fun hs => ?_⟩
  generalize (s.handle r).1 = s' at hdoes
  generalize (s.handle r).2 = answer at hdoes
  cases hdoes with
  | opened => exact hs.insert fun c hc => absurd hc List.not_mem_nil
  | committed there current applies => exact absurd rfl (hcommit _)
  | aborted there => exact hs.without
  | staged there =>
      refine hs.insert fun d hd => ?_
      rcases List.mem_append.1 hd with hd | hd
      · exact hs _ _ there d hd
      · rw [List.mem_singleton.1 hd]
        exact h.2 _ _ hc
  | specified => exact hs
  | informed => exact hs
  | listed => exact hs
  | dropped there => exact absurd rfl (hcommit _)
  | refused => exact hs

/-- Asking for something that commits nothing. -/
theorem unmoved_ask {α : Type} {r : Request} {read : Json → Except Error α}
    {res : Except Error α} (h : Stages Q r)
    (hrun : (Client.ask r read).run (calm paths) s = (s', res)) : Unmoved Q s s' := by
  rw [run_ask] at hrun
  obtain ⟨hstore, -⟩ := Prod.mk.inj hrun
  rw [← hstore, answer_store]
  exact unmoved_handle h

theorem unmoved_stageOps {ops : List Operation} {res : Except PassError Unit}
    (hops : ∀ op ∈ ops, Stages Q (op.request ticket.id))
    (h : (Reconciler.stageOps ticket ops).run (calm paths) s = (s', res)) : Unmoved Q s s' := by
  induction ops generalizing s with
  | nil =>
      obtain ⟨rfl, -⟩ := Prod.mk.inj h
      exact .refl s
  | cons op ops ih =>
      rw [Reconciler.stageOps, Dialogue.run_bind] at h
      cases hstage : (Client.stage ticket op).run (calm paths) s with
      | mk s₁ answer =>
          have hfirst : Unmoved Q s s₁ := unmoved_ask (hops op List.mem_cons_self) hstage
          rw [hstage] at h
          cases answer with
          | error e =>
              obtain ⟨rfl, -⟩ := Prod.mk.inj h
              exact hfirst
          | ok done => exact hfirst.trans (ih (fun o ho => hops o (List.mem_cons_of_mem _ ho)) h)

theorem unmoved_stageParts {parts : List Part} {res : Except PassError Unit}
    (hops : ∀ op ∈ operations paths parts, Stages Q (op.request ticket.id))
    (h : (Reconciler.stageParts ticket parts).run (calm paths) s = (s', res)) :
    Unmoved Q s s' := by
  induction parts generalizing s with
  | nil =>
      obtain ⟨rfl, -⟩ := Prod.mk.inj h
      exact .refl s
  | cons part parts ih =>
      have hrun : ((Reconciler.stageOps ticket (part.operations paths)).andThen
          fun _ => Reconciler.stageParts ticket parts).run (calm paths) s = (s', res) := by
        cases part with
        | plain op => exact h
        | sealed material ops => exact h
      rw [Dialogue.andThen, Dialogue.run_bind] at hrun
      cases hstage : (Reconciler.stageOps ticket (part.operations paths)).run (calm paths) s with
      | mk s₁ answer =>
          have hfirst : Unmoved Q s s₁ :=
            unmoved_stageOps (fun op hop => hops op (List.mem_append_left _ hop)) hstage
          rw [hstage] at hrun
          cases answer with
          | error e =>
              obtain ⟨rfl, -⟩ := Prod.mk.inj hrun
              exact hfirst
          | ok done =>
              exact hfirst.trans (ih (fun op hop => hops op (List.mem_append_right _ hop)) hrun)

/-- A commit that succeeds makes the changes of an open transaction. -/
theorem read_of_commit {v n : UInt64} (hid : Url.PlainSegment ticket.id.toList)
    (h : (Client.commit v ticket).run (calm paths) s = (s', .ok n)) :
    ∃ t, s.transactions.get? ticket.id = some t ∧ s.objects.applyAll t.changes = .ok s'.objects := by
  rw [Client.commit] at h
  split at h
  · cases (Prod.mk.inj h).2
  rw [run_ask] at h
  obtain ⟨hstore, hanswer⟩ := Prod.mk.inj h
  have hhandle : s.handle ⟨.put, Client.transactionPath ticket.id, none⟩ =
      s.perform (.commit ticket.id) := by
    rw [Store.handle, ofRequest_commit hid]
  have hdoes := does_perform s (.commit ticket.id)
  rcases answer_cases s ⟨.put, Client.transactionPath ticket.id, none⟩ with
    ⟨s₁, j, hs, ha⟩ | ⟨s₁, refusal, -, ha⟩
  · rw [ha] at hstore
    rw [hhandle] at hs
    rw [hs] at hdoes
    rw [← hstore]
    cases hdoes with
    | committed there current applies => exact ⟨_, there, applies⟩
  · rw [ha] at hanswer
    cases hanswer

/-- Whether a change may be read of a request for one of some operations. -/
def Reads (ops : List Operation) (c : Change) : Prop :=
  ∃ op ∈ ops, ∃ id id', Url.PlainSegment id.toList ∧
    Command.ofRequest (op.request id) = .ok (.stage id' c)

/-- **A transaction that is committed makes changes that were read of its
    requests.** -/
theorem read_of_transact {v : UInt64} {parts : List Part} {versions : UInt64 × UInt64}
    (hput : ∀ op ∈ operations paths parts, ∀ id, (op.request id).method ≠ .put)
    (hs : Pends (Reads (operations paths parts)) s)
    (h : (Reconciler.transact v parts).run (calm paths) s = (s', .ok versions)) :
    ∃ cs, (∀ c ∈ cs, Reads (operations paths parts) c) ∧
      s.objects.applyAll cs = .ok s'.objects := by
  have hv : v = s.version := by
    by_contra hne
    obtain ⟨e, he⟩ := Reconciler.run_transact_stale paths hne parts
    rw [h] at he
    exact nomatch (Prod.mk.inj he).2
  -- a commit that succeeded was for the version of the store
  subst hv
  obtain ⟨s₁, ticket, hbegin, -, -, -, hholds⟩ := run_begin paths (s := s)
  have hopened : Unmoved (Reads (operations paths parts)) s s₁ := by
    refine unmoved_ask ⟨Method.noConfusion, fun id c hread => ?_⟩ hbegin
    rw [ofRequest_begin] at hread
    cases hread
  rw [Reconciler.transact, Dialogue.run_bind, hbegin] at h
  dsimp only at h
  rw [Dialogue.run_bind] at h
  cases hparts : (Reconciler.stageParts ticket parts).run (calm paths) s₁ with
  | mk s₂ res =>
      have hstages : ∀ op ∈ operations paths parts,
          Stages (Reads (operations paths parts)) (op.request ticket.id) := fun op hop =>
        ⟨hput op hop ticket.id, fun id c hc => ⟨op, hop, ticket.id, id, hholds.plain, hc⟩⟩
      -- staging adds changes to the transaction, and leaves the objects alone
      have hstaged := hopened.trans (unmoved_stageParts hstages hparts)
      rw [hparts] at h
      cases res with
      | error e =>
          dsimp only at h
          rw [Dialogue.run_bind] at h
          cases (Prod.mk.inj h).2
      | ok done =>
          dsimp only at h
          rw [Dialogue.run_bind] at h
          cases hcommit : (Client.commit s.version ticket).run (calm paths) s₂ with
          | mk s₃ answer =>
              rw [hcommit] at h
              cases answer with
              | error e => cases (Prod.mk.inj h).2
              | ok n =>
                  obtain ⟨rfl, -⟩ := Prod.mk.inj h
                  obtain ⟨t, hopen, happlies⟩ := read_of_commit hholds.plain hcommit
                  rw [hstaged.objects] at happlies
                  exact ⟨t.changes, hstaged.pends hs _ t hopen, happlies⟩

end Reads

/-! ## There and back -/

/-- Whether an upstream can be built in a store and deleted again: both
    transactions are committed, after the first one the store holds the objects
    of the upstream beside what it held before, and a later one that deletes the
    listener leaves just what was there before the first. -/
def Undoable (u : Upstream) (options : Options) (paths : TlsMaterial → Certificates.Paths)
    (s : Store) : Prop :=
  ∃ s₁, (Reconciler.transact s.version (Upstream.build u options)).run (calm paths) s =
      (s₁, .ok (s.version, s.version + 1)) ∧
    (∀ k v, s₁.objects.get? k = some v ↔
      (k, v) ∈ Upstream.entries u options (paths u.tls) ∨ s.objects.get? k = some v) ∧
    ∀ s', s'.objects = s₁.objects →
      ∃ s₂, (Reconciler.transact s'.version
          (((Listener.upstream u.service).teardown .both).map .plain)).run (calm paths) s' =
            (s₂, .ok (s'.version, s'.version + 1)) ∧ s₂.objects = s.objects

/-- For a name that is read as it is written it can, in every store that holds
    nothing of the upstream. -/
theorem undoable_of_verbatim (h : Verbatim u.service) {s : Store}
    (hnone : ∀ k, (Listener.upstream u.service).Owns k → s.objects.get? k = none)
    (options : Options) (paths : TlsMaterial → Certificates.Paths) :
    Undoable u options paths s := by
  have hcreates : Creates (.upstream u.service) (operations paths (Upstream.build u options)) :=
    creates_upstream u options
  obtain ⟨o₁, ho₁⟩ := hcreates.exists_applyAll hnone
  obtain ⟨s₁, hbuild⟩ := Reconciler.run_transact (legible_build h) ho₁
  obtain ⟨-, hmade, -, -⟩ := of_run_transact (legible_build h) hbuild
  have hentries : ∀ k v, s₁.objects.get? k = some v ↔
      (k, v) ∈ Upstream.entries u options (paths u.tls) ∨ s.objects.get? k = some v := by
    intro k v
    rw [get?_applyAll_creates hcreates.creates_changes hmade, changes_build]
    refine or_congr_left ⟨fun hmem => ?_, fun hmem => List.mem_map.2 ⟨_, hmem, rfl⟩⟩
    obtain ⟨x, hx, hchange⟩ := List.mem_map.1 hmem
    obtain ⟨rfl, rfl⟩ := Change.create.inj hchange
    exact hx
  -- the teardown finds the frontend and the backend that were created, and takes all of theirs
  -- away
  refine ⟨s₁, hbuild, hentries, fun s' hs' => ?_⟩
  have hfront := present_of_applyAll_creates hcreates.creates_changes hmade (.inr hcreates.mem_front)
  have hback := present_of_applyAll_creates hcreates.creates_changes hmade (.inr hcreates.mem_back)
  obtain ⟨o₂, ho₂, hgone, hkept⟩ := exists_teardown hfront hback
  have hlegible : ∀ op ∈ operations paths (((Listener.upstream u.service).teardown .both).map .plain),
      op.Legible := by
    rw [operations_plain]
    exact legible_teardown h .both
  have hchanges : s'.objects.applyAll ((operations paths
      (((Listener.upstream u.service).teardown .both).map .plain)).map (·.change)) = .ok o₂ := by
    rw [operations_plain, map_teardown, hs', ho₂]
  obtain ⟨s₂, hdelete⟩ := Reconciler.run_transact hlegible hchanges
  obtain ⟨-, hunmade, -, -⟩ := of_run_transact hlegible hdelete
  refine ⟨s₂, hdelete, SortedMap.ext_get? fun k => ?_⟩
  rw [hchanges] at hunmade
  rw [← Except.ok.inj hunmade]
  -- what the upstream owns was not there before; what it does not own was never touched
  by_cases hk : (Listener.upstream u.service).Owns k
  · rw [hgone k hk, hnone k hk]
  · rw [hkept k hk]
    exact Objects.applyAll_frame hcreates.within hmade hk

/-- An object without an owner that was there and is gone was deleted. -/
theorem deleted_of_applyAll {cs : List Change} {k : ObjectKey} (hk : k.parent = none)
    (hthere : ∃ v, objects.get? k = some v) (h : objects.applyAll cs = .ok objects')
    (hgone : objects'.get? k = none) : Change.delete k ∈ cs := by
  induction cs generalizing objects with
  | nil =>
      cases h
      obtain ⟨v, hv⟩ := hthere
      rw [hv] at hgone
      exact nomatch hgone
  | cons c cs ih =>
      obtain ⟨o, hc, hrest⟩ := Objects.applyAll_cons_iff.1 h
      by_cases hdelete : c = .delete k
      · exact List.mem_cons.2 (.inl hdelete.symm)
      refine List.mem_cons_of_mem _ (ih ?_ hrest)
      -- what is there stays there under a change that does not delete it
      have inserted : ∀ j w, ∃ v, (objects.insert j w).get? k = some v := by
        intro j w
        by_cases hkj : k = j
        · exact ⟨w, by rw [hkj, SortedMap.get?_insert_self]⟩
        · rwa [SortedMap.get?_insert_of_ne _ hkj]
      cases c with
      | create j w =>
          obtain ⟨-, rfl⟩ := Objects.apply_create_iff.1 hc
          exact inserted j w
      | replace j w =>
          obtain ⟨-, rfl⟩ := Objects.apply_replace_iff.1 hc
          exact inserted j w
      | delete j =>
          obtain ⟨-, rfl⟩ := Objects.apply_delete_iff.1 hc
          rw [Objects.get?_drop, if_neg]
          · exact hthere
          · rintro (rfl | hparent)
            · exact hdelete rfl
            · rw [hk] at hparent
              exact nomatch hparent

/-- An object that was not there and is there was created. -/
theorem created_of_applyAll {cs : List Change} {k : ObjectKey} (hnone : objects.get? k = none)
    (h : objects.applyAll cs = .ok objects') (hthere : ∃ v, objects'.get? k = some v) :
    ∃ w, Change.create k w ∈ cs := by
  induction cs generalizing objects with
  | nil =>
      cases h
      obtain ⟨v, hv⟩ := hthere
      rw [hnone] at hv
      exact nomatch hv
  | cons c cs ih =>
      obtain ⟨o, hc, hrest⟩ := Objects.applyAll_cons_iff.1 h
      by_cases hcreate : ∃ w, c = .create k w
      · obtain ⟨w, rfl⟩ := hcreate
        exact ⟨w, List.mem_cons_self⟩
      have hstill : o.get? k = none := by
        cases c with
        | create j w =>
            obtain ⟨-, rfl⟩ := Objects.apply_create_iff.1 hc
            rw [SortedMap.get?_insert_of_ne _ (by rintro rfl; exact hcreate ⟨w, rfl⟩), hnone]
        | replace j w =>
            obtain ⟨⟨v, hv⟩, rfl⟩ := Objects.apply_replace_iff.1 hc
            rw [SortedMap.get?_insert_of_ne _ (by rintro rfl; rw [hnone] at hv; exact nomatch hv),
              hnone]
        | delete j =>
            obtain ⟨-, rfl⟩ := Objects.apply_delete_iff.1 hc
            rw [Objects.get?_drop, hnone, ite_self]
      obtain ⟨w, hw⟩ := ih hstill hrest
      exact ⟨w, List.mem_cons_of_mem _ hw⟩

/-- If the requests that delete an upstream are read to delete its frontend, the
    name of the frontend stands in a path as it is. -/
theorem stretch_of_reads {service : String}
    (h : Reads ((Listener.upstream service).teardown .both) (.delete (Listener.upstream service).front)) :
    Stretch (Listener.upstream service).frontend.toList := by
  obtain ⟨op, hop, id, id', hid, hread⟩ := h
  have hfront : (Listener.upstream service).front =
      ⟨"frontends", none, (Listener.upstream service).frontend⟩ := rfl
  have hsame (kept : ∀ c ∈ (Listener.upstream service).front.name.toList, Url.isPathChar c = true) :
      (∀ c ∈ (Listener.upstream service).frontend.toList, Url.isPathChar c = true) ∧
        ∀ c ∈ (Listener.upstream service).backend.toList, Url.isPathChar c = true := by
    refine ⟨kept, fun c hc => ?_⟩
    rw [Listener.toList_upstream_backend] at hc
    rcases List.mem_append.1 hc with hc | hc
    · have hlead : ∀ c ∈ "back_upstream_".toList, Url.isPathChar c = true :=
        List.all_eq_true.1 (by decide)
      exact hlead c hc
    · refine kept c ?_
      show c ∈ (Listener.upstream service).frontend.toList
      rw [Listener.toList_upstream_frontend]
      exact List.mem_append_right _ hc
  rcases List.mem_cons.1 hop with rfl | hop
  · obtain ⟨hkept, -⟩ := hsame (kept_of_deleted hid hread)
    exact (stretch_of_deleted hid (by decide) hkept hread).2 (Nat.le_refl _)
  · -- the path that deletes the backend is too short to end in the frontend
    obtain rfl := List.mem_singleton.1 hop
    obtain ⟨-, hkept⟩ := hsame (kept_of_deleted hid hread)
    have hle := (stretch_of_deleted hid (by decide) hkept hread).1
    rw [hfront, removal, removal, Listener.toList_upstream_frontend,
      Listener.toList_upstream_backend] at hle
    simp only [List.length_append, List.length_cons] at hle
    have hfronts : "frontends".toList.length = 9 := rfl
    have hbacks : "backends".toList.length = 8 := rfl
    have hfront : "front_upstream_".toList.length = 15 := rfl
    have hback : "back_upstream_".toList.length = 14 := rfl
    omega

/-- If the requests that build an upstream are read to give its bind to the
    frontend, the name of the frontend comes out of a query as it is. -/
theorem whole_of_reads {name : String} {w : Json}
    (hkept : ∀ c ∈ (Listener.upstream u.service).frontend.toList, Url.isPathChar c = true)
    (h : Reads (operations paths (Upstream.build u options))
      (.create ((Owner.frontend (Listener.upstream u.service).frontend).child "binds" name) w)) :
    (∀ c ∈ (Listener.upstream u.service).frontend.toList, c ≠ '&') ∧
      Url.Form.decode (Listener.upstream u.service).frontend.toList =
        (Listener.upstream u.service).frontend := by
  obtain ⟨op, hop, id, id', hid, hread⟩ := h
  rw [operations_upstream] at hop
  rcases cases_of_mem hop with rfl | hop | rfl | hop
  · exact absurd (posted_cases hid (by decide) hread).1 (by decide : ¬ "binds" = "frontends")
  · rcases List.mem_cons.1 hop with rfl | hop
    · exact whole_of_owned hkept hid (by decide) hread rfl
    · rw [List.mem_singleton.1 hop] at hread
      exact absurd (posted_cases hid (by decide) hread).1 (by decide : ¬ "binds" = "log_targets")
  · exact absurd (posted_cases hid (by decide) hread).1 (by decide : ¬ "binds" = "backends")
  · rcases List.mem_cons.1 hop with rfl | hop
    · exact absurd (posted_cases hid (by decide) hread).1 (by decide : ¬ "binds" = "log_targets")
    · obtain ⟨i, hi, rfl⟩ := List.mem_mapIdx.1 hop
      exact absurd (posted_cases hid (by decide) hread).1 (by decide : ¬ "binds" = "servers")

/-- **No other name can**, not even in a store that holds nothing at all. -/
theorem verbatim_of_undoable {v : UInt64} (h : Undoable u options paths (.new v)) :
    Verbatim u.service := by
  obtain ⟨s₁, hbuild, hentries, hteardown⟩ := h
  obtain ⟨s₂, hdelete, hback⟩ := hteardown { Store.new v with objects := s₁.objects } rfl
  have hpends : ∀ {Q : Change → Prop} {objects : Objects},
      Pends Q { Store.new v with objects := objects } := fun _ _ hget => nomatch hget
  have hfront : ∃ w, s₁.objects.get? (Listener.upstream u.service).front = some w :=
    ⟨_, (hentries _ _).2 (.inl List.mem_cons_self)⟩
  have hbind : ∃ w, s₁.objects.get? ((Owner.frontend (Listener.upstream u.service).frontend).child
      "binds" ((Listener.upstream u.service).frontend ++ "_bind")) = some w :=
    ⟨_, (hentries _ _).2 (.inl (List.mem_cons_of_mem _ List.mem_cons_self))⟩
  have hdeletes : ∀ op ∈ operations paths
      (((Listener.upstream u.service).teardown .both).map .plain), ∀ id,
      (op.request id).method ≠ .put := by
    rw [operations_plain]
    intro op hop id
    rcases List.mem_cons.1 hop with rfl | hop
    · exact Method.noConfusion
    · rw [List.mem_singleton.1 hop]
      exact Method.noConfusion
  -- some request of the teardown was read as the deletion of the frontend
  obtain ⟨ds, hds, hundone⟩ := read_of_transact hdeletes hpends hdelete
  rw [operations_plain] at hds
  have hgone : s₂.objects.get? (Listener.upstream u.service).front = none := by
    rw [hback]
    rfl
  have hstretch := stretch_of_reads (hds _ (deleted_of_applyAll rfl hfront hundone hgone))
  obtain ⟨cs, hcs, hdone⟩ := read_of_transact (fun op hop id => by
    obtain ⟨k, w, hchange, -⟩ := (creates_upstream u options).creates op hop
    exact not_put_of_create hchange id) hpends hbuild
  -- some request was read as the creation of the bind, so that the name was read whole
  obtain ⟨w, hw⟩ := created_of_applyAll rfl hdone hbind
  obtain ⟨hwhole, hdecode⟩ := whole_of_reads hstretch.kept (hcs _ hw)
  refine Verbatim.of_read (by decide : Unreserved "front_upstream_") hstretch (fun c hc => ?_) hdecode
  refine hwhole c ?_
  rw [Listener.toList_upstream_frontend]
  exact List.mem_append_right _ hc

/-- **Deleting an upstream undoes building it just for the names that are read as
    they are written**: for each of them in every store that holds nothing of
    the upstream, whatever its endpoints, addresses and files are, and for no
    other name. -/
theorem undoable_iff_verbatim (service : String) :
    (∀ u : Upstream, u.service = service → ∀ options paths (s : Store),
      (∀ k, (Listener.upstream service).Owns k → s.objects.get? k = none) →
        Undoable u options paths s) ↔ Verbatim service := by
  constructor
  · intro h
    let u : Upstream := { (default : Upstream) with service }
    exact verbatim_of_undoable (h u rfl .standard (fun _ => default) (.new 1) fun _ _ => rfl)
  · rintro hverbatim u rfl options paths s hnone
    exact undoable_of_verbatim hverbatim hnone options paths

/-- Names that a URL keeps as they are can be undone. -/
theorem undoable_of_unreserved (h : Url.Unreserved u.service) {s : Store}
    (hnone : ∀ k, (Listener.upstream u.service).Owns k → s.objects.get? k = none)
    (options : Options) (paths : TlsMaterial → Certificates.Paths) :
    Undoable u options paths s :=
  undoable_of_verbatim h.verbatim hnone options paths

/-- Slashes and lone percent signs are no trouble, dot segments are. -/
example : Verbatim "shop/v1@100%" ∧ ¬ Verbatim "shop/../web" := by decide

/-- An upstream without endpoints whose name has a blank in it. -/
def spaced : Upstream := { (default : Upstream) with service := "a b" }

/-- **A blank is misread**: in a path it is encoded and not decoded again, so the
    listener that was built cannot be deleted, though the store was empty. -/
theorem blank_is_not_undone :
    (∀ k, (Listener.upstream spaced.service).Owns k → (Store.new 1).objects.get? k = none) ∧
      ¬ Undoable spaced .standard (fun _ => default) (.new 1) := by
  refine ⟨fun _ _ => rfl, fun h => ?_⟩
  have hverbatim : Verbatim "a b" := verbatim_of_undoable h
  exact absurd hverbatim (by decide)

end MeshSync.Reconcile
