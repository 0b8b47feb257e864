import MeshSync.Proofs.Dataplane.Numbering
import MeshSync.Proofs.Reconcile.Course
import MeshSync.Proofs.Reconcile.Building

/-! # Where a reconciler works

    A site is a store with the certificate files, together with a record of the
    requests of the reconciler that the store has carried out.  Requests and
    answers get lost; others use the store (`shared`) or nobody does (`alone`);
    and where nothing is lost either, there is only one way things can go
    (`quiet`).

    A pass sends one request that can change objects, the commit.  All else it
    sends lies in the footprint `staging`, so before and after the commit a pass
    on its own keeps objects and version (`keeps_kept`), and whoever else is
    there, the only transactions that it commits are those it opens
    (`keeps_advances`, `transact_advances`). -/

namespace MeshSync

/-- Those who answer for certificate files: what they do to their own state, and
    the files of a material. -/
structure Certificates.Provider (κ : Type) where
  certs : κ → TlsMaterial → κ × Except Certificates.Error Certificates.Paths
  retain : κ → List TlsMaterial → κ

namespace Reconcile

open Certificates (Provider)
open Dataplane
open Dialogue (Runs Honest)

variable {κ : Type}

/-- What a reconciler works on. -/
structure Site (κ : Type) where
  store : Store
  files : κ
  /-- The requests of the reconciler that the store has carried out, in order. -/
  carried : List Request

/-- The site after the store has carried out a request. -/
def Site.carry (s : Site κ) (r : Request) : Site κ :=
  ⟨(s.store.handle r).1, s.files, s.carried ++ [r]⟩

/-- The store handles a request that is carried to it. -/
@[simp] theorem Site.carry_store (s : Site κ) (r : Request) :
    (s.carry r).store = (s.store.handle r).1 := by
  rw [Site.carry]

/-- Requests do not touch the files. -/
@[simp] theorem Site.carry_files (s : Site κ) (r : Request) : (s.carry r).files = s.files := by
  rw [Site.carry]

/-- What the store answers to a request. -/
def Site.reply (s : Site κ) (r : Request) : Except Error Json := (s.store.answer r).2

/-- The requests of the reconciler that were carried out since. -/
def Site.since (s' s : Site κ) : List Request := s'.carried.drop s.carried.length

/-- What was carried over some time was carried over its parts. -/
theorem Site.since_append {s s' s'' : Site κ} (h : s.carried <+: s'.carried)
    (h' : s'.carried <+: s''.carried) : s''.since s = s'.since s ++ s''.since s' := by
  obtain ⟨later, hlater⟩ := h
  obtain ⟨later', hlater'⟩ := h'
  rw [since, since, since, ← hlater', List.drop_left, ← hlater, List.drop_left, List.append_assoc,
    List.drop_left]

/-- A request that is carried is all that was carried meanwhile. -/
theorem Site.since_carry (s : Site κ) (r : Request) : (s.carry r).since s = [r] :=
  List.drop_left

/-- What may become of a request that is sent to a site. -/
inductive Delivered (s : Site κ) (r : Request) : Site κ → Except Error Json → Prop
  /-- It is answered. -/
  | served : Delivered s r (s.carry r) (s.reply r)
  /-- It does not reach the store. -/
  | lost (e : Error) : Delivered s r s (.error e)
  /-- It is carried out, but its answer does not reach the client. -/
  | muted (e : Error) : Delivered s r (s.carry r) (.error e)

/-- A site whose store others may use before each request. -/
def around (others : Store → Store → Prop) (provider : Provider κ) : Environment (Site κ) where
  send s r s' a := ∃ st, others s.store st ∧ Delivered { s with store := st } r s' a
  certs s m s' a :=
    s' = { s with files := (provider.certs s.files m).1 } ∧ a = (provider.certs s.files m).2
  retain s ms s' := s' = { s with files := provider.retain s.files ms }

/-- A site that nobody else uses. -/
abbrev alone (provider : Provider κ) : Environment (Site κ) := around (· = ·) provider

/-- A site that others use in whatever way. -/
abbrev shared (provider : Provider κ) : Environment (Site κ) := around Used provider

/-- A site that nobody else uses and where no request and no answer gets lost. -/
def quiet (provider : Provider κ) : Surroundings (Site κ) where
  send s r := (s.carry r, s.reply r)
  certs s m := ({ s with files := (provider.certs s.files m).1 }, (provider.certs s.files m).2)
  retain s ms := { s with files := provider.retain s.files ms }

variable {provider : Provider κ} {s s' s'' : Site κ}

/-- Where nobody else commits, all that can come of a request is how it is
    delivered. -/
theorem alone_send_iff {r : Request} {a : Except Error Json} :
    (alone provider).send s r s' a ↔ Delivered s r s' a := by
  constructor
  · rintro ⟨st, rfl, h⟩
    exact h
  · exact fun h => ⟨s.store, rfl, h⟩

/-- Telling of materials is for the certificate files alone. -/
theorem told_of_retain {ms : List TlsMaterial} (h : (alone provider).retain s ms s') :
    s'.store = s.store ∧ s'.files = provider.retain s.files ms := by
  obtain rfl := h
  exact ⟨rfl, rfl⟩

/-- Without trouble every request arrives and is answered. -/
theorem quiet_send (s : Site κ) (r : Request) :
    (quiet provider).send s r = (s.carry r, s.reply r) := rfl

/-- No trouble is one of the ways in which things can go. -/
theorem alone_allows_quiet : (alone provider).Allows (quiet provider) where
  send s r := by
    rw [quiet_send, alone_send_iff]
    dsimp only
    exact .served
  certs _ _ := ⟨rfl, rfl⟩
  retain _ _ := rfl

/-- What a client is told to have been done was done. -/
theorem carry_of_ok {r : Request} {j : Json} (h : Delivered s r s' (.ok j)) :
    s' = s.carry r ∧ s.reply r = .ok j := by
  generalize ha : (Except.ok j : Except Error Json) = a at h
  cases h with
  | served => exact ⟨rfl, rfl⟩
  | lost e => exact nomatch ha
  | muted e => exact nomatch ha

/-- A success is the one that there is without trouble. -/
theorem alone_mirrors_quiet : (alone provider).Mirrors (quiet provider) id where
  send h := by
    obtain ⟨rfl, hreply⟩ := carry_of_ok (alone_send_iff.1 h)
    rw [id, id, quiet_send, hreply]
  certs h := by
    obtain ⟨rfl, hfiles⟩ := h
    exact Prod.ext rfl hfiles.symm
  retain h := by
    rw [h]
    rfl

/-- Whether every material has its fixed files, where they can be had. -/
def Fixed (provider : Provider κ) (paths : TlsMaterial → Certificates.Paths) : Prop :=
  ∀ files m p, (provider.certs files m).2 = .ok p → p = paths m

/-- The store of a site mirrors it, where materials have fixed files. -/
theorem alone_mirrors_calm {paths : TlsMaterial → Certificates.Paths}
    (hpaths : Fixed provider paths) : (alone provider).Mirrors (calm paths) Site.store where
  send {s r s' j} h := by
    obtain ⟨rfl, hreply⟩ := carry_of_ok (alone_send_iff.1 h)
    rw [Site.carry_store, ← answer_store, ← hreply, Site.reply, calm]
  certs {s m s' p} h := by
    obtain ⟨rfl, hfiles⟩ := h
    rw [hpaths _ _ _ hfiles.symm, calm]
  retain h := by
    rw [h]
    rfl

/-- Where every material has its files, a quiet site is a calm store. -/
theorem run_quiet {α : Type} {paths : TlsMaterial → Certificates.Paths}
    (hpaths : ∀ files m, (provider.certs files m).2 = .ok (paths m)) (d : Dialogue α)
    (s : Site κ) : (d.run (quiet provider) s).1.store = (d.run (calm paths) s.store).1 ∧
      (d.run (quiet provider) s).2 = (d.run (calm paths) s.store).2 := by
  induction d generalizing s with
  | done a => exact ⟨rfl, rfl⟩
  | send r next ih =>
      have hcalm : (calm paths).send s.store r = ((s.carry r).store, s.reply r) := by
        rw [Site.carry_store, ← answer_store, Site.reply, calm]
      rw [Dialogue.run, Dialogue.run, quiet_send, hcalm]
      exact ih _ _
  | certs m next ih =>
      rw [Dialogue.run, Dialogue.run]
      dsimp only [quiet, calm]
      rw [hpaths]
      exact ih _ _
  | retain ms next ih => exact ih _

/-- Whatever may happen on a site of one's own may happen on one that is shared. -/
theorem shared_of_alone {α : Type} {d : Dialogue α} {a : α} (h : Runs (alone provider) d s s' a) :
    Runs (shared provider) d s s' a := by
  induction h with
  | done a s => exact .done a s
  | send asked rest ih =>
      obtain ⟨st, rfl, h⟩ := asked
      exact .send ⟨_, .refl, h⟩ ih
  | certs asked rest ih => exact .certs asked ih
  | retain told rest ih => exact .retain told ih

/-- Whatever a client is told, its request was carried out or did nothing. -/
theorem carry_or_same {r : Request} {a : Except Error Json} (h : Delivered s r s' a) :
    s' = s ∨ s' = s.carry r := by
  cases h with
  | served => exact .inr rfl
  | lost e => exact .inl rfl
  | muted e => exact .inr rfl

/-- Requests do not touch the certificate files. -/
theorem files_of_delivered {r : Request} {a : Except Error Json} (h : Delivered s r s' a) :
    s'.files = s.files := by
  rcases carry_or_same h with rfl | rfl
  · rfl
  · rw [Site.carry_files]

/-! ## What a pass asks for -/

/-- What a pass asks for where it only reads. -/
def reading : Footprint where
  sends r := r.method = .get
  asks _ := False
  tells _ := False

/-- What a pass asks for besides its commit: it reads, stages and aborts, and
    asks for the files of the materials of its snapshot. -/
def staging (next : Snapshot) : Footprint where
  sends r := r.method ≠ .put
  asks m := m ∈ next.tlsMaterials
  tells _ := False

/-- What a pass asks for until its commit was answered, or until it has failed. -/
def transacting (next : Snapshot) : Footprint where
  sends _ := True
  asks m := m ∈ next.tlsMaterials
  tells _ := False

/-- What a pass asks for. -/
def passing (next : Snapshot) : Footprint where
  sends _ := True
  asks m := m ∈ next.tlsMaterials
  tells ms := ms = next.tlsMaterials

/-- Whether a part asks for nothing outside a footprint. -/
def Part.Within (f : Footprint) : Part → Prop
  | plain op => ∀ id, f.sends (op.request id)
  | sealed m ops => f.asks m ∧ ∀ files, ∀ op ∈ ops files, ∀ id, f.sends (op.request id)

section Within

variable {next : Snapshot} {f : Footprint}

/-- A dialogue of one request stays within what allows that request. -/
theorem within_ask {α : Type} {r : Request} {read : Json → Except Error α} (h : f.sends r) :
    (Client.ask r read).Within f := ⟨h, fun _ => trivial⟩

/-- Whoever only stages does no more than whoever transacts. -/
theorem within_transacting {α : Type} {d : Dialogue α} (h : d.Within (staging next)) :
    d.Within (transacting next) := h.mono (fun _ _ => trivial) (fun _ => id) fun _ => id

/-- Whoever only transacts does no more than a pass. -/
theorem within_passing {α : Type} {d : Dialogue α} (h : d.Within (transacting next)) :
    d.Within (passing next) := h.mono (fun _ => id) (fun _ => id) fun _ => False.elim

/-- Reading is part of staging. -/
theorem within_staging {α : Type} {d : Dialogue α} (next : Snapshot) (h : d.Within reading) :
    d.Within (staging next) := by
  refine h.mono (fun r hr => ?_) (fun _ => False.elim) fun _ => id
  rw [reading] at hr
  dsimp only at hr
  show r.method ≠ .put
  rw [hr]
  exact Method.noConfusion

/-- Opening a transaction is no commit. -/
theorem within_begin (next : Snapshot) (v : UInt64) : (Client.begin v).Within (staging next) :=
  within_ask fun h => nomatch h

/-- Nor is aborting one. -/
theorem within_abort (next : Snapshot) (ticket : Ticket) :
    (Client.abort ticket).Within (staging next) := within_ask fun h => nomatch h

/-- A commit is part of a transaction. -/
theorem within_commit (next : Snapshot) (v : UInt64) (ticket : Ticket) :
    (Client.commit v ticket).Within (transacting next) := by
  rw [Client.commit]
  split
  · trivial
  · exact within_ask trivial

namespace Reconciler

/-- Staging operations sends nothing but their requests. -/
theorem within_stageOps {ticket : Ticket} {ops : List Operation}
    (h : ∀ op ∈ ops, ∀ id, f.sends (op.request id)) : (stageOps ticket ops).Within f := by
  induction ops with
  | nil => trivial
  | cons op ops ih =>
      refine Dialogue.Within.bind (within_ask (h op List.mem_cons_self ticket.id)) fun res => ?_
      cases res with
      | error e => trivial
      | ok done => exact ih fun o ho => h o (List.mem_cons_of_mem _ ho)

/-- Staging parts asks for nothing but what they ask for. -/
theorem within_stageParts {ticket : Ticket} {parts : List Part} (h : ∀ p ∈ parts, p.Within f) :
    (stageParts ticket parts).Within f := by
  induction parts with
  | nil => trivial
  | cons part parts ih =>
      have hrest := ih fun p hp => h p (List.mem_cons_of_mem _ hp)
      have hpart := h part List.mem_cons_self
      cases part with
      | plain op =>
          refine Dialogue.Within.andThen (within_stageOps fun o ho => ?_) fun _ => hrest
          rw [List.mem_singleton.1 ho]
          exact hpart
      | sealed material ops =>
          refine ⟨hpart.1, fun answer => ?_⟩
          cases answer with
          | error e => trivial
          | ok files =>
              exact Dialogue.Within.andThen (within_stageOps (hpart.2 files)) fun _ => hrest

/-- Taking stock reads and does nothing else. -/
theorem within_takeStock (tracked : UInt64) : (takeStock tracked).Within reading := by
  have list (kind : String) : (Client.listNames kind).Within reading := within_ask rfl
  refine Dialogue.Within.bind (within_ask rfl) fun version => ?_
  cases version with
  | error e => trivial
  | ok v =>
      refine Dialogue.Within.bind (list _) fun frontends => ?_
      cases frontends with
      | error e => trivial
      | ok names =>
          refine Dialogue.Within.bind (list _) fun backends => ?_
          cases backends with
          | error e => trivial
          | ok names => trivial

/-- So does the recovery from an error. -/
theorem within_recover (r : Reconciler) (e : PassError) : (r.recover e).Within reading := by
  rw [recover]
  split
  · refine Dialogue.Within.bind (within_ask rfl) fun version => ?_
    cases version with
    | ok v => trivial
    | error cause => trivial
  · trivial

end Reconciler

/-! ## What a plan stages -/

/-- An operation that creates an object is staged by no `PUT`. -/
theorem not_put_of_create {op : Operation} {k : ObjectKey} {v : Json}
    (h : op.change = .create k v) (id : String) : (op.request id).method ≠ .put := by
  cases op with
  | replaceServer backend s => exact nomatch h
  | deleteServer backend name => exact nomatch h
  | deleteFrontend name => exact nomatch h
  | deleteBackend name => exact nomatch h
  | _ => exact nofun

/-- Tearing a listener down stages requests and asks for no files. -/
theorem within_teardown_parts (l : Listener) (e : Existing) :
    ∀ p ∈ (l.teardown e).map Part.plain, p.Within (staging next) := by
  intro p hp
  obtain ⟨op, hop, rfl⟩ := List.mem_map.1 hp
  rcases List.mem_append.1 hop with hop | hop
  · split at hop
    · rw [List.mem_singleton.1 hop]
      exact fun _ => nofun
    · exact absurd hop List.not_mem_nil
  · split at hop
    · rw [List.mem_singleton.1 hop]
      exact fun _ => nofun
    · exact absurd hop List.not_mem_nil

/-- Building the downstream asks for the files of the snapshot's own
    material. -/
theorem within_downstream (options : Options) :
    ∀ p ∈ Downstream.build next.downstream options, p.Within (staging next) := by
  have creates : ∀ files, ∀ op ∈ Downstream.rest next.downstream options files, ∀ id,
      (op.request id).method ≠ .put := by
    intro files op hop
    have hbuilds : Builds .downstream
        (operations (fun _ => files) (Downstream.build next.downstream options)) :=
      builds_downstream next.downstream options
    obtain ⟨k, v, hchange, -⟩ := hbuilds.creates op
      (List.mem_flatMap.2 ⟨_, List.mem_cons_of_mem _ List.mem_cons_self, hop⟩)
    exact not_put_of_create hchange
  intro p hp
  rcases List.mem_cons.1 hp with rfl | hp
  · exact fun _ => nofun
  · rw [List.mem_singleton.1 hp]
    exact ⟨List.mem_cons_self, creates⟩

/-- Building an upstream asks for the files of that upstream's material. -/
theorem within_upstream {u : Upstream} (hu : u ∈ next.upstreams) (options : Options) :
    ∀ p ∈ Upstream.build u options, p.Within (staging next) := by
  have hpost : Method.post ≠ .put := Method.noConfusion
  intro p hp
  rcases List.mem_append.1 hp with hp | hp
  · obtain ⟨op, hop, rfl⟩ := List.mem_map.1 hp
    intro id
    simp only [Upstream.frame, List.mem_cons, List.not_mem_nil, or_false] at hop
    rcases hop with rfl | rfl | rfl | rfl | rfl <;> exact hpost
  · split at hp
    · exact absurd hp List.not_mem_nil
    · rw [List.mem_singleton.1 hp]
      refine ⟨List.mem_cons_of_mem _ (List.mem_map_of_mem hu), fun files op hop id => ?_⟩
      obtain ⟨i, hi, rfl⟩ := List.mem_mapIdx.1 hop
      exact hpost

/-- **What a plan stages lies in the footprint of staging**, whatever the plan. -/
theorem Plan.within_parts (plan : Plan) (options : Options) :
    ∀ p ∈ plan.parts next options, p.Within (staging next) := by
  have replaced : ∀ (l : Listener) (e : Existing) (build : List Part),
      (∀ p ∈ build, p.Within (staging next)) →
      ∀ p ∈ replaceParts l e build, p.Within (staging next) := by
    intro l e build hbuild p hp
    rcases List.mem_append.1 hp with hp | hp
    · exact within_teardown_parts l e p hp
    · exact hbuild p hp
  intro p hp
  rw [Plan.parts] at hp
  rcases List.mem_append.1 hp with hp | hp
  · rcases List.mem_append.1 hp with hp | hp
    · split at hp
      · exact absurd hp List.not_mem_nil
      · exact replaced _ _ _ (within_downstream options) p hp
    · obtain ⟨x, -, hp⟩ := List.mem_flatMap.1 hp
      exact replaced _ _ _ (fun q hq => absurd hq List.not_mem_nil) p hp
  · obtain ⟨x, -, hp⟩ := List.mem_flatMap.1 hp
    refine replaced _ _ _ (fun q hq => ?_) p hp
    split at hq
    · exact absurd hq List.not_mem_nil
    · rename_i u hu
      exact within_upstream (List.mem_of_find?_eq_some hu) options q hq

namespace Reconciler

/-- A transaction tells of no materials, and asks for those of its snapshot. -/
theorem within_transact (tracked : UInt64) (plan : Plan) (options : Options) :
    (transact tracked (plan.parts next options)).Within (transacting next) := by
  refine Dialogue.Within.bind (within_transacting (within_begin next tracked)) fun opened => ?_
  cases opened with
  | error e => trivial
  | ok ticket =>
      refine Dialogue.Within.bind
        (within_transacting (within_stageParts (plan.within_parts options))) fun staged => ?_
      cases staged with
      | error e =>
          exact Dialogue.Within.bind (within_transacting (within_abort next ticket))
            fun _ => trivial
      | ok done =>
          refine Dialogue.Within.bind (within_commit next tracked ticket) fun committed => ?_
          cases committed with
          | error e => trivial
          | ok version => trivial

/-- Carrying a plan out does no more than a pass may. -/
theorem within_carryOut (r : Reconciler) (plan : Plan) :
    (r.carryOut next plan).Within (passing next) := by
  rw [carryOut]
  split
  · trivial
  · refine Dialogue.Within.bind (within_passing (within_transact r.tracked plan r.options))
      fun res => ?_
    cases res with
    | error e =>
        exact within_passing (within_transacting (within_staging next (within_recover r e)))
    | ok versions => exact ⟨rfl, trivial⟩

/-- **What a pass asks for**: the files of the materials of its snapshot, and it
    tells of no others. -/
theorem within_apply (r : Reconciler) (next : Snapshot) : (r.apply next).Within (passing next) := by
  rw [apply]
  split
  · have hstock := within_passing (within_transacting
      (within_staging next (within_takeStock r.tracked)))
    refine Dialogue.Within.bind hstock fun stock => ?_
    obtain ⟨tracked, res⟩ := stock
    cases res with
    | error e => trivial
    | ok inventory => exact within_carryOut _ _
  · exact within_carryOut _ _

variable {σ : Type} {env : Environment σ} {R : σ → σ → Prop} {w w' : σ} {r r' : Reconciler}

/-- What transactions keep is kept by every pass that fails, for then no
    files are retained. -/
theorem keeps_of_carryOut_error (hR : env.Keeps (transacting next) R) {plan : Plan} {e : PassError}
    (h : Runs env (r.carryOut next plan) w w' (r', .error e)) : R w w' := by
  rw [carryOut] at h
  split at h
  · cases (Prod.mk.inj (Runs.done_iff.1 h).2).2
  · obtain ⟨w₁, res, htransact, hrest⟩ := Runs.bind_iff.1 h
    have h₁ := htransact.keeps hR (within_transact r.tracked plan r.options)
    cases res with
    | error cause =>
        exact hR.trans h₁ (hrest.keeps hR (within_transacting
          (within_staging next (within_recover r cause))))
    | ok versions =>
        obtain ⟨w₂, -, hdone⟩ := Runs.retain_iff.1 hrest
        cases (Prod.mk.inj (Runs.done_iff.1 hdone).2).2

/-- **A pass that fails tells of no materials.** -/
theorem keeps_of_error (hR : env.Keeps (transacting next) R) {e : PassError}
    (h : Runs env (r.apply next) w w' (r', .error e)) : R w w' := by
  rw [apply] at h
  split at h
  · obtain ⟨w₁, ⟨tracked, stock⟩, htake, hrest⟩ := Runs.bind_iff.1 h
    have h₁ := htake.keeps hR (within_transacting
      (within_staging next (within_takeStock r.tracked)))
    cases stock with
    | error cause =>
        obtain ⟨rfl, -⟩ := Runs.done_iff.1 hrest
        exact h₁
    | ok inventory => exact hR.trans h₁ (keeps_of_carryOut_error hR hrest)
  · exact keeps_of_carryOut_error hR h

end Reconciler

end Within

/-! ## What is kept -/

/-- Whether two sites have the same objects at the same version. -/
structure Kept (s s' : Site κ) : Prop where
  objects : s'.store.objects = s.store.objects
  version : s'.store.version = s.store.version

/-- Whether every transaction whose commit was carried out since was opened
    since. -/
structure Advances (s s' : Site κ) : Prop where
  opened : s.store.opened ≤ s'.store.opened
  carried : ∃ later, s'.carried = s.carried ++ later ∧
    ∀ q ∈ later, ∀ id, Command.ofRequest q = .ok (.commit id) →
      ∃ n, s.store.opened < n ∧ id = transactionId n

namespace Kept

/-- A site keeps what it has. -/
theorem refl (s : Site κ) : Kept s s := ⟨rfl, rfl⟩

/-- What is kept step by step is kept. -/
theorem trans (h : Kept s s') (h' : Kept s' s'') : Kept s s'' :=
  ⟨h'.objects.trans h.objects, h'.version.trans h.version⟩

/-- Nothing but what is put can be a commit, so the rest keeps all there is. -/
theorem carry {r : Request} (h : r.method ≠ .put) : Kept s (s.carry r) := by
  obtain ⟨hversion, hobjects⟩ := handle_leaves (s := s.store) (r := r) (.inl fun id hid =>
    h (Command.put_of_commit hid))
  exact ⟨by rw [Site.carry_store, hobjects], by rw [Site.carry_store, hversion]⟩

/-- A request that is refused changes nothing. -/
theorem of_refusal {r : Request} {e : Error} (h : s.reply r = .error e) : Kept s (s.carry r) := by
  rw [Site.reply, Store.answer] at h
  split at h
  · cases h
  · rename_i st refusal hhandle
    obtain ⟨hversion, hobjects⟩ := handle_leaves (.inr ⟨refusal, congrArg Prod.snd hhandle⟩)
    exact ⟨by rw [Site.carry_store, hobjects], by rw [Site.carry_store, hversion]⟩

end Kept

namespace Advances

/-- A site advances to itself. -/
theorem refl (s : Site κ) : Advances s s :=
  ⟨Nat.le_refl _, [], (List.append_nil _).symm, fun _ hq => absurd hq List.not_mem_nil⟩

/-- What advances step by step advances. -/
theorem trans (h : Advances s s') (h' : Advances s' s'') : Advances s s'' := by
  obtain ⟨hopened, later, hlater, hfresh⟩ := h
  obtain ⟨hopened', later', hlater', hfresh'⟩ := h'
  refine ⟨Nat.le_trans hopened hopened', later ++ later', ?_, fun q hq id hid => ?_⟩
  · rw [hlater', hlater, List.append_assoc]
  · rcases List.mem_append.1 hq with hq | hq
    · exact hfresh q hq id hid
    · obtain ⟨n, hn, hname⟩ := hfresh' q hq id hid
      exact ⟨n, Nat.lt_of_le_of_lt hopened hn, hname⟩

/-- Nothing that was carried is taken back. -/
theorem grown (h : Advances s s') : s.carried <+: s'.carried := by
  obtain ⟨-, later, hlater, -⟩ := h
  exact ⟨later, hlater.symm⟩

/-- Every commit that was carried out since is of a new transaction. -/
theorem fresh (h : Advances s s') : ∀ q ∈ s'.since s, ∀ id,
    Command.ofRequest q = .ok (.commit id) → ∃ n, s.store.opened < n ∧ id = transactionId n := by
  obtain ⟨-, later, hlater, hfresh⟩ := h
  rw [Site.since, hlater, List.drop_left]
  exact hfresh

/-- What others do to the store carries nothing. -/
theorem used {st : Store} (h : Used s.store st) : Advances s { s with store := st } :=
  ⟨h.opened_le, [], (List.append_nil _).symm, fun _ hq => absurd hq List.not_mem_nil⟩

/-- One request more, if what it commits was opened since. -/
theorem delivered (h : Advances s s') {r : Request} {a : Except Error Json}
    (hr : ∀ id, Command.ofRequest r = .ok (.commit id) →
      ∃ n, s.store.opened < n ∧ id = transactionId n)
    (hd : Delivered s' r s'' a) : Advances s s'' := by
  rcases carry_or_same hd with rfl | rfl
  · exact h
  · obtain ⟨hopened, later, hlater, hfresh⟩ := h
    refine ⟨?_, later ++ [r], ?_, fun q hq => ?_⟩
    · rw [Site.carry_store]
      exact Nat.le_trans hopened (opened_le_handle s'.store r)
    · show s'.carried ++ [r] = _
      rw [hlater, List.append_assoc]
    · rcases List.mem_append.1 hq with hq | hq
      · exact hfresh q hq
      · rw [List.mem_singleton.1 hq]
        exact hr

end Advances

variable {next : Snapshot}

/-- **Staging keeps the objects and the version**, whatever becomes of the
    requests. -/
theorem keeps_kept (provider : Provider κ) (next : Snapshot) :
    (alone provider).Keeps (staging next) Kept where
  refl := .refl
  trans := .trans
  send := by
    intro s r s' a hr h
    rcases carry_or_same (alone_send_iff.1 h) with rfl | rfl
    · exact .refl s'
    · exact .carry hr
  certs := by
    rintro s m _ a - ⟨rfl, -⟩
    exact ⟨rfl, rfl⟩
  retain := fun h => h.elim

/-- **Staging advances**, whatever becomes of the requests and whatever
    others do. -/
theorem keeps_advances (provider : Provider κ) (next : Snapshot) :
    (shared provider).Keeps (staging next) Advances where
  refl := .refl
  trans := .trans
  send := by
    rintro s r s' a hr ⟨st, hused, h⟩
    exact (Advances.used hused).delivered
      (fun id hid => absurd (Command.put_of_commit hid) hr) h
  certs := by
    rintro s m _ a - ⟨rfl, -⟩
    exact ⟨Nat.le_refl _, [], (List.append_nil _).symm, fun _ hq => absurd hq List.not_mem_nil⟩
  retain := fun h => h.elim

end Reconcile

end MeshSync
