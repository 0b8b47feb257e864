import MeshSync.Proofs.Reconcile.Showing
import MeshSync.Proofs.Reconcile.Staging

/-! # What a pass writes, and in which order

    All that a pass writes belongs to one transaction, and what it stages there
    could be made as it comes, one change at a time, by a store that looks at
    each change at once (`WellStaged`).  The route:

    * what is said in a transaction is well staged if its operations could be
      carried out where it is opened (`Transacted.wellStaged`), since what was
      staged is a beginning of them; reading before and after is no matter
      (`WellStaged.between`);
    * a transaction that is opened is opened at the version that the plan was
      made for, and there the plan is informed if the reconciler is `Certain`
      (`Certain.apply_traced`);
    * every pass leaves it certain, and so does everybody else, so it is in all
      that a run comes to from a store without listeners (`Begun.certain`).

    What a reconciler is certain of is only which listeners are there, not what
    they say, so the certificate files may be others in every pass. -/

namespace MeshSync.Reconcile

open Dataplane
open Dialogue (Runs Traced)

variable {next : Snapshot} {s s' : Store} {r r' : Reconciler} {rounds : List (Round Store)}
  {out : Except PassError Outcome}

/-! ## Well staged rounds -/

/-- Whether all that is written belongs to one transaction, in which every
    listener is torn down before it is built, by changes that could be made one
    at a time where it was opened, and nothing but the abort comes after a
    failure. -/
structure WellStaged (rounds : List (Round Store)) : Prop where
  once : rounds.Pairwise fun x y => x.Opens → ¬ y.Opens
  named : ∀ x ∈ rounds, x.writes = true → ¬ x.Opens →
    ∃ y ∈ rounds, ∃ id s, y.Opened id s ∧ x.transaction? = some id
  executable : ∀ x ∈ rounds, ∀ id s, x.Opened id s →
    Executable s.objects (rounds.filterMap Round.change?)
  tearsDownFirst : TearsDownFirst (rounds.filterMap Round.change?)
  aborted : ∀ front x back, rounds = front ++ x :: back → x.Stages → x.Fails →
    ∃ y ∈ rounds, ∃ id s a s', y.Opened id s ∧
      back.filter Round.writes = [.sent (aborting id) a s']

/-- Of two lists put together, an element is in the first or in the second. -/
theorem exists_split {α : Type} {xs ys front back : List α} {x : α}
    (h : xs ++ ys = front ++ x :: back) :
    (∃ mid, xs = front ++ x :: mid ∧ back = mid ++ ys) ∨
      ∃ mid, front = xs ++ mid ∧ ys = mid ++ x :: back := by
  rcases List.append_eq_append_iff.1 h with ⟨mid, hfront, hys⟩ | ⟨mid, hxs, hback⟩
  · exact .inr ⟨mid, hfront, hys⟩
  · cases mid with
    | nil =>
        rw [List.append_nil] at hxs
        exact .inr ⟨[], by rw [hxs, List.append_nil], hback.symm⟩
    | cons y mid =>
        rw [List.cons_append] at hback
        obtain ⟨rfl, hrest⟩ := List.cons.inj hback
        exact .inl ⟨mid, hxs, hrest⟩

namespace WellStaged

theorem pairwise_of_not_opens (h : ∀ x ∈ rounds, ¬ x.Opens) :
    rounds.Pairwise fun x y => x.Opens → ¬ y.Opens :=
  List.pairwise_of_forall_mem_list fun x hx _ _ hopens => absurd hopens (h x hx)

theorem filterMap_of_reads (h : ∀ x ∈ rounds, x.Reads) : rounds.filterMap Round.change? = [] :=
  List.filterMap_eq_nil_iff.2 fun x hx => (h x hx).idle.2.1

theorem filter_of_reads (h : ∀ x ∈ rounds, x.Reads) : rounds.filter Round.writes = [] :=
  List.filter_eq_nil_iff.2 fun x hx => by rw [(h x hx).not_writes]; exact Bool.noConfusion

/-- **Reading before and after is no matter.** -/
theorem between (front back : List (Round Store)) (hfront : ∀ x ∈ front, x.Reads)
    (hback : ∀ x ∈ back, x.Reads) (h : WellStaged rounds) :
    WellStaged (front ++ (rounds ++ back)) := by
  have hmem : ∀ x ∈ front ++ (rounds ++ back), x.Reads ∨ x ∈ rounds := by
    intro x hx
    rcases List.mem_append.1 hx with hx | hx
    · exact .inl (hfront x hx)
    · exact (List.mem_append.1 hx).symm.imp_left (hback x)
  have hsub : ∀ x ∈ rounds, x ∈ front ++ (rounds ++ back) := fun x hx =>
    List.mem_append_right _ (List.mem_append_left _ hx)
  have hchanges : (front ++ (rounds ++ back)).filterMap Round.change? =
      rounds.filterMap Round.change? := by
    rw [List.filterMap_append, List.filterMap_append, filterMap_of_reads hfront,
      filterMap_of_reads hback, List.nil_append, List.append_nil]
  refine ⟨?_, fun x hx hwrites hopens => ?_, fun x hx id s hopened => ?_, ?_,
    fun before x after hsplit hstages hfails => ?_⟩
  · refine List.pairwise_append.2 ⟨pairwise_of_not_opens fun x hx => (hfront x hx).idle.1,
      List.pairwise_append.2 ⟨h.once, pairwise_of_not_opens fun x hx => (hback x hx).idle.1,
        fun x hx y hy _ => (hback y hy).idle.1⟩, fun x hx y hy hopens => ?_⟩
    exact absurd hopens (hfront x hx).idle.1
  · rcases hmem x hx with hreads | hx
    · rw [hreads.not_writes] at hwrites
      cases hwrites
    · obtain ⟨y, hy, hnamed⟩ := h.named x hx hwrites hopens
      exact ⟨y, hsub y hy, hnamed⟩
  · rw [hchanges]
    rcases hmem x hx with hreads | hx
    · exact absurd hopened.1 hreads.idle.1
    · exact h.executable x hx id s hopened
  · rw [hchanges]
    exact h.tearsDownFirst
  · -- the failed staging lies in the middle, since neither front nor back stages anything
    rcases exists_split hsplit with ⟨mid, hx, -⟩ | ⟨mid, -, hrest⟩
    · exact absurd hstages (hfront x (hx ▸ by simp)).idle.2.2
    · rcases exists_split hrest with ⟨later, hx, rfl⟩ | ⟨later, -, hx⟩
      · obtain ⟨y, hy, id, s, a, s', hopened, habort⟩ := h.aborted mid x later hx hstages hfails
        refine ⟨y, hsub y hy, id, s, a, s', hopened, ?_⟩
        rw [List.filter_append, habort, filter_of_reads hback, List.append_nil]
      · exact absurd hstages (hback x (hx ▸ by simp)).idle.2.2

/-- Where nothing is written nothing can go wrong. -/
theorem of_idle (hopens : rounds.Pairwise fun x y => x.Opens → ¬ y.Opens)
    (h : ∀ x ∈ rounds, (x.writes = true → x.Opens) ∧ x.change? = none ∧ ¬ x.Stages) :
    WellStaged rounds := by
  have hnone : rounds.filterMap Round.change? = [] :=
    List.filterMap_eq_nil_iff.2 fun x hx => (h x hx).2.1
  refine ⟨hopens, fun x hx hwrites hnot => absurd ((h x hx).1 hwrites) hnot, fun x _ id s _ => ?_,
    ?_, fun front x back hsplit hstages => absurd hstages (h x (hsplit ▸ by simp)).2.2⟩
  · rw [hnone]
    trivial
  · rw [hnone]
    exact .nil

theorem of_reads (h : ∀ x ∈ rounds, x.Reads) : WellStaged rounds :=
  of_idle (pairwise_of_not_opens fun x hx => (h x hx).idle.1) fun x hx =>
    ⟨fun hwrites => absurd hwrites (by simp [(h x hx).not_writes]), (h x hx).idle.2⟩

end WellStaged

/-! ## Transactions -/

/-- What opens a transaction, if anything does, stages nothing itself. -/
theorem opens_opening (v : UInt64) (a : Except Error Json) (s : Store) :
    (Round.sent (opening v) a s).Opens := ⟨v, Round.command?_sent (ofRequest_begin v)⟩

/-- What closes a transaction names it, and neither opens one nor stages
    anything. -/
theorem closing_traits {id : String} (hid : Url.PlainSegment id.toList) (all : Bool)
    (a : Except Error Json) (s : Store) :
    let x := Round.sent (closing id all) a s
    ¬ x.Opens ∧ x.writes = true ∧ x.transaction? = some id ∧ x.change? = none ∧ ¬ x.Stages := by
  intro x
  obtain ⟨c, hx, hc⟩ : ∃ c, x.command? = some c ∧ (c = .commit id ∨ c = .abort id) := by
    cases all with
    | true => exact ⟨_, Round.command?_sent (ofRequest_commit hid), .inl rfl⟩
    | false => exact ⟨_, Round.command?_sent (ofRequest_abort hid), .inr rfl⟩
  refine ⟨?_, by cases all <;> rfl, ?_, ?_, Round.not_stages_of_command hx fun id' change heq => ?_⟩
  · rintro ⟨v, hv⟩
    rw [hx] at hv
    rcases hc with rfl | rfl <;> cases hv
  · rw [Round.transaction?, hx]
    rcases hc with rfl | rfl <;> rfl
  · rw [Round.change?, hx]
    rcases hc with rfl | rfl <;> rfl
  · rcases hc with rfl | rfl <;> cases heq

section Opened

variable {o : Round Store} {id : String} {s₁ : Store} {ops : List Operation} {all : Bool}
  {a : Except Error Json} (hid : Url.PlainSegment id.toList) (ho : o.Opened id s₁)
  (hstaged : Staged id ops rounds all) (hlegible : ∀ op ∈ ops, op.Legible)

include hid hstaged hlegible in
/-- What comes after the opening names the transaction and opens no other. -/
theorem named_of_opened : ∀ x ∈ rounds ++ [.sent (closing id all) a s],
    ¬ x.Opens ∧ (x.writes = true → x.transaction? = some id) := by
  intro x hx
  rcases List.mem_append.1 hx with hx | hx
  · exact hstaged.named hid.unreserved hlegible x hx
  · obtain ⟨hopens, -, hnamed, -, -⟩ := closing_traits hid all a s
    rw [List.mem_singleton.1 hx]
    exact ⟨hopens, fun _ => hnamed⟩

include hid ho in
/-- All changes are staged between the opening and the closing. -/
theorem filterMap_of_opened :
    (o :: (rounds ++ [.sent (closing id all) a s])).filterMap Round.change? =
      rounds.filterMap Round.change? := by
  obtain ⟨-, -, -, hchange, -⟩ := closing_traits hid all a s
  rw [List.filterMap_cons_none ho.1.idle.1, List.filterMap_append,
    List.filterMap_cons_none hchange, List.filterMap_nil, List.append_nil]

include hid ho hstaged in
/-- After the first failure to stage something only the abort comes. -/
theorem aborted_of_opened {front back : List (Round Store)} {x : Round Store}
    (hsplit : o :: (rounds ++ [.sent (closing id all) a s]) = front ++ x :: back)
    (hstages : x.Stages) (hfails : x.Fails) :
    back.filter Round.writes = [.sent (aborting id) a s] := by
  obtain ⟨-, hwrites, -, -, hidle⟩ := closing_traits hid all a s
  cases front with
  | nil =>
      obtain ⟨rfl, -⟩ := List.cons.inj hsplit
      exact absurd hstages ho.1.idle.2
  | cons y front =>
      rcases exists_split (List.cons.inj hsplit).2 with ⟨mid, hx, rfl⟩ | ⟨mid, -, hx⟩
      · obtain ⟨rfl, rfl⟩ := hstaged.eq_nil_of_fails hx hfails
        rw [List.nil_append, List.filter_cons_of_pos hwrites, List.filter_nil]
        rfl
      · have hlast : x ∈ [Round.sent (closing id all) a s] := hx ▸ by simp
        rw [List.mem_singleton.1 hlast] at hstages
        exact absurd hstages hidle

include hid ho hstaged hlegible in
/-- A transaction that was opened where its operations could be carried out. -/
theorem wellStaged_of_opened (hexecutable : Executable s₁.objects (ops.map (·.change)))
    (hfirst : TearsDownFirst (ops.map (·.change))) :
    WellStaged (o :: (rounds ++ [.sent (closing id all) a s])) := by
  have hlater := named_of_opened (a := a) (s := s) hid hstaged hlegible
  -- what was staged is a beginning of the changes, so it inherits all from them
  obtain ⟨rest, hrest⟩ := hstaged.changes hid.unreserved hlegible
  rw [← hrest] at hexecutable hfirst
  refine ⟨List.pairwise_cons.2 ⟨fun y hy _ => (hlater y hy).1,
      WellStaged.pairwise_of_not_opens fun x hx => (hlater x hx).1⟩,
    fun x hx hwrites hopens => ⟨o, List.mem_cons_self, id, s₁, ho, ?_⟩,
    fun x hx id' s' hopened => ?_, ?_, fun front x back hsplit hstages hfails =>
      ⟨o, List.mem_cons_self, id, s₁, a, s, ho,
        aborted_of_opened hid ho hstaged hsplit hstages hfails⟩⟩
  · rcases List.mem_cons.1 hx with rfl | hx
    · exact absurd ho.1 hopens
    · exact (hlater x hx).2 hwrites
  · rcases List.mem_cons.1 hx with rfl | hx
    · rw [filterMap_of_opened hid ho, hopened.store_eq ho]
      exact hexecutable.front
    · exact absurd hopened.1 (hlater x hx).1
  · rw [filterMap_of_opened hid ho]
    exact (List.pairwise_append.1 hfirst).1

end Opened

/-- **What is said in a transaction is well staged** if its operations could be
    carried out, one at a time, where it is opened. -/
theorem Transacted.wellStaged {v : UInt64} {ops : List Operation} (h : Transacted v ops s rounds)
    (hlegible : ∀ op ∈ ops, op.Legible)
    (hexecutable : ∀ s₁, Drift s s₁ → s₁.version = v →
      Executable s₁.objects (ops.map (·.change)))
    (hfirst : TearsDownFirst (ops.map (·.change))) : WellStaged rounds := by
  cases h with
  | unopened unread =>
      refine WellStaged.of_idle (List.pairwise_singleton _ _) fun x hx => ?_
      rw [List.mem_singleton.1 hx]
      exact ⟨fun _ => opens_opening v _ _, (opens_opening v _ _).idle⟩
  | closed read drift current plain staging =>
      refine wellStaged_of_opened plain ⟨opens_opening v _ _, ?_⟩ staging hlegible
        (hexecutable _ drift current) hfirst
      exact ⟨_, _, v, _, rfl, read, rfl⟩

/-! ## Passes -/

/-- What is only read is said by rounds that read. -/
theorem reads_of_within {α : Type} {d : Dialogue α} {res : α} (hd : d.Within reading)
    (h : Traced fickle d s rounds s' res) : ∀ x ∈ rounds, x.Reads := by
  intro x hx
  have hwithin := h.within hd x hx
  cases x with
  | sent r a s => exact ⟨r, a, s, rfl, hwithin⟩
  | asked m a => exact hwithin.elim

/-- What a pass with something to do leaves: one that failed knows nothing, and
    one that did not knows that its listeners are shown. -/
inductive Leaves (next : Snapshot) (s' : Store) (r : Reconciler) : Reconciler → Prop
  | failed {r' : Reconciler} (force : r'.force = true) (kept : r'.applied = r.applied) :
      Leaves next s' r r'
  | applied (shows : Shown (some next) s'.objects) :
      Leaves next s' r { r with tracked := s'.version, applied := some next, force := false }

/-- **Carrying out a plan is well staged** if the plan is informed at the version
    that it was made for. -/
theorem Reconciler.carryOut_traced {plan : Plan} (hformed : s.objects.WellFormed)
    (hsound : plan.Sound next) (hnext : next.Valid)
    (hinformed : ∀ s₁, Drift s s₁ → s₁.version = r.tracked → plan.Informed next s₁.objects)
    (h : Traced fickle (r.carryOut next plan) s rounds s' (r', out)) :
    WellStaged rounds ∧ s'.objects.WellFormed ∧
      ((s' = s ∧ r' = r) ∨ Leaves next s' r r') := by
  rw [carryOut] at h
  split at h
  · obtain ⟨rfl, rfl, heq⟩ := Traced.done_iff.1 h
    exact ⟨.of_reads fun x hx => absurd hx List.not_mem_nil, hformed,
      .inl ⟨rfl, (Prod.mk.inj heq).1⟩⟩
  · obtain ⟨s₁, res, first, last, rfl, htransact, hrest⟩ := Traced.bind_iff.1 h
    obtain ⟨ops, hops, hsaid, hmade⟩ := transact_traced
      (fun ops hops => Plan.legible_of_rendered hsound hnext hops) htransact
    have hstaged : WellStaged first := hsaid.wellStaged
      (Plan.legible_of_rendered hsound hnext hops)
      (fun s₁ hdrift hv => (hinformed s₁ hdrift hv).executable hsound hnext
        (hdrift.formed hformed) hops)
      (Plan.tearsDownFirst_of_rendered hsound hnext hops)
    -- the commit was decided at the version that the plan is informed of
    have hcommitted : ∀ {m : Store}, Committed r.tracked (ops.map (·.change)) s m →
        m.objects.WellFormed ∧ Shown (some next) m.objects := by
      rintro m ⟨⟨s₂, hdrift, hv, hall⟩, -⟩
      have hwf := hdrift.formed hformed
      exact ⟨hwf.applyAll (fun p hp => absurd hp List.not_mem_nil)
          (Plan.orderly_of_rendered hsound hnext hops) hall,
        (hinformed s₂ hdrift hv).after hsound hnext hwf hops hall⟩
    rcases hmade with ⟨⟨e, rfl⟩, hmade⟩ | ⟨rfl, hmade⟩
    · -- the next pass will know that it does not know what this one did
      have hreading := within_recover r e
      obtain ⟨hdrift, -, hforce, -, hkept⟩ :=
        recover_runs (troubled_of_fickle (fun _ => default) (within_unfiled hreading) hrest.runs)
      refine ⟨?_, ?_, .inr (.failed hforce hkept)⟩
      · rw [← List.nil_append (first ++ last)]
        exact hstaged.between [] last (fun x hx => absurd hx List.not_mem_nil)
          (reads_of_within hreading hrest)
      · rcases hmade with hnothing | hmade
        · exact hdrift.formed (hnothing.formed hformed)
        · exact hdrift.formed (hcommitted hmade).1
    · obtain ⟨s₂, rfl, hdone⟩ := Traced.retain_iff.1 hrest
      obtain ⟨rfl, rfl, heq⟩ := Traced.done_iff.1 hdone
      obtain ⟨rfl, -⟩ := Prod.mk.inj heq
      obtain ⟨hwf, hshows⟩ := hcommitted hmade
      rw [List.append_nil, ← hmade.version]
      exact ⟨hstaged, hwf, .inr (.applied hshows)⟩

/-- What a reconciler can be certain of: unless its last pass failed, the store
    has not fallen behind the tracked version, and at that version it shows the
    listeners of the snapshot that was committed last. -/
structure Certain (s : Store) (r : Reconciler) : Prop where
  formed : s.objects.WellFormed
  valid : ∀ previous, r.applied = some previous → previous.Valid
  behind : r.force = false → r.tracked ≤ s.version
  shows : r.force = false → r.tracked = s.version → Shown r.applied s.objects

namespace Certain

/-- Others raise the version, which leaves nothing to be certain of. -/
theorem foreign (h : Certain s r) (hf : Foreign s s') : Certain s' r := by
  refine ⟨hf.formed, h.valid, fun hr => ?_, fun hr heq => ?_⟩
  · exact UInt64.le_of_lt (hf.outruns (h.behind hr))
  · exact absurd heq (UInt64.ne_of_lt (hf.outruns (h.behind hr)))

/-- What a pass leaves is certain. -/
theorem leaves (h : Certain s r) (hnext : next.Valid) (hformed : s'.objects.WellFormed)
    (hl : Leaves next s' r r') : Certain s' r' := by
  cases hl with
  | failed force kept =>
      have hnot : r'.force ≠ false := by
        rw [force]
        exact Bool.noConfusion
      exact ⟨hformed, fun previous hp => h.valid previous (kept.symm.trans hp),
        fun hr => absurd hr hnot, fun hr => absurd hr hnot⟩
  | applied shows =>
      refine ⟨hformed, fun previous hp => ?_, fun _ => UInt64.le_refl _, fun _ _ => shows⟩
      rw [← Option.some.inj hp]
      exact hnext

/-- **Passes of a reconciler that is certain are well staged**, and leave it
    certain. -/
theorem apply_traced (h : Certain s r) (hnext : next.Valid)
    (htraced : Traced fickle (r.apply next) s rounds s' (r', out)) :
    WellStaged rounds ∧ Certain s' r' := by
  rw [Reconciler.apply] at htraced
  cases hr : r.force with
  | false =>
      rw [hr, if_neg Bool.noConfusion] at htraced
      obtain ⟨hstaged, hformed, hleft⟩ := Reconciler.carryOut_traced h.formed
        (Plan.between_sound h.valid hnext) hnext (fun s₁ hdrift hv => by
          obtain ⟨hversion, hobjects⟩ := hdrift.still (h.behind hr) hv
          rw [hobjects]
          exact Plan.between_informed (h.shows hr hversion) h.valid) htraced
      rcases hleft with ⟨rfl, rfl⟩ | hleft
      · exact ⟨hstaged, h⟩
      · exact ⟨hstaged, h.leaves hnext hformed hleft⟩
  | true =>
      rw [hr, if_pos rfl] at htraced
      -- the pass reads the store first, and is then planned at the version it read
      obtain ⟨s₃, ⟨t, stock⟩, first, last, rfl, htake, hrest⟩ := Traced.bind_iff.1 htraced
      have hreading := Reconciler.within_takeStock r.tracked
      have hreads := reads_of_within hreading htake
      obtain ⟨hdrift, hstock⟩ := Reconciler.takeStock_runs
        (troubled_of_fickle (fun _ => default) (within_unfiled hreading) htake.runs)
      have hformed := hdrift.formed h.formed
      cases stock with
      | error e =>
          obtain ⟨rfl, rfl, heq⟩ := Traced.done_iff.1 hrest
          obtain ⟨rfl, -⟩ := Prod.mk.inj heq
          rw [List.append_nil]
          exact ⟨.of_reads hreads, h.leaves hnext hformed (.failed rfl rfl)⟩
      | ok i =>
          obtain ⟨s₁, s₂, h₁, ht, h₂, h₃, hi⟩ := hstock i rfl
          have hservices : ∀ service ∈ i.services, Url.Unreserved service := by
            rw [hi]
            exact Plan.unreserved_services ((h₁.trans h₂).formed h.formed) hformed
          obtain ⟨hstaged, hformed', hleft⟩ := Reconciler.carryOut_traced
            (r := ⟨r.options, t, r.applied, true⟩) hformed
            (Plan.fromStore_sound hservices hnext) hnext
            (fun s₄ h₄ hv => Plan.fromStore_informed
              (right_of_listed (h₄.formed hformed) ht h₂ h₃ hi h₄ hv)) hrest
          have hfailed : Certain s₃ ⟨r.options, t, r.applied, true⟩ :=
            h.leaves hnext hformed (.failed rfl rfl)
          refine ⟨?_, ?_⟩
          · rw [← List.append_nil last]
            exact hstaged.between first [] hreads fun x hx => absurd hx List.not_mem_nil
          · rcases hleft with ⟨rfl, rfl⟩ | hleft
            · exact hfailed
            · exact hfailed.leaves hnext hformed' hleft

end Certain

/-! ## Runs of a reconciler -/

/-- What a store and a reconciler get into: they begin with the version that is
    read from a store without listeners; others commit changes; and there are
    passes, with any trouble and any certificate files. -/
inductive Begun : Store → Reconciler → Prop
  /-- Besides having no listeners the first store is asked to be well formed:
      its objects bear the names that they are filed under and none lacks its
      owner.  The commits of others keep it so. -/
  | start {s₀ s : Store} {v : UInt64} {options : Options}
      (read : Runs fickle Client.refreshVersion s₀ s (.ok v)) (formed : s.objects.WellFormed)
      (clear : Clear s.objects) : Begun s (.new options v)
  | foreign {s s' : Store} {r : Reconciler} (before : Begun s r) (others : Foreign s s') :
      Begun s' r
  | pass {s s' : Store} {r r' : Reconciler} {next : Snapshot} {out : Except PassError Outcome}
      (before : Begun s r) (valid : next.Valid)
      (runs : Runs fickle (r.apply next) s s' (r', out)) : Begun s' r'

/-- **Reconcilers stay certain.** -/
theorem Begun.certain (h : Begun s r) : Certain s r := by
  induction h with
  | start read formed clear =>
      have hunfiled : Client.refreshVersion.Within unfiled := within_ask trivial
      have hv := (refreshVersion_runs (troubled_of_fickle (fun _ => default) hunfiled read)).2 _ rfl
      exact ⟨formed, nofun, fun _ => hv ▸ UInt64.le_refl _, fun _ _ => clear.shows⟩
  | foreign before others ih => exact ih.foreign others
  | pass before valid runs ih =>
      obtain ⟨rounds, htraced⟩ := runs.exists_traced
      exact (ih.apply_traced valid htraced).2

/-- **Every pass stages an executable sequence, teardown before rebuild.** In
    every state that a run can get into from a well-formed store without
    listeners, and whatever happens to the requests of a pass: it opens one transaction at most,
    all else that it writes names that transaction, what it stages can be made
    one change at a time to the objects that were there when the transaction was
    opened, every listener is torn down before it is built, and after the first
    failure to stage something only the abort is written. -/
theorem passes_are_well_staged (h : Begun s r) (hnext : next.Valid)
    (htraced : Traced fickle (r.apply next) s rounds s' (r', out)) : WellStaged rounds :=
  (h.certain.apply_traced hnext htraced).1

/-- The first pass over an empty store, which is applied. -/
theorem first_pass_is_well_staged : ∃ rounds s' r' d rebuilt removed,
    Traced fickle ((Reconciler.new .standard 1).apply (nodeOn 20000)) (Store.new 1) rounds s'
        (r', .ok (.applied 2 d rebuilt removed)) ∧
      WellStaged rounds := by
  obtain ⟨s', r', d, rebuilt, removed, hrun⟩ := run_first 1 20000
  have hallows : (troubled oneFile).Allows (calm oneFile) := troubled_allows_calm
  have hread := Runs.of_run hallows Client.refreshVersion (Store.new 1)
  rw [run_refreshVersion] at hread
  have hbegun : Begun (Store.new 1) (.new .standard 1) :=
    .start (fickle_of_troubled hread) Objects.WellFormed.empty fun k _ => rfl
  have hruns := Runs.of_run hallows
    ((Reconciler.new .standard 1).apply (nodeOn 20000)) (Store.new 1)
  rw [hrun] at hruns
  obtain ⟨rounds, htraced⟩ := (fickle_of_troubled hruns).exists_traced
  exact ⟨rounds, s', r', d, rebuilt, removed, htraced,
    passes_are_well_staged hbegun (valid_nodeOn 20000) htraced⟩

end MeshSync.Reconcile
