import MeshSync.Proofs.Dataplane.Journal
import MeshSync.Proofs.Dataplane.Numbering

/-! # A store is serializable, and the first to commit wins

    Whatever clients do and in whatever order, a store is what its journal says:
    the objects are those that the committed transactions make one after
    another, and no two of them were opened at the same version
    (`recorder_serializable`).

    `Accounts` is the invariant.  An open transaction is in it with the version
    it was opened at and the changes that were staged in it since; a committed
    one was opened at a version that the store has left behind.  So a commit,
    which is made only at the version of its transaction, is the first from
    there. -/

namespace MeshSync.Dataplane

variable {first : UInt64} {log : Journal} {e : Entry} {s s' : Store} {id : String} {v : UInt64}

/-- What a journal says of a store that was empty at first. -/
structure Accounts (first : UInt64) (log : Journal) (s : Store) : Prop where
  objects : (∅ : Objects).applyAll log.changes = .ok s.objects
  version : s.version.toNat = first.toNat + log.raises
  numbered : ∀ id v, (id, v) ∈ log.openings → ∃ n, n ≤ s.opened ∧ id = transactionId n
  /-- No transaction is opened twice. -/
  once : ∀ id v v', (id, v) ∈ log.openings → (id, v') ∈ log.openings → v = v'
  known : ∀ id, log.stagedIn id ≠ [] → ∃ v, (id, v) ∈ log.openings
  /-- What is open has its version and its changes from the journal. -/
  pending : ∀ id t, s.transactions.get? id = some t →
    (id, t.version) ∈ log.openings ∧ t.changes = log.stagedIn id ∧ id ∉ log.commits
  opened : ∀ id ∈ log.commits, ∃ v, (id, v) ∈ log.openings
  /-- What is committed was opened at a version left behind. -/
  past : ∀ id ∈ log.commits, ∀ v, (id, v) ∈ log.openings → v.toNat < s.version.toNat
  sole : log.commits.Pairwise fun id id' =>
    ∀ v, (id, v) ∈ log.openings → (id', v) ∉ log.openings

/-- The name of the transaction that was opened, as the client is told it. -/
theorem id_openedNext (s : Store) :
    (s.openedNext.field? "id").bind Json.string? = some (transactionId (s.opened + 1)) := by
  have hne : compare "id" "_version" ≠ .eq := by decide
  rw [Store.openedNext, opened_fields, Json.field?, SortedMap.find, if_neg hne, SortedMap.find,
    if_pos Std.ReflCmp.compare_self]
  rfl

namespace Accounts

theorem new (first : UInt64) : Accounts first [] (Store.new first) where
  objects := rfl
  version := rfl
  numbered := by simp [Journal.openings]
  once := by simp [Journal.openings]
  known := by simp [Journal.stagedIn]
  pending id t ht := nomatch ht
  opened := by simp [Journal.commits]
  past := by simp [Journal.commits]
  sole := List.Pairwise.nil

/-- The number of the next transaction is not in the journal. -/
theorem next_unused (h : Accounts first log s) :
    (transactionId (s.opened + 1), v) ∉ log.openings := by
  intro hmem
  obtain ⟨n, hn, hid⟩ := h.numbered _ _ hmem
  rw [← transactionId_inj hid] at hn
  exact Nat.not_succ_le_self _ hn

/-- Where nothing is opened, staged or committed, the version may go on and
    transactions may be closed. -/
theorem aside (h : Accounts first log s) (hopening : e.opening? = none)
    (hstaging : e.staging? = none) (hcommit : e.commit? = none)
    (hversion : s'.version.toNat = s.version.toNat + if e.isBump then 1 else 0)
    (hobjects : s'.objects = s.objects) (hopened : s'.opened = s.opened)
    (hopen : ∀ id t, s'.transactions.get? id = some t → s.transactions.get? id = some t) :
    Accounts first (log ++ [e]) s' := by
  have openings := log.openings_of_none hopening
  have commits := log.commits_of_none hcommit
  have stagedIn := log.stagedIn_of_none hstaging
  constructor
  · rw [Journal.changes, commits, stagedIn, hobjects]
    exact h.objects
  · rw [Journal.raises_snoc, hcommit, hversion, h.version]
    exact Nat.add_assoc _ _ _ |>.trans (by simp)
  · rw [openings, hopened]
    exact h.numbered
  · rw [openings]
    exact h.once
  · rw [openings, stagedIn]
    exact h.known
  · intro id t ht
    rw [openings, commits, stagedIn]
    exact h.pending id t (hopen id t ht)
  · rw [openings, commits]
    exact h.opened
  · rw [openings, commits]
    intro id hid v hv
    have := h.past id hid v hv
    omega
  · rw [openings, commits]
    exact h.sole

/-- A transaction is opened. -/
theorem begun (h : Accounts first log s)
    (hopening : e.opening? = some (transactionId (s.opened + 1), s.version))
    (hstaging : e.staging? = none) (hcommit : e.commit? = none) (hbump : e.isBump = false) :
    Accounts first (log ++ [e]) s.withNext := by
  have openings : (log ++ [e]).openings =
      log.openings ++ [(transactionId (s.opened + 1), s.version)] := by
    rw [Journal.openings_snoc, hopening]
    rfl
  have commits := log.commits_of_none hcommit
  have stagedIn := log.stagedIn_of_none hstaging
  -- what the journal knew already is another transaction than the new one
  have older : ∀ id v, id ≠ transactionId (s.opened + 1) → (id, v) ∈ (log ++ [e]).openings →
      (id, v) ∈ log.openings := by
    intro id v hne hmem
    rw [openings] at hmem
    rcases List.mem_append.1 hmem with hmem | hmem
    · exact hmem
    · exact absurd (Prod.mk.inj (List.mem_singleton.1 hmem)).1 hne
  have newer : ∀ v, (transactionId (s.opened + 1), v) ∈ (log ++ [e]).openings → v = s.version := by
    intro v hmem
    rw [openings] at hmem
    rcases List.mem_append.1 hmem with hmem | hmem
    · exact absurd hmem h.next_unused
    · exact (Prod.mk.inj (List.mem_singleton.1 hmem)).2
  have still : ∀ id v, (id, v) ∈ log.openings → (id, v) ∈ (log ++ [e]).openings := by
    intro id v hmem
    rw [openings]
    exact List.mem_append_left _ hmem
  have committed_ne : ∀ id ∈ log.commits, id ≠ transactionId (s.opened + 1) := by
    rintro id hid rfl
    obtain ⟨v, hv⟩ := h.opened _ hid
    exact h.next_unused hv
  constructor
  · rw [Journal.changes, commits, stagedIn]
    exact h.objects
  · rw [Journal.raises_snoc, hcommit, hbump]
    exact h.version
  · intro id v hmem
    by_cases hid : id = transactionId (s.opened + 1)
    · exact ⟨s.opened + 1, Nat.le_refl _, hid⟩
    · obtain ⟨n, hn, hname⟩ := h.numbered id v (older id v hid hmem)
      exact ⟨n, Nat.le_succ_of_le hn, hname⟩
  · intro id v v' hv hv'
    by_cases hid : id = transactionId (s.opened + 1)
    · subst hid
      rw [newer v hv, newer v' hv']
    · exact h.once id v v' (older id v hid hv) (older id v' hid hv')
  · intro id hstaged
    rw [stagedIn] at hstaged
    obtain ⟨v, hv⟩ := h.known id hstaged
    exact ⟨v, still id v hv⟩
  · intro id t ht
    rw [commits, stagedIn]
    by_cases hid : id = transactionId (s.opened + 1)
    · subst hid
      rw [Store.withNext, SortedMap.get?_insert_self] at ht
      rw [← Option.some.inj ht]
      refine ⟨?_, ?_, fun hmem => committed_ne _ hmem rfl⟩
      · rw [openings]
        exact List.mem_append_right _ (List.mem_singleton.2 rfl)
      · -- nothing was staged in it before it was opened
        by_contra hne
        obtain ⟨v, hv⟩ := h.known _ (Ne.symm hne)
        exact h.next_unused hv
    · rw [Store.withNext, SortedMap.get?_insert_of_ne _ hid] at ht
      obtain ⟨hopen, hrest⟩ := h.pending id t ht
      exact ⟨still id _ hopen, hrest⟩
  · intro id hid
    rw [commits] at hid
    obtain ⟨v, hv⟩ := h.opened id hid
    exact ⟨v, still id v hv⟩
  · intro id hid v hv
    rw [commits] at hid
    exact h.past id hid v (older id v (committed_ne id hid) hv)
  · rw [commits]
    refine h.sole.imp_of_mem fun hid hid' hsole v hv hv' => ?_
    exact hsole v (older _ v (committed_ne _ hid) hv) (older _ v (committed_ne _ hid') hv')

/-- A change is staged in an open transaction. -/
theorem staged (h : Accounts first log s) {t : Transaction} {change : Change}
    (ht : s.transactions.get? id = some t) (hopening : e.opening? = none)
    (hstaging : e.staging? = some (id, change)) (hcommit : e.commit? = none)
    (hbump : e.isBump = false) : Accounts first (log ++ [e]) (s.withChange id t change) := by
  have openings := log.openings_of_none hopening
  have commits := log.commits_of_none hcommit
  obtain ⟨hopen, hchanges, huncommitted⟩ := h.pending id t ht
  constructor
  · -- the changes of a transaction that is still open are not made yet
    have changes : (log ++ [e]).changes = log.changes := by
      rw [Journal.changes, commits]
      refine List.flatMap_congr fun id' hid' => ?_
      exact Journal.stagedIn_of_ne hstaging (ne_of_mem_of_not_mem hid' huncommitted)
    rw [changes]
    exact h.objects
  · rw [Journal.raises_snoc, hcommit, hbump]
    exact h.version
  · rw [openings]
    exact h.numbered
  · rw [openings]
    exact h.once
  · rw [openings]
    intro id' hstaged
    by_cases hid : id' = id
    · exact ⟨t.version, hid ▸ hopen⟩
    · rw [Journal.stagedIn_of_ne hstaging hid] at hstaged
      exact h.known id' hstaged
  · intro id' t' ht'
    rw [openings, commits]
    by_cases hid : id' = id
    · subst hid
      rw [Store.withChange, SortedMap.get?_insert_self] at ht'
      rw [← Option.some.inj ht', Journal.stagedIn_of_some hstaging, ← hchanges]
      exact ⟨hopen, rfl, huncommitted⟩
    · rw [Store.withChange, SortedMap.get?_insert_of_ne _ hid] at ht'
      rw [Journal.stagedIn_of_ne hstaging hid]
      exact h.pending id' t' ht'
  · rw [openings, commits]
    exact h.opened
  · rw [openings, commits]
    exact h.past
  · rw [openings, commits]
    exact h.sole

/-- An open transaction is committed. -/
theorem committed (h : Accounts first log s) {t : Transaction} {objects : Objects}
    (ht : s.transactions.get? id = some t) (hcurrent : t.version = s.version)
    (happlies : s.objects.applyAll t.changes = .ok objects) (hopening : e.opening? = none)
    (hstaging : e.staging? = none) (hcommit : e.commit? = some id) (hbump : e.isBump = false)
    (hroom : s.version.toNat + 1 < UInt64.size) :
    Accounts first (log ++ [e])
      { s.without id with objects := objects, version := s.version + 1 } := by
  have openings := log.openings_of_none hopening
  have commits : (log ++ [e]).commits = log.commits ++ [id] := by
    rw [Journal.commits_snoc, hcommit]
    rfl
  have stagedIn := log.stagedIn_of_none hstaging
  have hnext := toNat_next hroom
  obtain ⟨hopen, hchanges, huncommitted⟩ := h.pending id t ht
  rw [hcurrent] at hopen
  constructor
  · rw [Journal.changes, commits, stagedIn, List.flatMap_append, List.flatMap_singleton, ← hchanges]
    exact Objects.applyAll_append_iff.2 ⟨s.objects, h.objects, happlies⟩
  · dsimp only
    rw [hnext, h.version, Journal.raises_snoc, hcommit, hbump]
    rfl
  · rw [openings]
    exact h.numbered
  · rw [openings]
    exact h.once
  · rw [openings, stagedIn]
    exact h.known
  · intro id' t' ht'
    rw [openings, commits, stagedIn]
    dsimp only [Store.without] at ht'
    by_cases hid : id' = id
    · rw [hid, SortedMap.get?_erase_self] at ht'
      cases ht'
    · rw [SortedMap.get?_erase_of_ne _ hid] at ht'
      obtain ⟨hopen', hchanges', huncommitted'⟩ := h.pending id' t' ht'
      refine ⟨hopen', hchanges', fun hmem => ?_⟩
      rcases List.mem_append.1 hmem with hmem | hmem
      · exact huncommitted' hmem
      · exact hid (List.mem_singleton.1 hmem)
  · rw [openings, commits]
    intro id' hid'
    rcases List.mem_append.1 hid' with hid' | hid'
    · exact h.opened id' hid'
    · exact ⟨s.version, List.mem_singleton.1 hid' ▸ hopen⟩
  · rw [openings, commits]
    intro id' hid' v hv
    dsimp only
    rw [hnext]
    rcases List.mem_append.1 hid' with hid' | hid'
    · exact Nat.lt_succ_of_lt (h.past id' hid' v hv)
    · rw [List.mem_singleton.1 hid'] at hv
      rw [h.once id v s.version hv hopen]
      exact Nat.lt_succ_self _
  · rw [openings, commits]
    refine List.pairwise_append.2 ⟨h.sole, List.pairwise_singleton _ _, ?_⟩
    intro id' hid' id'' hid'' v hv hv'
    -- an earlier commit was of a version left behind, this one is of the current one
    rw [List.mem_singleton.1 hid''] at hv'
    have hpast := h.past id' hid' v hv
    rw [h.once id v s.version hv' hopen] at hpast
    exact Nat.lt_irrefl _ hpast

/-- A request is answered with an error. -/
theorem refused (h : Accounts first log s) (q : Request) (error : Error)
    (hversion : s'.version = s.version) (hobjects : s'.objects = s.objects)
    (hopened : s'.opened = s.opened)
    (hopen : ∀ id t, s'.transactions.get? id = some t → s.transactions.get? id = some t) :
    Accounts first (log ++ [.answered q (.error error)]) s' :=
  h.aside rfl rfl rfl (congrArg UInt64.toNat hversion) hobjects hopened hopen

/-- A request is answered by the store. -/
theorem handled (h : Accounts first log s) (q : Request)
    (he : e = .answered q ((s.handle q).2.mapError fun refusal => refusal.error q))
    (hroom : first.toNat + (log ++ [e]).raises < UInt64.size) :
    Accounts first (log ++ [e]) (s.handle q).1 := by
  have closed : ∀ id id' t, (s.without id).transactions.get? id' = some t →
      s.transactions.get? id' = some t := by
    intro id id' t ht
    by_cases hid : id' = id
    · rw [hid, Store.without, SortedMap.get?_erase_self] at ht
      cases ht
    · rwa [Store.without, SortedMap.get?_erase_of_ne _ hid] at ht
  rcases handle_cases s q with ⟨refusal, hr⟩ | ⟨c, hc, hdoes⟩
  · rw [he, hr]
    exact h.refused q _ rfl rfl rfl fun _ _ ht => ht
  · generalize (s.handle q).1 = s' at hdoes ⊢
    generalize (s.handle q).2 = a at hdoes he
    -- what the onlooker reads from an answer that is no error
    have done : ∀ j, a = .ok j → e.done? = some (c, j) := by
      rintro j rfl
      rw [he]
      exact Entry.done?_ok hc j
    have bump : e.isBump = false := by rw [he]; rfl
    cases hdoes with
    | opened =>
        have done := done _ rfl
        refine h.begun ?_ ?_ ?_ bump
        · rw [Entry.opening?, done]
          exact congrArg (Option.map (·, s.version)) (id_openedNext s)
        · rw [Entry.staging?, done]
        · rw [Entry.commit?, done]
    | committed there current applies =>
        have done := done _ rfl
        refine h.committed there current applies ?_ ?_ ?_ bump ?_
        · rw [Entry.opening?, done]
        · rw [Entry.staging?, done]
        · rw [Entry.commit?, done]
        · rw [Journal.raises_snoc, bump, Entry.commit?, done] at hroom
          rw [h.version]
          exact hroom
    | staged there =>
        have done := done _ rfl
        refine h.staged there ?_ ?_ ?_ bump
        · rw [Entry.opening?, done]
        · rw [Entry.staging?, done]
        · rw [Entry.commit?, done]
    | aborted there =>
        obtain ⟨opening, staging, commit⟩ := Entry.unread (done _ rfl) rfl
        exact h.aside opening staging commit (by rw [bump]; rfl) rfl rfl (closed _)
    | specified =>
        obtain ⟨opening, staging, commit⟩ := Entry.unread (done _ rfl) rfl
        exact h.aside opening staging commit (by rw [bump]; rfl) rfl rfl fun _ _ ht => ht
    | informed =>
        obtain ⟨opening, staging, commit⟩ := Entry.unread (done _ rfl) rfl
        exact h.aside opening staging commit (by rw [bump]; rfl) rfl rfl fun _ _ ht => ht
    | listed =>
        obtain ⟨opening, staging, commit⟩ := Entry.unread (done _ rfl) rfl
        exact h.aside opening staging commit (by rw [bump]; rfl) rfl rfl fun _ _ ht => ht
    | dropped there =>
        rw [he]
        exact h.refused q _ rfl rfl rfl (closed _)
    | refused =>
        rw [he]
        exact h.refused q _ rfl rfl rfl fun _ _ ht => ht

/-- **One deed keeps the accounts.** -/
theorem act {r : Recorder} (h : Accounts first log r.store) (d : Deed)
    (hroom : first.toNat + (log ++ (r.act d).2).raises < UInt64.size) :
    Accounts first (log ++ (r.act d).2) (r.act d).1.store := by
  cases d with
  | request q =>
      rcases r.send_cases q with ⟨hstore, error, herror⟩ | ⟨hstore, hanswer⟩
      · rw [Recorder.act, hstore, herror]
        exact h.refused q error rfl rfl rfl fun _ _ ht => ht
      · rw [Recorder.act, hanswer] at hroom ⊢
        rw [hstore]
        exact h.handled q rfl hroom
  | bump =>
      refine h.aside rfl rfl rfl (toNat_next ?_) rfl rfl fun _ _ ht => ht
      rw [Recorder.act, Journal.raises_snoc] at hroom
      rw [h.version]
      exact hroom
  | failNext part =>
      rw [Recorder.act, List.append_nil]
      exact h
  | clear =>
      rw [Recorder.act, List.append_nil]
      exact h

end Accounts

/-- By induction on the deeds, from the last one: versions that suffice for all
    of them suffice for those before. -/
theorem accounts_after (first : UInt64) (deeds : List Deed)
    (hroom : first.toNat + ((Recorder.new first).after deeds).2.raises < UInt64.size) :
    Accounts first ((Recorder.new first).after deeds).2
      ((Recorder.new first).after deeds).1.store := by
  induction deeds using List.reverseRecOn with
  | nil => exact .new first
  | append_singleton deeds d ih =>
      rw [Recorder.after_snoc] at hroom ⊢
      dsimp only at hroom ⊢
      have hle := Journal.raises_le_append ((Recorder.new first).after deeds).2
        (((Recorder.new first).after deeds).1.act d).2
      exact (ih (by omega)).act d hroom

/-- What is left as it is by a request that is answered with an error, or that
    asks for no commit. -/
theorem Recorder.send_leaves {r : Recorder} {q : Request}
    (h : (∃ error, (r.send q).2 = .error error) ∨ ∀ id, Command.ofRequest q ≠ .ok (.commit id)) :
    (r.send q).1.store.objects = r.store.objects ∧
      (r.send q).1.store.version = r.store.version := by
  rcases r.send_cases q with ⟨hstore, -⟩ | ⟨hstore, hanswer⟩
  · rw [hstore]
    exact ⟨rfl, rfl⟩
  · rw [hstore]
    refine (handle_leaves ?_).symm
    rcases h with ⟨error, herror⟩ | hcommit
    · rw [hanswer] at herror
      refine .inr ?_
      cases ha : (r.store.handle q).2 with
      | error refusal => exact ⟨refusal, rfl⟩
      | ok j =>
          rw [ha] at herror
          cases herror
    · exact .inl hcommit

/-- What makes a recorder that was empty at first serializable, as an onlooker
    sees it. -/
structure Serializable (first : UInt64) (r : Recorder) (log : Journal) : Prop where
  /-- The changes of the committed transactions apply one after another, and
      give the objects. -/
  objects : (∅ : Objects).applyAll log.changes = .ok r.store.objects
  /-- The same, key by key. -/
  effects : r.store.objects.get? = log.changes.foldl Change.effect fun _ => none
  version : r.store.version.toNat = first.toNat + (log.commits.length + log.bumps)
  /-- What is committed was opened, at a version. -/
  opened : ∀ id ∈ log.commits, ∃ v, (id, v) ∈ log.openings
  /-- Of the transactions opened at one version, one commits at most. -/
  sole : ∀ v, (log.commits.filter fun id => (id, v) ∈ log.openings).length ≤ 1
  /-- Errors, and requests that ask for no commit, change nothing. -/
  steady : ∀ q, ((∃ error, (r.send q).2 = .error error) ∨
      ∀ id, Command.ofRequest q ≠ .ok (.commit id)) →
    (r.send q).1.store.objects = r.store.objects ∧ (r.send q).1.store.version = r.store.version

/-- **A recorder is serializable, and the first to commit wins**: after all that
    clients may do, while there are versions. -/
theorem recorder_serializable (first : UInt64) (deeds : List Deed)
    (hroom : first.toNat + ((Recorder.new first).after deeds).2.raises < UInt64.size) :
    Serializable first ((Recorder.new first).after deeds).1
      ((Recorder.new first).after deeds).2 := by
  have h := accounts_after first deeds hroom
  refine ⟨h.objects, Objects.get?_applyAll h.objects, h.version, h.opened, fun v => ?_,
    fun q => Recorder.send_leaves⟩
  -- two commits at one version would be an earlier and a later one
  have hsole : (((Recorder.new first).after deeds).2.commits.filter fun id =>
      (id, v) ∈ ((Recorder.new first).after deeds).2.openings).Pairwise fun _ _ => False :=
    (List.pairwise_filter.2 (h.sole.imp fun hne hid hid' =>
      hne v (of_decide_eq_true hid) (of_decide_eq_true hid')))
  generalize (((Recorder.new first).after deeds).2.commits.filter fun id =>
    (id, v) ∈ ((Recorder.new first).after deeds).2.openings) = ids at hsole ⊢
  match ids, hsole with
  | [], _ => exact Nat.zero_le _
  | [_], _ => exact Nat.le_refl _
  | a :: b :: _, hsole => exact absurd ((List.pairwise_cons.1 hsole).1 b (by simp)) not_false

/-- Two clients open transactions at the same version and commit both. -/
def rivalry : List Deed :=
  [.request ⟨.post, s!"{transactionsPath}?version={(1 : UInt64)}", none⟩,
    .request ⟨.post, s!"{transactionsPath}?version={(1 : UInt64)}", none⟩,
    .request ⟨.put, Client.transactionPath (transactionId 2), none⟩,
    .request ⟨.put, Client.transactionPath (transactionId 1), none⟩]

/-- Two rivals are serialized. -/
theorem rivals_serialized :
    Serializable 1 ((Recorder.new 1).after rivalry).1 ((Recorder.new 1).after rivalry).2 := by
  refine recorder_serializable 1 rivalry ?_
  have hle : ((Recorder.new 1).after rivalry).2.raises ≤ 4 := Recorder.raises_after_le _ _
  exact Nat.lt_of_le_of_lt (Nat.add_le_add_left hle (UInt64.toNat 1)) (by decide)

end MeshSync.Dataplane
