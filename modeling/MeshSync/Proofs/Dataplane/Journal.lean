import MeshSync.Proofs.Dataplane.Objects
import MeshSync.Proofs.Dataplane.Performing
import MeshSync.Dataplane.Recorder

/-! # What can be seen of a store from outside

    Any number of clients send requests to one recorder, others raise its
    version, and failures are asked for in between.  A `Journal` holds what an
    onlooker sees of that: each request with its answer, and each raise of the
    version.  Which transactions were opened, what was staged in them and which
    of them were committed is read from the answers alone, without looking into
    the store. -/

namespace MeshSync.Dataplane

/-- What can happen to a recorder. -/
inductive Deed where
  | request (r : Request)
  /-- Another writer raises the version. -/
  | bump
  | failNext (part : String)
  | clear

/-- Whether a command opens, stages or commits something. -/
def Command.counts : Command → Bool
  | .begin _ | .stage _ _ | .commit _ => true
  | .abort _ | .specification | .info | .list _ => false

/-- What an onlooker sees of a deed. -/
inductive Entry where
  | answered (request : Request) (answer : Except Error Json)
  | bumped

namespace Entry

/-- The command that was carried out, with what the client was told. -/
def done? : Entry → Option (Command × Json)
  | answered request (.ok j) => (Command.ofRequest request).toOption.map (·, j)
  | answered _ (.error _) => none
  | bumped => none

/-- The transaction that was opened, and its version. -/
def opening? (e : Entry) : Option (String × UInt64) :=
  match e.done? with
  | some (.begin version, j) => ((j.field? "id").bind Json.string?).map (·, version)
  | _ => none

/-- The change that was staged, and the transaction it was staged in. -/
def staging? (e : Entry) : Option (String × Change) :=
  match e.done? with
  | some (.stage id change, _) => some (id, change)
  | _ => none

/-- The transaction that was committed. -/
def commit? (e : Entry) : Option String :=
  match e.done? with
  | some (.commit id, _) => some id
  | _ => none

theorem done?_ok {q : Request} {c : Command} (h : Command.ofRequest q = .ok c) (j : Json) :
    (answered q (.ok j)).done? = some (c, j) := by
  rw [done?, h]
  rfl

/-- Whether somebody else raised the version. -/
def isBump : Entry → Bool
  | bumped => true
  | answered _ _ => false

/-- A command that opens, stages and commits nothing is not read from an entry. -/
theorem unread {e : Entry} {c : Command} {j : Json} (h : e.done? = some (c, j))
    (hc : c.counts = false) : e.opening? = none ∧ e.staging? = none ∧ e.commit? = none := by
  rw [opening?, staging?, commit?, h]
  cases c with
  | begin version => cases hc
  | stage id change => cases hc
  | commit id => cases hc
  | abort id => exact ⟨rfl, rfl, rfl⟩
  | specification => exact ⟨rfl, rfl, rfl⟩
  | info => exact ⟨rfl, rfl, rfl⟩
  | list kind => exact ⟨rfl, rfl, rfl⟩

end Entry

/-- What an onlooker has seen, in its order. -/
abbrev Journal := List Entry

namespace Journal

/-- The transactions that were opened, with their versions. -/
def openings (log : Journal) : List (String × UInt64) := log.filterMap Entry.opening?

/-- The changes that were staged in a transaction, in their order. -/
def stagedIn (log : Journal) (id : String) : List Change :=
  ((log.filterMap Entry.staging?).filter (·.1 = id)).map (·.2)

/-- The transactions that were committed, in their order. -/
def commits (log : Journal) : List String := log.filterMap Entry.commit?

/-- How often others raised the version. -/
def bumps (log : Journal) : Nat := log.countP Entry.isBump

/-- How often the version was raised. -/
def raises (log : Journal) : Nat := log.commits.length + log.bumps

/-- The changes of the transactions that were committed, one transaction after
    another. -/
def changes (log : Journal) : List Change := log.commits.flatMap log.stagedIn

variable {log : Journal} {e : Entry} {id : String}

theorem openings_snoc : (log ++ [e]).openings = log.openings ++ e.opening?.toList := by
  rw [openings, List.filterMap_append]
  cases h : e.opening? <;> simp [openings, h]

theorem openings_of_none (h : e.opening? = none) : (log ++ [e]).openings = log.openings := by
  rw [openings_snoc, h]
  exact List.append_nil _

theorem commits_snoc : (log ++ [e]).commits = log.commits ++ e.commit?.toList := by
  rw [commits, List.filterMap_append]
  cases h : e.commit? <;> simp [commits, h]

theorem commits_of_none (h : e.commit? = none) : (log ++ [e]).commits = log.commits := by
  rw [commits_snoc, h]
  exact List.append_nil _

theorem raises_snoc : (log ++ [e]).raises =
    log.raises + (e.commit?.toList.length + if e.isBump then 1 else 0) := by
  rw [raises, commits_snoc, List.length_append, bumps, List.countP_append, List.countP_singleton,
    raises, bumps]
  omega

theorem raises_le_append (log more : Journal) : log.raises ≤ (log ++ more).raises := by
  simp only [raises, commits, bumps, List.filterMap_append, List.countP_append, List.length_append]
  omega

theorem stagedIn_of_none (h : e.staging? = none) : (log ++ [e]).stagedIn = log.stagedIn := by
  funext id
  simp [stagedIn, h]

theorem stagedIn_of_some {change : Change} (h : e.staging? = some (id, change)) :
    (log ++ [e]).stagedIn id = log.stagedIn id ++ [change] := by
  simp [stagedIn, h]

theorem stagedIn_of_ne {id' : String} {change : Change} (h : e.staging? = some (id', change))
    (hne : id ≠ id') : (log ++ [e]).stagedIn id = log.stagedIn id := by
  simp [stagedIn, h, hne.symm]

end Journal

namespace Recorder

/-- A recorder after a deed, with what is seen of it. -/
def act (r : Recorder) : Deed → Recorder × Journal
  | .request q => ((r.send q).1, [.answered q (r.send q).2])
  | .bump => ({ r with store := r.store.bump }, [.bumped])
  | .failNext part => (r.failNext part, [])
  | .clear => (r.clear, [])

/-- A recorder after deeds, one after another, with what is seen of them. -/
def after (r : Recorder) (deeds : List Deed) : Recorder × Journal :=
  deeds.foldl (fun done d => ((done.1.act d).1, done.2 ++ (done.1.act d).2)) (r, [])

theorem after_snoc (r : Recorder) (deeds : List Deed) (d : Deed) :
    r.after (deeds ++ [d]) =
      (((r.after deeds).1.act d).1, (r.after deeds).2 ++ ((r.after deeds).1.act d).2) := by
  rw [after, List.foldl_append]
  rfl

/-- The version is raised no more often than something happens. -/
theorem raises_after_le (r : Recorder) (deeds : List Deed) :
    (r.after deeds).2.raises ≤ deeds.length := by
  have raises_le_length : ∀ log : Journal, log.raises ≤ log.length := by
    intro log
    induction log using List.reverseRecOn with
    | nil => exact Nat.le_refl _
    | append_singleton log e ih =>
        rw [Journal.raises_snoc, List.length_append, List.length_singleton]
        cases e with
        | bumped => exact Nat.add_le_add_right ih 1
        | answered q a =>
            have hle : (Entry.answered q a).commit?.toList.length ≤ 1 := by
              cases (Entry.answered q a).commit? <;> simp
            exact Nat.add_le_add ih hle
  refine Nat.le_trans (raises_le_length _) ?_
  induction deeds using List.reverseRecOn with
  | nil => exact Nat.le_refl _
  | append_singleton deeds d ih =>
      rw [after_snoc, List.length_append, List.length_append, List.length_singleton]
      refine Nat.add_le_add ih ?_
      cases d with
      | request q => exact Nat.le_refl _
      | bump => exact Nat.le_refl _
      | failNext part => exact Nat.zero_le _
      | clear => exact Nat.zero_le _

/-- A request is refused before it comes to the store, or the store does what
    it is asked for and that is what the client is told. -/
theorem send_cases (r : Recorder) (q : Request) :
    ((r.send q).1.store = r.store ∧ ∃ e, (r.send q).2 = .error e) ∨
      ((r.send q).1.store = (r.store.handle q).1 ∧
        (r.send q).2 = (r.store.handle q).2.mapError fun refusal => refusal.error q) := by
  rw [send]
  dsimp only
  split
  · exact .inl ⟨rfl, _, rfl⟩
  · split
    · rename_i h
      rw [h]
      exact .inr ⟨rfl, rfl⟩
    · rename_i h
      rw [h]
      exact .inr ⟨rfl, rfl⟩

end Recorder

/-! ## What changes do, key by key -/

/-- What stands at a key after a change that applies. -/
def Change.effect (objects : ObjectKey → Option Json) : Change → ObjectKey → Option Json
  | create key value, k => if k = key then some value else objects k
  | replace key value, k => if k = key then some value else objects k
  | delete key, k => if k = key ∨ k.parent = some key.owner then none else objects k

namespace Objects

variable {objects objects' : Objects}

theorem get?_apply {c : Change} (h : objects.apply c = .ok objects') :
    objects'.get? = c.effect objects.get? := by
  funext k
  cases c with
  | create key value =>
      obtain ⟨-, rfl⟩ := apply_create_iff.1 h
      simp only [SortedMap.get?_insert, SortedMap.compare_eq_iff, Change.effect]
  | replace key value =>
      obtain ⟨-, rfl⟩ := apply_replace_iff.1 h
      simp only [SortedMap.get?_insert, SortedMap.compare_eq_iff, Change.effect]
  | delete key =>
      obtain ⟨-, rfl⟩ := apply_delete_iff.1 h
      exact get?_drop _ _ _

/-- Changes that apply one after another have their effects one after another. -/
theorem get?_applyAll {cs : List Change} (h : objects.applyAll cs = .ok objects') :
    objects'.get? = cs.foldl Change.effect objects.get? := by
  induction cs generalizing objects with
  | nil => rw [Except.ok.inj h]; rfl
  | cons c cs ih =>
      obtain ⟨o, hc, hcs⟩ := applyAll_cons_iff.1 h
      rw [ih hcs, get?_apply hc, List.foldl_cons]

end Objects

end MeshSync.Dataplane
