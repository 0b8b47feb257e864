import MeshSync.Proofs.Dataplane.Exchange

/-! # Telling conflicts of versions from other refusals

    A client learns why it was refused from a code and a text.  The code of a
    version that moved is also that of an object that is already there, so
    `Error.isVersionConflict` looks for the word in the text, which quotes the
    collection and the name of the object.

    The word has no blank in it, so it stands in a quoted text only where it
    stands in one of the parts (`spellsVersion_spaced`).  From this follows
    which refusals are taken for conflicts (`Refusal.isVersionConflict_iff`),
    and from what a store refuses, when a client is right about it
    (`conflicts_recognised`): always, but for objects whose name spells the
    word. -/

namespace MeshSync.Text

/-! ## Where a word stands in a text -/

theorem occursIn_iff_infix {part cs : List Char} : occursIn part cs = true ↔ part <:+: cs := by
  induction cs with
  | nil => rw [occursIn, List.isEmpty_iff, List.infix_nil]
  | cons c cs ih =>
      rw [occursIn, Bool.or_eq_true, List.isPrefixOf_iff_prefix, ih, List.infix_cons_iff]

/-- A word stands on one side of a character that is not in it. -/
theorem infix_append_cons_iff {part xs ys : List Char} {c : Char} (hc : c ∉ part)
    (hne : part ≠ []) : part <:+: xs ++ c :: ys ↔ part <:+: xs ∨ part <:+: ys := by
  have hfirst : ∀ l, l ≠ [] → l <+: c :: ys → c ∈ l := by
    intro l hl hprefix
    obtain ⟨d, rest, rfl⟩ := List.exists_cons_of_ne_nil hl
    rw [(List.cons_prefix_cons.1 hprefix).1]
    exact List.mem_cons_self
  constructor
  · intro h
    rcases List.infix_append_iff_ne_nil.1 h with hxs | hys | ⟨l, m, -, hm, rfl, -, hprefix⟩
    · exact .inl hxs
    · rcases List.infix_cons_iff.1 hys with hprefix | hys
      · exact absurd (hfirst part hne hprefix) hc
      · exact .inr hys
    · exact absurd (List.mem_append_right l (hfirst m hm hprefix)) hc
  · rintro (hxs | hys)
    · exact List.infix_append_of_infix_left hxs
    · exact List.infix_append_of_infix_right (List.infix_cons hys)

end MeshSync.Text

namespace MeshSync.Dataplane

open Url (PlainSegment)

/-- Whether a text has the word in it that conflicts of versions are told by,
    in capitals or not. -/
def SpellsVersion (text : String) : Prop := Text.contains (Text.lower text) "version" = true

instance (text : String) : Decidable (SpellsVersion text) := inferInstanceAs (Decidable (_ = true))

/-- The word stands on one side of a blank. -/
theorem spellsVersion_spaced (a b : String) :
    SpellsVersion (a ++ " " ++ b) ↔ SpellsVersion a ∨ SpellsVersion b := by
  have hsides : (Text.lower (a ++ " " ++ b)).toList =
      (Text.lower a).toList ++ ' ' :: (Text.lower b).toList := by
    simp [Text.lower, Text.lowerAscii]
  rw [SpellsVersion, SpellsVersion, SpellsVersion, Text.contains, Text.contains, Text.contains,
    hsides, Text.occursIn_iff_infix, Text.occursIn_iff_infix, Text.occursIn_iff_infix]
  exact Text.infix_append_cons_iff (by decide) (by decide)

/-! ## Which refusals are taken for conflicts -/

namespace Refusal

theorem spellsVersion_mismatch (current : UInt64) : SpellsVersion (mismatch current).message := by
  have htext : (mismatch current).message =
      "version" ++ " " ++ ("mismatch: store at " ++ toString current) := by
    have hlead : "version mismatch: store at " = "version" ++ " " ++ "mismatch: store at " := by
      decide
    show "version mismatch: store at " ++ toString current = _
    rw [hlead, String.append_assoc]
  rw [htext, spellsVersion_spaced]
  exact .inl (by decide)

theorem spellsVersion_stale (opened current : UInt64) :
    SpellsVersion (stale opened current).message := by
  have htext : (stale opened current).message = "transaction opened at" ++ " " ++
      ("version" ++ " " ++ (toString opened ++ ", store at " ++ toString current)) := by
    have hlead : "transaction opened at version " =
        "transaction opened at" ++ " " ++ ("version" ++ " ") := by decide
    show "transaction opened at version " ++ toString opened ++ ", store at " ++
      toString current = _
    rw [hlead]
    simp only [String.append_assoc]
  rw [htext, spellsVersion_spaced, spellsVersion_spaced]
  exact .inr (.inl (by decide))

/-- Of an object that is already there its collection and name are told. -/
theorem spellsVersion_present (key : ObjectKey) :
    SpellsVersion (conflict (.present key)).message ↔
      SpellsVersion key.kind ∨ SpellsVersion key.name := by
  have htext : (conflict (.present key)).message =
      key.kind ++ " " ++ (key.name ++ " " ++ "already exists") := by
    have htail : " already exists" = " " ++ "already exists" := by decide
    show key.kind ++ " " ++ key.name ++ " already exists" = _
    rw [htail]
    simp only [String.append_assoc]
  have hrest : ¬ SpellsVersion "already exists" := by decide
  rw [htext, spellsVersion_spaced, spellsVersion_spaced, or_iff_left hrest]

/-- **What is taken for a conflict of versions**: those, and objects that are
    already there and spell the word. -/
theorem isVersionConflict_iff (refusal : Refusal) (r : Request) :
    (refusal.error r).isVersionConflict = true ↔
      (∃ current, refusal = .mismatch current) ∨ (∃ opened current, refusal = .stale opened current) ∨
        ∃ key, refusal = .conflict (.present key) ∧
          (SpellsVersion key.kind ∨ SpellsVersion key.name) := by
  have hread : (refusal.error r).isVersionConflict = true ↔
      refusal.code = 409 ∧ SpellsVersion refusal.message := by
    rw [error, Error.isVersionConflict, Bool.and_eq_true, decide_eq_true_eq, SpellsVersion]
  rw [hread]
  cases refusal with
  | mismatch current => simp [code, spellsVersion_mismatch]
  | stale opened current => simp [code, spellsVersion_stale]
  | conflict cause =>
      cases cause with
      | present key => simp [code, spellsVersion_present]
      | absent key => simp [code]
  | _ => simp [code]

end Refusal

/-! ## What a store refuses -/

section

variable {paths : TlsMaterial → Certificates.Paths} {s s' : Store}

theorem answer_refused {r : Request} {c : Command} {refusal : Refusal}
    (hr : Command.ofRequest r = .ok c) (h : (s.perform c).2 = .error refusal) :
    (s.answer r).2 = .error (refusal.error r) := by
  have hhandle : s.handle r = s.perform c := by rw [Store.handle, hr]
  rcases answer_cases s r with ⟨s₁, j, hs, -⟩ | ⟨s₁, refusal', hs, hanswer⟩
  · rw [← hhandle, hs] at h
    cases h
  · rw [← hhandle, hs] at h
    rw [hanswer, Except.error.inj h]

/-- A transaction is refused only at another version than the current one. -/
theorem begin_refused {v : UInt64} {e : Error}
    (h : (Client.begin v).run (calm paths) s = (s', .error e)) :
    v ≠ s.version ∧ e.isVersionConflict = true := by
  by_cases hv : v = s.version
  · obtain ⟨s₁, ticket, hrun, -⟩ := run_begin paths (s := s)
    rw [hv, hrun] at h
    cases (Prod.mk.inj h).2
  · have hperform : (s.perform (.begin v)).2 = .error (.mismatch s.version) := by
      rw [Store.perform, Store.begin, if_pos hv]
    rw [Client.begin, run_ask, answer_refused (ofRequest_begin v) hperform] at h
    rw [← Except.error.inj (Prod.mk.inj h).2]
    exact ⟨hv, (Refusal.isVersionConflict_iff _ _).2 (.inl ⟨_, rfl⟩)⟩

/-- The error of a commit that was sent is a refusal of the store. -/
theorem commit_refused {ticket : Ticket} {e : Error} (hid : PlainSegment ticket.id.toList)
    (h : (Client.commit ticket.version ticket).run (calm paths) s = (s', .error e)) :
    ∃ refusal r, (s.perform (.commit ticket.id)).2 = .error refusal ∧ e = refusal.error r := by
  rw [Client.commit, if_neg (not_not.2 rfl), run_ask] at h
  have hanswer := (Prod.mk.inj h).2
  cases hperform : (s.perform (.commit ticket.id)).2 with
  | ok j =>
      rw [answer_eq (ofRequest_commit hid) (Prod.ext rfl hperform)] at hanswer
      cases hanswer
  | error refusal =>
      rw [answer_refused (ofRequest_commit hid) hperform] at hanswer
      exact ⟨refusal, _, rfl, (Except.error.inj hanswer).symm⟩

/-- Whether an open transaction was opened at another version than the current
    one. -/
def Store.Outran (s : Store) (id : String) : Prop :=
  ∃ t, s.transactions.get? id = some t ∧ t.version ≠ s.version

/-- Whether a transaction that was opened at the current version is to create
    this object where there is one already. -/
def Store.Repeats (s : Store) (id : String) (key : ObjectKey) : Prop :=
  ∃ t, s.transactions.get? id = some t ∧ t.version = s.version ∧
    s.objects.applyAll t.changes = .error (.present key)

/-- The reasons for which a commit is refused. -/
theorem refusal_of_commit {id : String} {refusal : Refusal}
    (h : (s.perform (.commit id)).2 = .error refusal) :
    ((∃ opened current, refusal = .stale opened current) ↔ s.Outran id) ∧
      (∀ key, refusal = .conflict (.present key) ↔ s.Repeats id key) ∧
      ∀ current, refusal ≠ .mismatch current := by
  rw [Store.perform, Store.commit] at h
  cases ht : s.transactions.get? id with
  | none =>
      rw [ht] at h
      obtain rfl := Except.error.inj h
      simp [Store.Outran, Store.Repeats, ht]
  | some t =>
      rw [ht] at h
      dsimp only at h
      by_cases hv : t.version ≠ s.version
      · rw [if_pos hv] at h
        obtain rfl := Except.error.inj h
        simp [Store.Outran, Store.Repeats, ht, hv]
      · rw [if_neg hv] at h
        have hv := not_not.1 hv
        cases happly : s.objects.applyAll t.changes with
        | ok objects =>
            rw [happly] at h
            cases h
        | error cause =>
            rw [happly] at h
            obtain rfl := Except.error.inj h
            simp [Store.Outran, Store.Repeats, ht, hv, happly]

end

/-! ## A name that is there already -/

/-- A frontend is created twice: the first transaction is committed, the second
    is open. -/
def creatingTwice (f : Frontend) : List Command :=
  let change := (Operation.createFrontend f).change
  [.begin 1, .stage (transactionId 1) change, .commit (transactionId 1),
    .begin 2, .stage (transactionId 2) change]

/-- The store after these commands. -/
def createdTwice (f : Frontend) : Store :=
  (creatingTwice f).foldl (fun s c => (s.perform c).1) (.new 1)

theorem createdTwice_repeats (f : Frontend) :
    (createdTwice f).version = 2 ∧
      (createdTwice f).Repeats (transactionId 2) (.frontend f.name) := by
  have hnext : (1 : UInt64) + 1 = 2 := rfl
  have habsent : (∅ : Objects).get? (.frontend f.name) = none := rfl
  simp [createdTwice, creatingTwice, Operation.change, Store.new, Store.perform, Store.begin,
    Store.stage, Store.commit, Store.Repeats, Objects.applyAll, Objects.apply,
    SortedMap.get?_insert_self, SortedMap.contains, habsent, hnext]

/-- The second commit is refused, and the refusal taken for a conflict of
    versions just if the word is in the name. -/
theorem commit_second (paths : TlsMaterial → Certificates.Paths) (f : Frontend) :
    ∃ s' e, (Client.commit 2 ⟨transactionId 2, 2⟩).run (calm paths) (createdTwice f) =
        (s', .error e) ∧ (e.isVersionConflict = true ↔ SpellsVersion f.name) := by
  obtain ⟨-, t, ht, hv, happly⟩ := createdTwice_repeats f
  have hperform : ((createdTwice f).perform (.commit (transactionId 2))).2 =
      .error (.conflict (.present (.frontend f.name))) := by
    rw [Store.perform, Store.commit, ht]
    dsimp only
    rw [if_neg (not_not.2 hv), happly]
  have hkind : ¬ SpellsVersion "frontends" := by decide
  rw [Client.commit, if_neg (not_not.2 rfl), run_ask,
    answer_refused (ofRequest_commit (plain_transactionId 2)) hperform]
  refine ⟨_, _, rfl, ?_⟩
  rw [Refusal.isVersionConflict_iff]
  simp [ObjectKey.frontend, hkind]

/-! ## What a client takes for a conflict -/

/-- **Conflicts of versions are recognised.**  A client is refused a transaction
    just if the version it asks for is not the store's, and takes that for a
    conflict.  An error of a commit is taken for one just if the version moved,
    for the client itself or in the store, or if the transaction, opened at the
    current version, is to create an object that is already there and whose
    collection or name spells the word. -/
theorem conflicts_recognised (paths : TlsMaterial → Certificates.Paths) (s : Store)
    (tracked : UInt64) (ticket : Ticket) (hid : PlainSegment ticket.id.toList) :
    ((∃ s' e, (Client.begin tracked).run (calm paths) s = (s', .error e)) ↔
      tracked ≠ s.version) ∧
    (∀ s' e, (Client.begin tracked).run (calm paths) s = (s', .error e) →
      e.isVersionConflict = true) ∧
    ∀ s' e, (Client.commit tracked ticket).run (calm paths) s = (s', .error e) →
      (e.isVersionConflict = true ↔
        tracked ≠ ticket.version ∨ s.Outran ticket.id ∨
          ∃ key, s.Repeats ticket.id key ∧ (SpellsVersion key.kind ∨ SpellsVersion key.name)) := by
  refine ⟨⟨?_, fun hv => ?_⟩, fun s' e h => (begin_refused h).2, fun s' e h => ?_⟩
  · rintro ⟨s', e, h⟩
    exact (begin_refused h).1
  · obtain ⟨e, he⟩ := run_begin_stale paths hv
    exact ⟨s, e, he⟩
  · by_cases hv : tracked = ticket.version
    · rw [hv] at h
      obtain ⟨refusal, r, hrefusal, rfl⟩ := commit_refused hid h
      obtain ⟨hstale, hpresent, hmismatch⟩ := refusal_of_commit hrefusal
      rw [refusal.isVersionConflict_iff, hstale, or_iff_right (not_exists.2 hmismatch),
        or_iff_right (not_not.2 hv)]
      simp only [hpresent]
    · rw [Client.commit, if_pos hv] at h
      rw [← Except.error.inj (Prod.mk.inj h).2]
      exact ⟨fun _ => .inl hv, fun _ => rfl⟩

/-- A frontend is created twice under a name without the word: a transaction at
    the version before is refused as a conflict, the second commit is not. -/
theorem web_told_apart :
    let store := createdTwice { (default : Frontend) with name := "web" }
    (∃ s' e, (Client.begin 1).run (calm fun _ => default) store = (s', .error e) ∧
        e.isVersionConflict = true) ∧
      ∃ s' e, (Client.commit 2 ⟨transactionId 2, 2⟩).run (calm fun _ => default) store =
        (s', .error e) ∧ e.isVersionConflict = false := by
  obtain ⟨hversion, t, ht, hv, happly⟩ :=
    createdTwice_repeats { (default : Frontend) with name := "web" }
  obtain ⟨hbegin, hconflict, -⟩ := conflicts_recognised (fun _ => default)
    (createdTwice { (default : Frontend) with name := "web" }) 1
    ⟨transactionId 2, 2⟩ (plain_transactionId 2)
  obtain ⟨-, -, hcommit⟩ := conflicts_recognised (fun _ => default)
    (createdTwice { (default : Frontend) with name := "web" }) 2
    ⟨transactionId 2, 2⟩ (plain_transactionId 2)
  refine ⟨?_, ?_⟩
  · obtain ⟨s', e, h⟩ := hbegin.2 (by rw [hversion]; decide)
    exact ⟨s', e, h, hconflict s' e h⟩
  · obtain ⟨s', e, h, -⟩ := commit_second (fun _ => default)
      { (default : Frontend) with name := "web" }
    refine ⟨s', e, h, Bool.eq_false_iff.2 fun htrue => ?_⟩
    rcases (hcommit s' e h).1 htrue with hne | ⟨t', ht', hne⟩ | ⟨key, ⟨t', ht', -, hkey⟩, hword⟩
    · exact hne rfl
    · rw [ht, Option.some.injEq] at ht'
      exact hne (ht' ▸ hv)
    · rw [ht, Option.some.injEq] at ht'
      rw [← ht', happly] at hkey
      obtain rfl : ObjectKey.frontend "web" = key := by injections
      revert hword
      decide

/-- **An object that is already there is taken for a conflict of versions** if
    its name spells the word: the transaction was opened at the version that the
    store has. -/
theorem versions_taken_for_conflict :
    let store := createdTwice { (default : Frontend) with name := "versions" }
    ¬ store.Outran (transactionId 2) ∧
      ∃ s' e, (Client.commit 2 ⟨transactionId 2, 2⟩).run (calm fun _ => default) store =
        (s', .error e) ∧ e.isVersionConflict = true := by
  obtain ⟨-, t, ht, hv, -⟩ := createdTwice_repeats { (default : Frontend) with name := "versions" }
  obtain ⟨s', e, h, hword⟩ := commit_second (fun _ => default)
    { (default : Frontend) with name := "versions" }
  refine ⟨?_, s', e, h, hword.2 (by decide)⟩
  rintro ⟨t', ht', hne⟩
  rw [ht, Option.some.injEq] at ht'
  exact hne (ht' ▸ hv)

end MeshSync.Dataplane
