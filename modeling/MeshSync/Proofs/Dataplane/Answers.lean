import MeshSync.Proofs.Dataplane.WellFormed
import MeshSync.Proofs.Json.Records

/-! # What a client reads from answers

    The store's answers read back as what the store meant: the ticket of a
    transaction that was opened (`openedTicket_begin`), the version of a listing
    (`listedVersion_listing`), and the names in it.  `mem_listed` says which
    names these are: a body without a name is known by a number, and no number
    reads like a word. -/

namespace MeshSync

/-! ## Numbers are no words -/

namespace Binary64

theorem mem_strip {digits : List Char} {k : Int} {c : Char} (h : c ∈ (strip digits k).1) :
    c ∈ digits := List.mem_of_mem_take h

/-- The digits before the point are digits. -/
theorem isDigit_numeral (bits : UInt64) : ∀ c ∈ (numeral bits).whole, Decimal.isDigit c = true := by
  intro c hc
  have hzero : Decimal.isDigit '0' = true := by decide
  have hdigits : ∀ d ∈ (strip (Decimal.digits (shortest (parts bits)).1)
      (shortest (parts bits)).2).1, Decimal.isDigit d = true :=
    fun d hd => Decimal.isDigit_of_mem_digits d (mem_strip hd)
  rw [numeral] at hc
  dsimp only at hc
  split at hc
  · rwa [List.mem_singleton.1 hc]
  · split at hc
    · rcases List.mem_append.1 hc with hc | hc
      · exact hdigits c hc
      · rwa [List.eq_of_mem_replicate hc]
    · split at hc
      · exact hdigits c (List.mem_of_mem_take hc)
      · split at hc
        · rwa [List.mem_singleton.1 hc]
        · exact hdigits c (List.mem_of_mem_take hc)

end Binary64

/-- A numeral begins with a digit, a sign, a point or an exponent. -/
theorem Numeral.head?_chars {n : Numeral} (h : ∀ c ∈ n.whole, Decimal.isDigit c = true) {c : Char}
    (hc : n.chars.head? = some c) : Decimal.isDigit c = true ∨ c = '-' ∨ c = '.' ∨ c = 'e' := by
  obtain ⟨negative, whole, fraction, exponent⟩ := n
  cases negative with
  | true => exact .inr (.inl (Option.some.inj hc).symm)
  | false =>
      cases whole with
      | cons d ds => exact .inl (by rw [← Option.some.inj hc]; exact h d (by simp))
      | nil =>
          cases fraction with
          | cons d ds => exact .inr (.inr (.inl (Option.some.inj hc).symm))
          | nil =>
              match exponent with
              | none => exact nomatch hc
              | some (false, ds) => exact .inr (.inr (.inr (Option.some.inj hc).symm))
              | some (true, ds) => exact .inr (.inr (.inr (Option.some.inj hc).symm))

/-- The text of a number begins with no letter but the mark of an exponent. -/
theorem Number.head?_text {n : Number} {c : Char} (h : n.text.toList.head? = some c) :
    Decimal.isDigit c = true ∨ c = '-' ∨ c = '.' ∨ c = 'e' := by
  rw [Number.text, String.toList_ofList] at h
  refine Numeral.head?_chars ?_ h
  cases n with
  | natural n => exact Decimal.isDigit_of_mem_digits
  | negative n => exact Decimal.isDigit_of_mem_digits
  | real bits => exact Binary64.isDigit_numeral bits

namespace Dataplane

/-! ## Opened transactions -/

theorem opened_fields (id : String) (v : Nat) :
    Json.ofFields [("id", .string id), ("_version", .ofNat v), ("status", .string "in_progress")] =
      .object [("_version", .ofNat v), ("id", .string id), ("status", .string "in_progress")] := by
  have h1 : compare "_version" "id" = .lt := by decide
  have h2 : compare "status" "_version" = .gt := by decide
  have h3 : compare "status" "id" = .gt := by decide
  simp [Json.ofFields, SortedMap.ofList, SortedMap.insert, SortedMap.put, SortedMap.empty, h1, h2,
    h3]

/-- The ticket for a transaction that was opened. -/
theorem openedTicket_begin (id : String) (v tracked : UInt64) :
    Client.openedTicket tracked (.ofFields [("id", .string id), ("_version", .ofNat v.toNat),
      ("status", .string "in_progress")]) = .ok ⟨id, tracked⟩ := by
  have hrecord : Record.read "struct TransactionInfo" ["id", "_version", "status"]
      (Json.source (.object [("_version", .ofNat v.toNat), ("id", .string id),
        ("status", .string "in_progress")])) =
      .ok ⟨"struct TransactionInfo", ["id", "_version", "status"], false,
        [("_version", .number (.ofNat v.toNat)), ("id", .string (some id)),
          ("status", .string (some "in_progress"))], none⟩ := rfl
  have hread : TransactionInfo.read (Json.source (.object [("_version", .ofNat v.toNat),
      ("id", .string id), ("status", .string "in_progress")])) = .ok ⟨id, v, "in_progress"⟩ := by
    have hversion : Reader.word64 (.number (.ofNat v.toNat)) = .ok v :=
      Reader.inverts_word64.back v
    simp [TransactionInfo.read, hrecord, TransactionInfo.refusal?, hversion, Reader.text, bind,
      Except.bind, Record.required, Record.field?, Record.defaulted, Record.closed,
      List.lookup_cons, Except.map]
    rfl
  rw [Client.openedTicket, opened_fields, hread]

/-! ## Listings -/

theorem listing_fields (s : Store) (kind : String) :
    s.listing kind = .object [("_version", .ofNat s.version.toNat),
      ("data", .array ((s.objectsOf kind).map (·.2)))] := by
  have h1 : compare "data" "_version" = .gt := by decide
  simp [Store.listing, Json.ofFields, SortedMap.ofList, SortedMap.insert, SortedMap.put,
    SortedMap.empty, h1]

/-- The version of a listing is that of the store. -/
theorem listedVersion_listing (s : Store) (kind : String) :
    Client.listedVersion (s.listing kind) = .ok s.version := by
  have hfield : (s.listing kind).field? "_version" = some (.ofNat s.version.toNat) := by
    rw [listing_fields, Json.field?, SortedMap.find, if_pos Std.ReflCmp.compare_self]
  rw [Client.listedVersion, hfield]
  show Except.ok (UInt64.ofNat s.version.toNat) = _
  rw [UInt64.ofNat_toNat]

/-- The names in the listing of a collection, in order. -/
def Store.listed (s : Store) (kind : String) : List String :=
  (SortedMap.ofList ((((s.objectsOf kind).map (·.2)).filterMap fun o =>
    (o.field? "name").bind Json.string?).map (·, ()))).keys

theorem listedNames_listing (s : Store) (kind : String) :
    Client.listedNames kind (s.listing kind) = .ok (s.listed kind) := by
  have hfield : (s.listing kind).field? "data" =
      some (.array ((s.objectsOf kind).map (·.2))) := by
    have hne : compare "data" "_version" ≠ .eq := by decide
    rw [listing_fields, Json.field?, SortedMap.find, if_neg hne, SortedMap.find,
      if_pos Std.ReflCmp.compare_self]
  rw [Client.listedNames, hfield]
  rfl

/-- A text beginning with these letters is the name of an object whose body
    says so, and of no other. -/
theorem objectName?_eq_some {body : Json} {name : String} {c : Char}
    (hhead : name.toList.head? = some c) (hc : Decimal.isDigit c = false)
    (hsign : c ≠ '-' ∧ c ≠ '.' ∧ c ≠ 'e') :
    Command.objectName? body = some name ↔ body.field? "name" = some (.string name) := by
  rw [Command.objectName?]
  constructor
  · intro h
    split at h
    · rename_i n hn
      rw [hn, Option.some.inj h]
    · rename_i id _ hid
      rw [← Option.some.inj h] at hhead
      rcases Number.head?_text hhead with h | h | h | h
      · rw [h] at hc
        exact Bool.noConfusion hc
      · exact absurd h hsign.1
      · exact absurd h hsign.2.1
      · exact absurd h hsign.2.2
    · cases h
  · intro h
    rw [h]

theorem mem_objectsOf (s : Store) (kind : String) (k : ObjectKey) (v : Json) :
    (k, v) ∈ s.objectsOf kind ↔ s.objects.get? k = some v ∧ k.kind = kind := by
  rw [Store.objectsOf, List.mem_filter, SortedMap.mem_entries, decide_eq_true_iff]

theorem mem_listed_iff (s : Store) (kind name : String) :
    name ∈ s.listed kind ↔
      ∃ k v, s.objects.get? k = some v ∧ k.kind = kind ∧ v.field? "name" = some (.string name) := by
  have hnames : ∀ names : List String,
      name ∈ (SortedMap.ofList (names.map (·, ()))).keys ↔ name ∈ names := by
    intro names
    rw [SortedMap.mem_keys_ofList, List.map_map]
    simp
  rw [Store.listed, hnames, List.mem_filterMap]
  constructor
  · rintro ⟨o, ho, hname⟩
    obtain ⟨⟨k, v⟩, hkv, rfl⟩ := List.mem_map.1 ho
    obtain ⟨hk, hkind⟩ := (mem_objectsOf s kind k v).1 hkv
    refine ⟨k, v, hk, hkind, ?_⟩
    obtain ⟨j, hj, hstring⟩ := Option.bind_eq_some_iff.1 hname
    cases j with
    | string t => rw [hj, Option.some.inj hstring]
    | null => exact nomatch hstring
    | bool b => exact nomatch hstring
    | number n => exact nomatch hstring
    | array items => exact nomatch hstring
    | object fields => exact nomatch hstring
  · rintro ⟨k, v, hk, hkind, hname⟩
    exact ⟨v, List.mem_map.2 ⟨(k, v), (mem_objectsOf s kind k v).2 ⟨hk, hkind⟩, rfl⟩,
      by rw [hname]; rfl⟩

/-- An object that is listed under a name has it in its key. -/
theorem Objects.WellFormed.key_of_listed {o : Objects} (h : o.WellFormed) {k : ObjectKey}
    {v : Json} {name : String} {c : Char} (hk : o.get? k = some v)
    (hroot : k.kind = "frontends" ∨ k.kind = "backends") (hhead : name.toList.head? = some c)
    (hc : Decimal.isDigit c = false) (hsign : c ≠ '-' ∧ c ≠ '.' ∧ c ≠ 'e')
    (hname : v.field? "name" = some (.string name)) : k = ⟨k.kind, none, name⟩ := by
  have hnames := h.names k v hk
  have hnamed := (objectName?_eq_some hhead hc hsign).2 hname
  rw [← hnames.rooted hroot, ← Option.some.inj (hnames.named.symm.trans hnamed)]

/-- **Of well-formed objects, a listing names those that are there.** -/
theorem mem_listed {s : Store} (h : s.objects.WellFormed) {kind name : String} {c : Char}
    (hroot : kind = "frontends" ∨ kind = "backends") (hhead : name.toList.head? = some c)
    (hc : Decimal.isDigit c = false) (hsign : c ≠ '-' ∧ c ≠ '.' ∧ c ≠ 'e') :
    name ∈ s.listed kind ↔ ∃ v, s.objects.get? ⟨kind, none, name⟩ = some v := by
  rw [mem_listed_iff]
  constructor
  · rintro ⟨k, v, hk, rfl, hname⟩
    refine ⟨v, ?_⟩
    rw [← h.key_of_listed hk hroot hhead hc hsign hname]
    exact hk
  · rintro ⟨v, hv⟩
    exact ⟨_, v, hv, rfl, (objectName?_eq_some hhead hc hsign).1 (h.names _ v hv).named⟩

end Dataplane

end MeshSync
