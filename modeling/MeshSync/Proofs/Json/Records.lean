import Mathlib.Data.List.Nodup
import MeshSync.Dataplane.Model
import MeshSync.Proofs.Json.Reading

/-! # Records that are read back

    A record is written as an object of the fields that have a value, and where
    these stand does not matter to a reader: whatever their order,
    `Record.exists_read` gives a record that has them all and no others.  What
    is read of such a record is then said by one lemma for each way in which a
    field is asked for. -/

namespace MeshSync

/-! ## Order of fields -/

/-- An object with the same fields, which may stand in another order. -/
inductive Json.Reorders : Json → Json → Prop
  | object {fields fields' : List (String × Json)} (h : fields.Perm fields') :
      Reorders (.object fields) (.object fields')

/-- The order in which the fields of a value stand does not matter to whether it
    can be read. -/
theorem Json.Reorders.readable {j : Json} {entries : List (String × Option Json)}
    (h : j.Reorders (.present entries))
    (hentries : ∀ e ∈ entries, ∀ value ∈ e.2, value.source.Readable) : j.source.Readable := by
  obtain ⟨hperm⟩ := h
  refine Json.readable_object fun f hf => ?_
  obtain ⟨e, he, hvalue⟩ := List.mem_filterMap.1 (hperm.mem_iff.1 hf)
  obtain ⟨value, hsome, rfl⟩ := Option.map_eq_some_iff.1 hvalue
  exact hentries e he value hsome

/-! ## Readers and writers -/

/-- A reader that gives back what a writer was given; what is written is never
    null, which would say that there is nothing. -/
structure Reader.Inverts {α : Type} (read : Reader α) (write : α → Json) : Prop where
  back : ∀ a, read (write a).source = .ok a
  readable : ∀ a, (write a).source.Readable
  notNull : ∀ a, (write a).source ≠ .null

namespace Reader

theorem inverts_text : Inverts text .string where
  back _ := rfl
  readable s := .string s
  notNull _ h := nomatch h

theorem inverts_flag : Inverts flag .bool where
  back _ := rfl
  readable b := .bool b
  notNull _ h := nomatch h

/-- A number within the limit is read back. -/
theorem natural_ofNat {limit n : Nat} (type : String) (hlimit : limit ≤ Decimal.max64)
    (hn : n ≤ limit) : natural limit type (Json.ofNat n).source = .ok n := by
  have hnumber : Number.ofNumeral? (.ofNat n) = some (.natural n) := by
    simp [Number.ofNumeral?, Numeral.ofNat, Numeral.isInteger, Nat.le_trans hn hlimit]
  show natural limit type (.number (.ofNat n)) = _
  rw [natural, hnumber]
  exact if_pos hn

theorem inverts_word16 : Inverts word16 Dataplane.word16Json where
  back n := by
    have hn : n.toNat ≤ Decimal.max16 := Nat.le_sub_one_of_lt n.toNat_lt
    rw [word16, Dataplane.word16Json, natural_ofNat _ (by decide) hn]
    exact congrArg Except.ok UInt16.ofNat_toNat
  readable n := Json.readable_ofNat n.toNat
  notNull _ h := nomatch h

theorem inverts_word32 : Inverts word32 Dataplane.word32Json where
  back n := by
    have hn : n.toNat ≤ Decimal.max32 := Nat.le_sub_one_of_lt n.toNat_lt
    rw [word32, Dataplane.word32Json, natural_ofNat _ (by decide) hn]
    exact congrArg Except.ok UInt32.ofNat_toNat
  readable n := Json.readable_ofNat n.toNat
  notNull _ h := nomatch h

theorem inverts_word64 : Inverts word64 Dataplane.word64Json where
  back n := by
    have hn : n.toNat ≤ Decimal.max64 := Nat.le_sub_one_of_lt n.toNat_lt
    rw [word64, Dataplane.word64Json, natural_ofNat _ (by decide) hn]
    exact congrArg Except.ok UInt64.ofNat_toNat
  readable n := Json.readable_ofNat n.toNat
  notNull _ h := nomatch h

end Reader

/-! ## Records -/

namespace Record

/-- A record that was given these fields by their names, and no others. -/
structure Holds (r : Record) (entries : List (String × Option Json)) : Prop where
  byName : r.byPlace = false
  excess : r.excess = none
  given : ∀ e ∈ entries, r.given.lookup e.1 = e.2.map Json.source

theorem lookup_of_mem {fields : List (String × Source)} (hd : (fields.map (·.1)).Nodup)
    {name : String} {s : Source} (h : (name, s) ∈ fields) : fields.lookup name = some s := by
  induction fields with
  | nil => exact nomatch h
  | cons f fields ih =>
      obtain ⟨hf, hd⟩ := List.nodup_cons.1 hd
      rcases List.mem_cons.1 h with rfl | h
      · exact List.lookup_cons_self
      · have hne : (name == f.1) = false := by
          refine beq_false_of_ne ?_
          rintro rfl
          exact hf (List.mem_map_of_mem (f := (·.1)) h)
        rw [List.lookup_cons, hne]
        exact ih hd h

theorem lookup_of_not_mem {fields : List (String × Source)} {name : String}
    (h : name ∉ fields.map (·.1)) : fields.lookup name = none := by
  refine List.lookup_eq_none_iff.2 fun f hf => ?_
  rw [bne_iff_ne]
  rintro rfl
  exact h (List.mem_map_of_mem hf)

/-- Fields that are declared, each of them once, are all taken. -/
theorem ofFields_labelled {declared : List String} {fields : List (String × Source)}
    (hd : (fields.map (·.1)).Nodup) (hdeclared : ∀ f ∈ fields, f.1 ∈ declared) :
    ofFields declared (Source.labelled fields) = .ok fields := by
  induction fields with
  | nil => rfl
  | cons f fields ih =>
      obtain ⟨hf, hd⟩ := List.nodup_cons.1 hd
      have hcontains : declared.contains f.1 = true :=
        List.contains_iff_mem.2 (hdeclared f List.mem_cons_self)
      show (ofFields declared (Source.labelled fields)).bind _ = _
      rw [ih hd fun g hg => hdeclared g (List.mem_cons_of_mem _ hg)]
      show (if !declared.contains f.1 then _ else if (fields.lookup f.1).isSome then _ else _) = _
      rw [hcontains, lookup_of_not_mem hf]
      rfl

/-- The fields that have a value are among the entries, so each has its own name. -/
theorem nodup_present {entries : List (String × Option Json)} (hd : (entries.map (·.1)).Nodup) :
    ((entries.filterMap fun (name, value) => value.map (name, ·)).map (·.1)).Nodup := by
  refine hd.sublist ?_
  clear hd
  induction entries with
  | nil => exact .slnil
  | cons e entries ih =>
      obtain ⟨name, value⟩ := e
      cases value with
      | none => exact ih.cons name
      | some j => exact ih.cons_cons name

/-- **A record is read from its fields**, in whatever order they stand. -/
theorem exists_read {j : Json} {entries : List (String × Option Json)}
    (h : j.Reorders (.present entries)) (hd : (entries.map (·.1)).Nodup) (name : String)
    (declared : List String) (hdeclared : ∀ e ∈ entries, e.1 ∈ declared) :
    ∃ r, read name declared j.source = .ok r ∧ r.Holds entries := by
  obtain @⟨fields, _, hperm⟩ := h
  have hmem (key : String) (value : Json) :
      (key, value) ∈ fields ↔ (key, some value) ∈ entries := by
    rw [hperm.mem_iff, List.mem_filterMap]
    constructor
    · rintro ⟨e, he, hvalue⟩
      obtain ⟨v, hsome, heq⟩ := Option.map_eq_some_iff.1 hvalue
      rw [← (Prod.mk.inj heq).1, ← (Prod.mk.inj heq).2, ← hsome]
      exact he
    · intro he
      exact ⟨_, he, rfl⟩
  let given := fields.map fun f => (f.1, f.2.source)
  have hkeys : given.map (·.1) = fields.map (·.1) := by rw [List.map_map]; rfl
  have hgiven : (given.map (·.1)).Nodup := by
    rw [hkeys]
    exact (hperm.map (·.1)).nodup_iff.2 (nodup_present hd)
  have hfields : ofFields declared (Source.labelled given) = .ok given := by
    refine ofFields_labelled hgiven fun f hf => ?_
    obtain ⟨g, hg, rfl⟩ := List.mem_map.1 hf
    exact hdeclared (g.1, some g.2) ((hmem g.1 g.2).1 hg)
  refine ⟨⟨name, declared, false, given, none⟩, ?_, rfl, rfl, fun e he => ?_⟩
  · rw [Json.source, Json.fieldSources_eq]
    show (ofFields declared (Source.labelled given)).bind _ = _
    rw [hfields]
    rfl
  · -- a field is found if it is present; no other field goes by the name of one that is left out
    obtain ⟨key, value⟩ := e
    cases value with
    | some value =>
        exact lookup_of_mem hgiven (List.mem_map.2 ⟨(key, value), (hmem key value).2 he, rfl⟩)
    | none =>
        refine lookup_of_not_mem ?_
        rw [hkeys]
        intro hkey
        obtain ⟨f, hf, hname⟩ := List.mem_map.1 hkey
        have hf := (hmem f.1 f.2).1 hf
        exact Option.some_ne_none f.2
          (congrArg Prod.snd (List.inj_on_of_nodup_map hd hf he hname))

namespace Holds

variable {α : Type} {r : Record} {entries : List (String × Option Json)} {read : Reader α}
  {write : α → Json} {name : String}

theorem required (h : r.Holds entries) (hread : read.Inverts write) (a : α)
    (he : (name, some (write a)) ∈ entries) : r.required name read = .ok a := by
  have hlookup : r.given.lookup name = some (write a).source := h.given _ he
  rw [Record.required, field?, hlookup]
  show ((read (write a).source).map some).bind _ = _
  rw [hread.back]
  rfl

theorem defaulted (h : r.Holds entries) (hread : read.Inverts write) (a otherwise : α)
    (he : (name, some (write a)) ∈ entries) : r.defaulted name read otherwise = .ok a := by
  have hlookup : r.given.lookup name = some (write a).source := h.given _ he
  rw [Record.defaulted, field?, hlookup]
  show ((read (write a).source).map some).bind _ = _
  rw [hread.back]
  rfl

theorem option_source (hread : read.Inverts write) (a : α) :
    Reader.option read (write a).source = .ok (some a) := by
  rw [Reader.option, hread.back]
  · rfl
  · exact hread.notNull a

theorem optional (h : r.Holds entries) (hread : read.Inverts write) (v : Option α)
    (he : (name, v.map write) ∈ entries) : r.optional name read = .ok v := by
  have hlookup := h.given _ he
  rw [Record.optional, field?, hlookup]
  cases v with
  | none =>
      show (if r.byPlace then _ else _) = _
      rw [h.byName]
      rfl
  | some a =>
      show ((Reader.option read (write a).source).map some).bind _ = _
      rw [option_source hread]
      rfl

theorem closed (h : r.Holds entries) : r.closed = .ok () := by
  rw [Record.closed, h.excess]

end Holds

end Record

end MeshSync
