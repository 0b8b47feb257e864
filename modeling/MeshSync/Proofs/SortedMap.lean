import Mathlib.Data.List.Induction
import Mathlib.Data.List.Nodup
import MeshSync.SortedMap

/-! # Entries and lookups of sorted maps

    The entries of a map are what its lookup gives, and a map that was made
    from a list looks up the last entry for a key. -/

namespace MeshSync

open Std

variable {κ ν : Type} [Ord κ]

namespace SortedMap

variable [TransOrd κ] [LawfulEqOrd κ]

omit [TransOrd κ] in
/-- Keys of which one comes before the other differ. -/
theorem ne_of_compare_lt {j k : κ} (h : compare j k = .lt) : j ≠ k := by
  rintro rfl
  have hself : compare j j = .eq := ReflCmp.compare_self
  rw [hself] at h
  exact Ordering.noConfusion h

omit [TransOrd κ] in
/-- Only equal keys compare as such. -/
theorem compare_eq_iff {j k : κ} : compare j k = .eq ↔ j = k := by
  refine ⟨LawfulEqCmp.eq_of_compare, ?_⟩
  rintro rfl
  exact ReflCmp.compare_self

omit [TransOrd κ] in
/-- In an ascending list every entry is the one that is found. -/
theorem mem_iff_find {l : List (κ × ν)} (hl : Ascending l) (k : κ) (v : ν) :
    (k, v) ∈ l ↔ find k l = some v := by
  induction l with
  | nil => simp [find]
  | cons e es ih =>
      have he := List.pairwise_cons.1 hl
      have ih := ih he.2
      by_cases hk : compare k e.1 = .eq
      · have heq : k = e.1 := LawfulEqCmp.eq_of_compare hk
        have habsent : (k, v) ∉ es := by
          intro hmem
          exact ne_of_compare_lt (he.1 _ hmem) heq.symm
        rw [find, if_pos hk, Option.some.injEq, List.mem_cons]
        constructor
        · rintro (h | h)
          · exact (congrArg Prod.snd h).symm
          · exact absurd h habsent
        · rintro rfl
          exact .inl (by rw [heq])
      · have hne : k ≠ e.1 := fun h => hk (compare_eq_iff.2 h)
        rw [find, if_neg hk, ← ih, List.mem_cons]
        constructor
        · rintro (h | h)
          · exact absurd (congrArg Prod.fst h) hne
          · exact h
        · exact .inr

omit [TransOrd κ] in
/-- The entries of a map are what is found in it. -/
theorem mem_entries (m : SortedMap κ ν) (k : κ) (v : ν) :
    (k, v) ∈ m.entries ↔ m.get? k = some v :=
  mem_iff_find m.ascending k v

omit [TransOrd κ] [LawfulEqOrd κ] in
/-- A map has the keys under which something is found. -/
theorem contains_iff (m : SortedMap κ ν) (k : κ) : m.contains k = true ↔ ∃ v, m.get? k = some v :=
  Option.isSome_iff_exists

omit [TransOrd κ] [LawfulEqOrd κ] in
/-- Under all others nothing is found. -/
theorem not_contains_iff (m : SortedMap κ ν) (k : κ) :
    m.contains k = false ↔ m.get? k = none := by
  rw [contains, Option.isSome_eq_false_iff, Option.isNone_iff_eq_none]

omit [TransOrd κ] in
/-- Its keys are those it has. -/
theorem mem_keys (m : SortedMap κ ν) (k : κ) : k ∈ m.keys ↔ ∃ v, m.get? k = some v := by
  rw [keys, List.mem_map]
  constructor
  · rintro ⟨⟨k', v⟩, hmem, rfl⟩
    exact ⟨v, (mem_entries m k' v).1 hmem⟩
  · rintro ⟨v, hv⟩
    exact ⟨(k, v), (mem_entries m k v).2 hv, rfl⟩

omit [TransOrd κ] in
/-- The keys of a map differ from each other. -/
theorem nodup_keys (m : SortedMap κ ν) : m.keys.Nodup := by
  rw [keys, List.Nodup, List.pairwise_map]
  exact m.ascending.imp ne_of_compare_lt

/-- What is inserted is found. -/
theorem get?_insert_self (m : SortedMap κ ν) (k : κ) (v : ν) :
    (m.insert k v).get? k = some v := by
  rw [get?_insert, if_pos ReflCmp.compare_self]

/-- Inserting leaves what is found under other keys. -/
theorem get?_insert_of_ne (m : SortedMap κ ν) {j k : κ} (h : j ≠ k) (v : ν) :
    (m.insert k v).get? j = m.get? j := by
  rw [get?_insert, if_neg fun hjk => h (LawfulEqCmp.eq_of_compare hjk)]

omit [TransOrd κ] in
/-- What is erased is not found. -/
theorem get?_erase_self (m : SortedMap κ ν) (k : κ) : (m.erase k).get? k = none := by
  rw [get?_erase, if_pos ReflCmp.compare_self]

omit [TransOrd κ] in
/-- Erasing leaves what is found under other keys. -/
theorem get?_erase_of_ne (m : SortedMap κ ν) {j k : κ} (h : j ≠ k) :
    (m.erase k).get? j = m.get? j := by
  rw [get?_erase, if_neg fun hjk => h (LawfulEqCmp.eq_of_compare hjk)]

omit [TransOrd κ] [LawfulEqOrd κ] in
/-- Changing the values leaves the keys in their order. -/
theorem entries_mapValues {μ : Type} (f : κ → ν → μ) (m : SortedMap κ ν) :
    (m.mapValues f).entries = m.entries.map fun e => (e.1, f e.1 e.2) :=
  rfl

omit [TransOrd κ] in
/-- What is found then is the changed value. -/
theorem get?_mapValues {μ : Type} (f : κ → ν → μ) (m : SortedMap κ ν) (k : κ) :
    (m.mapValues f).get? k = (m.get? k).map (f k) := by
  refine Option.ext fun v => ?_
  rw [← mem_entries, entries_mapValues, List.mem_map, Option.map_eq_some_iff]
  constructor
  · rintro ⟨⟨j, u⟩, hmem, heq⟩
    obtain ⟨rfl, rfl⟩ := Prod.mk.inj heq
    exact ⟨u, (mem_entries m j u).1 hmem, rfl⟩
  · rintro ⟨u, hu, rfl⟩
    exact ⟨(k, u), (mem_entries m k u).2 hu, rfl⟩

/-- The last entry of a list is inserted last. -/
theorem ofList_append_single (l : List (κ × ν)) (e : κ × ν) :
    ofList (l ++ [e]) = (ofList l).insert e.1 e.2 := by
  rw [ofList, ofList, List.foldl_append]
  rfl

/-- A map made from a list holds nothing but what the list holds. -/
theorem mem_of_get?_ofList {l : List (κ × ν)} {k : κ} {v : ν}
    (h : (ofList l).get? k = some v) : (k, v) ∈ l := by
  induction l using List.reverseRecOn with
  | nil => exact nomatch h
  | append_singleton l e ih =>
      rw [ofList_append_single] at h
      by_cases hk : k = e.1
      · subst hk
        rw [get?_insert_self] at h
        rw [← Option.some.inj h]
        simp
      · rw [get?_insert_of_ne _ hk] at h
        exact List.mem_append_left _ (ih h)

/-- A key that a list holds has a value in the map made from it. -/
theorem exists_get?_ofList {l : List (κ × ν)} {k : κ} {v : ν} (h : (k, v) ∈ l) :
    ∃ w, (ofList l).get? k = some w := by
  induction l using List.reverseRecOn with
  | nil => exact nomatch h
  | append_singleton l e ih =>
      rw [ofList_append_single]
      by_cases hk : k = e.1
      · subst hk
        exact ⟨e.2, get?_insert_self _ _ _⟩
      · rw [get?_insert_of_ne _ hk]
        refine ih ((List.mem_append.1 h).resolve_right fun he => hk ?_)
        rw [← List.mem_singleton.1 he]

/-- The keys of a map that is made of a list are those of the list. -/
theorem mem_keys_ofList {l : List (κ × ν)} {k : κ} : k ∈ (ofList l).keys ↔ k ∈ l.map (·.1) := by
  rw [mem_keys, List.mem_map]
  constructor
  · rintro ⟨v, hv⟩
    exact ⟨(k, v), mem_of_get?_ofList hv, rfl⟩
  · rintro ⟨⟨k', v⟩, hmem, rfl⟩
    exact exists_get?_ofList hmem

/-- Where the keys of a list differ, the map made from it holds all of it. -/
theorem get?_ofList {l : List (κ × ν)} (hd : (l.map (·.1)).Nodup) (k : κ) (v : ν) :
    (ofList l).get? k = some v ↔ (k, v) ∈ l := by
  refine ⟨mem_of_get?_ofList, fun hmem => ?_⟩
  obtain ⟨w, hw⟩ := exists_get?_ofList hmem
  have hmem' := mem_of_get?_ofList hw
  have heq : (k, w) = (k, v) := List.inj_on_of_nodup_map hd hmem' hmem rfl
  rw [hw, (Prod.mk.inj heq).2]

/-- The keys of a map of texts ascend. -/
theorem pairwise_keys {ν : Type} (m : SortedMap String ν) : m.keys.Pairwise (· < ·) :=
  List.pairwise_map.2 (m.ascending.imp fun h => compareOfLessAndEq_eq_lt.1 h)

end SortedMap

end MeshSync
