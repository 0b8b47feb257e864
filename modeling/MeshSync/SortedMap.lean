/-! # Sorted maps

    Finite maps kept as a list of entries whose keys ascend strictly, so that
    a map has one representation and is read out in key order.  The main
    statements are `get?_insert`, `get?_erase` and `get?_filter`, which say
    what an operation does to the lookup, and `ext_get?`, by which two maps
    with the same lookup are the same map. -/

namespace MeshSync

open Std

variable {κ ν : Type}

/-- Entries in strictly ascending order of their keys. -/
def Ascending [Ord κ] (l : List (κ × ν)) : Prop :=
  l.Pairwise fun a b => compare a.1 b.1 = .lt

/-- A finite map read out in ascending key order. -/
structure SortedMap (κ ν : Type) [Ord κ] where
  entries : List (κ × ν)
  ascending : Ascending entries

namespace SortedMap

section Entries

variable [Ord κ]

/-- Put `v` under `k`, in place of what was there. -/
def put (k : κ) (v : ν) : List (κ × ν) → List (κ × ν)
  | [] => [(k, v)]
  | e :: es =>
    match compare k e.1 with
    | .lt => (k, v) :: e :: es
    | .eq => (k, v) :: es
    | .gt => e :: put k v es

/-- The value under `k`. -/
def find (k : κ) : List (κ × ν) → Option ν
  | [] => none
  | e :: es => if compare k e.1 = .eq then some e.2 else find k es

theorem mem_put {k : κ} {v : ν} {l : List (κ × ν)} {x : κ × ν}
    (h : x ∈ put k v l) : x = (k, v) ∨ x ∈ l := by
  induction l with
  | nil => exact .inl (by simpa [put] using h)
  | cons e es ih =>
    unfold put at h
    split at h
    · simpa using h
    · rcases List.mem_cons.1 h with h | h
      · exact .inl h
      · exact .inr (List.mem_cons_of_mem _ h)
    · rcases List.mem_cons.1 h with h | h
      · exact .inr (by simp [h])
      · rcases ih h with h | h
        · exact .inl h
        · exact .inr (List.mem_cons_of_mem _ h)

theorem find_eq_none_of_forall_lt {k : κ} {l : List (κ × ν)}
    (h : ∀ x ∈ l, compare k x.1 = .lt) : find k l = none := by
  induction l with
  | nil => rfl
  | cons e es ih =>
    have he := h e (by simp)
    simp [find, he, ih fun x hx => h x (List.mem_cons_of_mem _ hx)]

theorem find_put_self [ReflOrd κ] (k : κ) (v : ν) (l : List (κ × ν)) :
    find k (put k v l) = some v := by
  induction l with
  | nil => simp [put, find, ReflCmp.compare_self]
  | cons e es ih =>
    unfold put
    split
    · simp [find, ReflCmp.compare_self]
    · simp [find, ReflCmp.compare_self]
    · next hgt => simp [find, hgt, ih]

variable [TransOrd κ] [LawfulEqOrd κ]

/-- Putting an entry keeps the keys ascending. -/
theorem ascending_put (k : κ) (v : ν) {l : List (κ × ν)} (h : Ascending l) :
    Ascending (put k v l) := by
  induction l with
  | nil => simp [put, Ascending]
  | cons e es ih =>
    have hes := List.pairwise_cons.1 h
    unfold put
    split
    · next hlt =>
      refine List.pairwise_cons.2 ⟨fun x hx => ?_, h⟩
      rcases List.mem_cons.1 hx with rfl | hx
      · exact hlt
      · exact TransCmp.lt_trans hlt (hes.1 x hx)
    · next heq =>
      have hk : k = e.1 := LawfulEqCmp.eq_of_compare heq
      exact List.pairwise_cons.2 ⟨fun x hx => by simpa [hk] using hes.1 x hx, hes.2⟩
    · next hgt =>
      refine List.pairwise_cons.2 ⟨fun x hx => ?_, ih hes.2⟩
      rcases mem_put hx with rfl | hx
      · exact OrientedCmp.lt_of_gt hgt
      · exact hes.1 x hx

omit [TransOrd κ] in
theorem find_put_of_ne {j k : κ} (h : compare j k ≠ .eq) (v : ν) (l : List (κ × ν)) :
    find j (put k v l) = find j l := by
  induction l with
  | nil => simp [put, find, h]
  | cons e es ih =>
    unfold put
    split
    · simp [find, h]
    · next heq =>
      have hk : k = e.1 := LawfulEqCmp.eq_of_compare heq
      have hj : j ≠ e.1 := fun hj => h (by rw [hj, ← hk]; exact ReflCmp.compare_self)
      simp [find, hk, hj]
    · simp [find, ih]

/-- An ascending list of entries is determined by its lookup. -/
theorem eq_of_find_eq {l m : List (κ × ν)} (hl : Ascending l) (hm : Ascending m)
    (h : ∀ k, find k l = find k m) : l = m := by
  induction l generalizing m with
  | nil =>
    cases m with
    | nil => rfl
    | cons e es => simpa [find, ReflCmp.compare_self] using h e.1
  | cons d ds ih =>
    cases m with
    | nil => simpa [find, ReflCmp.compare_self] using h d.1
    | cons e es =>
      have hd := List.pairwise_cons.1 hl
      have he := List.pairwise_cons.1 hm
      -- the smaller of two unequal heads is found in one list only
      have hkey : d.1 = e.1 := by
        cases hc : compare d.1 e.1 with
        | eq => exact LawfulEqCmp.eq_of_compare hc
        | lt =>
          have hnone : find d.1 es = none :=
            find_eq_none_of_forall_lt fun x hx => TransCmp.lt_trans hc (he.1 x hx)
          simpa [find, ReflCmp.compare_self, hc, hnone] using h d.1
        | gt =>
          have hlt : compare e.1 d.1 = .lt := OrientedCmp.lt_of_gt hc
          have hnone : find e.1 ds = none :=
            find_eq_none_of_forall_lt fun x hx => TransCmp.lt_trans hlt (hd.1 x hx)
          simpa [find, ReflCmp.compare_self, hlt, hnone] using h e.1
      have hval : d.2 = e.2 := by
        simpa [find, ReflCmp.compare_self, hkey] using h d.1
      -- the tails agree: neither holds the head's key
      have hrest : ds = es := by
        refine ih hd.2 he.2 fun k => ?_
        cases hc : compare k e.1 with
        | eq =>
          have hk : k = e.1 := LawfulEqCmp.eq_of_compare hc
          have hds : find k ds = none :=
            find_eq_none_of_forall_lt fun x hx => by simpa [hk, hkey] using hd.1 x hx
          have hes : find k es = none :=
            find_eq_none_of_forall_lt fun x hx => by simpa [hk] using he.1 x hx
          rw [hds, hes]
        | lt => simpa [find, hkey, hc] using h k
        | gt => simpa [find, hkey, hc] using h k
      rw [hrest, Prod.ext hkey hval]

omit [TransOrd κ] in
theorem find_filter {p : κ → ν → Bool} {l : List (κ × ν)} (hl : Ascending l) (k : κ) :
    find k (l.filter fun e => p e.1 e.2) = (find k l).filter (p k) := by
  induction l with
  | nil => rfl
  | cons e es ih =>
    have he := List.pairwise_cons.1 hl
    have ih := ih he.2
    by_cases hc : compare k e.1 = .eq
    · have hk : k = e.1 := LawfulEqCmp.eq_of_compare hc
      have hnone : find k es = none :=
        find_eq_none_of_forall_lt fun x hx => by simpa [hk] using he.1 x hx
      by_cases hp : p e.1 e.2
      · simp [find, hk, hp, Option.filter, ReflCmp.compare_self]
      · rw [List.filter_cons_of_neg (by simpa using hp), ih, hnone]
        simp [find, hk, hp, Option.filter, ReflCmp.compare_self]
    · by_cases hp : p e.1 e.2
      · simp [hp, find, hc, ih]
      · simp [hp, find, hc, ih]

end Entries

variable [Ord κ]

/-- The map without entries. -/
def empty : SortedMap κ ν := ⟨[], .nil⟩

instance : EmptyCollection (SortedMap κ ν) := ⟨empty⟩

instance : Inhabited (SortedMap κ ν) := ⟨empty⟩

/-- The value under `k`. -/
def get? (m : SortedMap κ ν) (k : κ) : Option ν := find k m.entries

@[simp] theorem get?_empty (k : κ) : (empty : SortedMap κ ν).get? k = none := rfl

/-- Whether `k` has a value. -/
def contains (m : SortedMap κ ν) (k : κ) : Bool := (m.get? k).isSome

/-- The keys, ascending. -/
def keys (m : SortedMap κ ν) : List κ := m.entries.map (·.1)

/-- The values, in the order of their keys. -/
def values (m : SortedMap κ ν) : List ν := m.entries.map (·.2)

/-- Keep the entries that `p` accepts. -/
def filter (p : κ → ν → Bool) (m : SortedMap κ ν) : SortedMap κ ν where
  entries := m.entries.filter fun e => p e.1 e.2
  ascending := List.Pairwise.filter _ m.ascending

/-- Change every value, knowing its key. -/
def mapValues {μ : Type} (f : κ → ν → μ) (m : SortedMap κ ν) : SortedMap κ μ where
  entries := m.entries.map fun e => (e.1, f e.1 e.2)
  ascending := by
    have h := m.ascending
    simpa only [Ascending, List.pairwise_map] using h

/-- Drop what is under `k`. -/
def erase (m : SortedMap κ ν) (k : κ) : SortedMap κ ν :=
  m.filter fun j _ => compare j k != .eq

variable [TransOrd κ] [LawfulEqOrd κ]

/-- Put `v` under `k`, in place of what was there. -/
def insert (m : SortedMap κ ν) (k : κ) (v : ν) : SortedMap κ ν where
  entries := put k v m.entries
  ascending := ascending_put k v m.ascending

/-- Put the entries one after another; of a repeated key the last value stays. -/
def ofList (l : List (κ × ν)) : SortedMap κ ν :=
  l.foldl (fun m e => m.insert e.1 e.2) empty

theorem ext_get? {m n : SortedMap κ ν} (h : ∀ k, m.get? k = n.get? k) : m = n := by
  cases m with
  | mk l hl =>
    cases n with
    | mk r hr =>
      have : l = r := eq_of_find_eq hl hr h
      subst this
      rfl

theorem get?_insert (m : SortedMap κ ν) (j k : κ) (v : ν) :
    (m.insert k v).get? j = if compare j k = .eq then some v else m.get? j := by
  by_cases h : compare j k = .eq
  · have hj : j = k := LawfulEqCmp.eq_of_compare h
    simp [get?, insert, hj, find_put_self, ReflCmp.compare_self]
  · simp [get?, insert, h, find_put_of_ne h]

omit [TransOrd κ] in
theorem get?_filter (p : κ → ν → Bool) (m : SortedMap κ ν) (k : κ) :
    (m.filter p).get? k = (m.get? k).filter (p k) :=
  find_filter m.ascending k

omit [TransOrd κ] in
theorem get?_erase (m : SortedMap κ ν) (j k : κ) :
    (m.erase k).get? j = if compare j k = .eq then none else m.get? j := by
  rw [erase, get?_filter]
  by_cases h : compare j k = .eq
  · simp [h, Option.filter]
    cases m.get? j <;> rfl
  · have : (compare j k != .eq) = true := by simpa using h
    simp only [this, if_neg h]
    cases m.get? j <;> rfl

end SortedMap

end MeshSync
