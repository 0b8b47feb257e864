import Mathlib.Data.List.Forall2
import Mathlib.Data.List.Perm.Basic
import MeshSync.Mesh.Health

/-! # Selecting endpoints

    What is selected of a list of instances is fixed by two properties: the
    endpoints are in order, and each stands there as often as there are
    instances that give it (`Selection`).  Two lists with both are the same
    (`Selection.unique`), so nothing depends on the order in which instances or
    their checks are told.

    The health of an instance is that of its worst check: no check is worse, and
    nothing that no check is worse than is better (`Status.severity_worst_le`).
    So it depends only on which healths there are among the checks, and another
    check makes it no better. -/

namespace MeshSync

open Std (TransOrd)

/-! ## Endpoints in order -/

namespace Endpoint

variable {a b e : Endpoint}

/-- Whether an endpoint may stand before another: by host, then by port, then by
    weight. -/
def Before (a b : Endpoint) : Prop :=
  a.host < b.host ∨
    (a.host = b.host ∧ (a.port < b.port ∨ (a.port = b.port ∧ a.weight ≤ b.weight)))

instance : TransOrd Endpoint :=
  inferInstanceAs (Std.TransCmp (compareLex (compareOn Endpoint.host)
    (compareLex (compareOn Endpoint.port) (compareOn Endpoint.weight))))

/-- The order in which endpoints are sorted is the one that is meant. -/
theorem le_iff_before : le a b = true ↔ Before a b := by
  have hhost : compare a.host b.host = .lt ↔ a.host < b.host := compareOfLessAndEq_eq_lt
  show ((compare a.host b.host).then
    ((compare a.port b.port).then (compare a.weight b.weight))).isLE = true ↔ _
  rw [Ordering.isLE_then_iff_or, Ordering.isLE_then_iff_or, hhost, Std.compare_eq_iff_eq,
    Std.compare_eq_lt, Std.compare_eq_iff_eq, Std.isLE_compare, Before]

/-- **Sorted endpoints are in order.** -/
theorem pairwise_sort (es : List Endpoint) : (sort es).Pairwise Before := by
  have htrans : ∀ a b c : Endpoint, le a b = true → le b c = true → le a c = true :=
    fun _ _ _ hab hbc => Std.TransCmp.isLE_trans hab hbc
  have htotal : ∀ a b : Endpoint, (le a b || le b a) = true := by
    intro a b
    have hswap : compare a b = (compare b a).swap := Std.OrientedCmp.eq_swap
    rw [le, le, hswap]
    cases compare b a <;> rfl
  exact (List.pairwise_mergeSort htrans htotal es).imp le_iff_before.1

/-- Endpoints that may stand on both sides of each other are the same. -/
theorem Before.antisymm (hab : Before a b) (hba : Before b a) : a = b := by
  obtain ⟨host, port, weight⟩ := a
  obtain ⟨host', port', weight'⟩ := b
  rcases hab with hhost | ⟨hhost, hab⟩
  · rcases hba with hhost' | ⟨hhost', -⟩
    · exact absurd hhost' (String.lt_asymm hhost)
    · exact absurd (hhost' ▸ hhost) (String.lt_irrefl _)
  · obtain rfl : host = host' := hhost
    rcases hba with hhost' | ⟨-, hba⟩
    · exact absurd hhost' (String.lt_irrefl _)
    · have hports : port = port' ∧ weight ≤ weight' ∧ weight' ≤ weight := by
        rcases hab with hport | ⟨hport, hweight⟩
        · rcases hba with hport' | ⟨hport', -⟩
          · exact absurd hport' (UInt16.lt_asymm hport)
          · exact absurd (hport' ▸ hport) (UInt16.lt_irrefl _)
        · obtain rfl : port = port' := hport
          rcases hba with hport' | ⟨-, hweight'⟩
          · exact absurd hport' (UInt16.lt_irrefl _)
          · exact ⟨rfl, hweight, hweight'⟩
      obtain ⟨rfl, hle, hge⟩ := hports
      obtain rfl : weight = weight' := UInt32.le_antisymm hle hge
      rfl

/-- An instance gives no endpoint of weight zero. -/
theorem weight_ne_zero {instances : List Mesh.Instance}
    (he : e ∈ Mesh.selectEndpoints instances) : e.weight ≠ 0 := by
  rw [Mesh.selectEndpoints, Endpoint.sort, List.mem_mergeSort] at he
  obtain ⟨i, -, hi⟩ := List.mem_filterMap.1 he
  rw [Mesh.Instance.endpoint?] at hi
  split at hi
  · exact absurd hi.symm (Option.some_ne_none e)
  · next weight _ =>
      split at hi
      · exact absurd hi.symm (Option.some_ne_none e)
      · next hweight =>
          rw [← Option.some.inj hi]
          exact hweight

end Endpoint

namespace Mesh

/-! ## The worst check -/

namespace Status

/-- No two healths are equally bad. -/
theorem severity_inj {a b : Status} (h : a.severity = b.severity) : a = b := by
  cases a <;> cases b <;> first | rfl | exact nomatch h

/-- The worse of two healths is no worse than a bound just if both are. -/
theorem severity_worse_le {a b : Status} {n : Nat} :
    (a.worse b).severity ≤ n ↔ a.severity ≤ n ∧ b.severity ≤ n := by
  rw [worse]
  split <;> omega

/-- **The worst of some healths** is the least bad one that none of them is worse
    than. -/
theorem severity_worst_le {statuses : List String} {n : Nat} :
    (worst statuses).severity ≤ n ↔ ∀ s ∈ statuses, (ofText s).severity ≤ n := by
  have hfold : ∀ (ss : List String) (start : Status),
      (ss.foldl (fun acc s => acc.worse (ofText s)) start).severity ≤ n ↔
        start.severity ≤ n ∧ ∀ s ∈ ss, (ofText s).severity ≤ n := by
    intro ss
    induction ss with
    | nil =>
        intro start
        simp
    | cons s ss ih =>
        intro start
        rw [List.foldl_cons, ih, severity_worse_le, List.forall_mem_cons, and_assoc]
  rw [worst, hfold]
  exact and_iff_right (Nat.zero_le n)

/-- More checks make the worst of them no better. -/
theorem severity_worst_mono {ss ts : List String} (h : ss ⊆ ts) :
    (worst ss).severity ≤ (worst ts).severity := by
  refine severity_worst_le.2 ?_
  intro s hs
  exact severity_worst_le.1 (Nat.le_refl _) s (h hs)

/-- Only what reads as passing is that good. -/
theorem severity_ofText_eq_zero {s : String} : (ofText s).severity ≤ 0 ↔ s = "passing" := by
  rw [ofText]
  split
  · next h => simp [h, severity]
  · next h =>
      simp only [h, iff_false]
      split
      · decide
      · split <;> decide

/-- Only what reads as passing or warning lets traffic through. -/
theorem severity_ofText_le_one {s : String} :
    (ofText s).severity ≤ 1 ↔ s = "passing" ∨ s = "warning" := by
  rw [ofText]
  split
  · next h => simp [h, severity]
  · next h =>
      split
      · next h' => simp [h', severity]
      · next h' =>
          simp only [h, h', or_self, iff_false]
          split <;> decide

/-- An instance passes just if all its checks do. -/
theorem worst_eq_passing {ss : List String} : worst ss = passing ↔ ∀ s ∈ ss, s = "passing" := by
  have hzero : worst ss = passing ↔ (worst ss).severity ≤ 0 := by
    constructor
    · intro h
      rw [h]
      exact Nat.le_refl 0
    · intro h
      exact severity_inj (Nat.le_zero.1 h)
  rw [hzero, severity_worst_le]
  exact forall₂_congr fun s _ => severity_ofText_eq_zero

/-- Traffic may go where all checks are passing or warning. -/
theorem severity_worst_le_one {ss : List String} :
    (worst ss).severity ≤ 1 ↔ ∀ s ∈ ss, s = "passing" ∨ s = "warning" := by
  rw [severity_worst_le]
  exact forall₂_congr fun s _ => severity_ofText_le_one

end Status

/-! ## The endpoint of an instance -/

namespace Instance

variable {i j : Instance} {e : Endpoint}

/-- Whether an instance gives an endpoint: its checks are all passing or warning,
    and the weight for them, which is that for warnings if there is one, is not
    zero. -/
structure Gives (i : Instance) (e : Endpoint) : Prop where
  up : ∀ c ∈ i.checks, c.status = "passing" ∨ c.status = "warning"
  host : e.host = if i.service.address = "" then i.node.address else i.service.address
  port : e.port = i.service.port
  weight : e.weight =
    if ∃ c ∈ i.checks, c.status = "warning" then i.service.weights.warning
    else i.service.weights.passing
  counts : e.weight ≠ 0

/-- A service without an address has its node's. -/
theorem host_eq (i : Instance) :
    i.host = if i.service.address = "" then i.node.address else i.service.address := by
  rw [host]
  by_cases h : i.service.address = ""
  · rw [if_pos h, if_pos (String.isEmpty_iff.2 h)]
  · rw [if_neg h, if_neg (mt String.isEmpty_iff.1 h)]

/-- The weight for the checks of an instance. -/
theorem weight?_eq_some {weight : UInt32} :
    i.weight? = some weight ↔ (∀ c ∈ i.checks, c.status = "passing" ∨ c.status = "warning") ∧
      weight = if ∃ c ∈ i.checks, c.status = "warning" then i.service.weights.warning
        else i.service.weights.passing := by
  have hpassing : i.status = .passing ↔ ∀ c ∈ i.checks, c.status = "passing" := by
    rw [status, Status.worst_eq_passing, List.forall_mem_map]
  have hup : i.status.severity ≤ 1 ↔
      ∀ c ∈ i.checks, c.status = "passing" ∨ c.status = "warning" := by
    rw [status, Status.severity_worst_le_one, List.forall_mem_map]
  rw [← hup, weight?]
  -- where traffic may go, the worst check is a warning iff there is a warning
  cases hs : i.status with
  | passing =>
      have hnone : ¬ ∃ c ∈ i.checks, c.status = "warning" := by
        rintro ⟨c, hc, hwarning⟩
        rw [hpassing.1 hs c hc] at hwarning
        exact absurd hwarning (by decide)
      show some i.service.weights.passing = some weight ↔ Status.passing.severity ≤ 1 ∧ _
      rw [if_neg hnone, Option.some_inj, eq_comm, and_iff_right (by decide)]
  | warning =>
      have hsome : ∃ c ∈ i.checks, c.status = "warning" := by
        by_contra hnone
        have hall : ∀ c ∈ i.checks, c.status = "passing" := by
          intro c hc
          have hle : i.status.severity ≤ 1 := by rw [hs]; decide
          exact (hup.1 hle c hc).resolve_right fun hwarning => hnone ⟨c, hc, hwarning⟩
        rw [hpassing.2 hall] at hs
        exact nomatch hs
      show some i.service.weights.warning = some weight ↔ Status.warning.severity ≤ 1 ∧ _
      rw [if_pos hsome, Option.some_inj, eq_comm, and_iff_right (by decide)]
  | critical => simp [Status.severity]
  | maintenance => simp [Status.severity]

/-- The endpoint of an instance is the one that it gives. -/
theorem endpoint?_eq_some_iff : i.endpoint? = some e ↔ i.Gives e := by
  have hcases : i.endpoint? = some e ↔
      ∃ weight, i.weight? = some weight ∧ weight ≠ 0 ∧ ⟨i.host, i.service.port, weight⟩ = e := by
    rw [endpoint?]
    cases i.weight? with
    | none => simp
    | some weight =>
        by_cases h : weight = 0
        · simp [h]
        · simp [h]
  rw [hcases]
  constructor
  · rintro ⟨weight, hweight, hne, rfl⟩
    obtain ⟨hup, hweight⟩ := weight?_eq_some.1 hweight
    exact ⟨hup, host_eq i, rfl, hweight, hne⟩
  · rintro ⟨hup, hhost, hport, hweight, hne⟩
    refine ⟨e.weight, weight?_eq_some.2 ⟨hup, hweight⟩, hne, ?_⟩
    rw [host_eq, ← hhost, ← hport]

instance (i : Instance) (e : Endpoint) : Decidable (i.Gives e) :=
  decidable_of_iff _ endpoint?_eq_some_iff

/-- Whether two instances differ in the order of their checks at most. -/
structure Alike (i j : Instance) : Prop where
  node : i.node = j.node
  service : i.service = j.service
  checks : i.checks.Perm j.checks

/-- The order of its checks does not matter to what an instance gives. -/
theorem Alike.gives_iff (h : Alike i j) : i.Gives e ↔ j.Gives e := by
  obtain ⟨hnode, hservice, hchecks⟩ := h
  have hsome : (∃ c ∈ i.checks, c.status = "warning") ↔ ∃ c ∈ j.checks, c.status = "warning" := by
    simp only [hchecks.mem_iff]
  constructor
  · rintro ⟨hup, hhost, hport, hweight, hne⟩
    rw [hnode, hservice] at hhost
    rw [hservice] at hport
    simp only [hservice, hsome] at hweight
    exact ⟨fun c hc => hup c (hchecks.mem_iff.2 hc), hhost, hport, hweight, hne⟩
  · rintro ⟨hup, hhost, hport, hweight, hne⟩
    rw [← hnode, ← hservice] at hhost
    rw [← hservice] at hport
    simp only [← hservice, ← hsome] at hweight
    exact ⟨fun c hc => hup c (hchecks.mem_iff.1 hc), hhost, hport, hweight, hne⟩

/-- **Another check makes an instance no better.** -/
theorem severity_status_insert {front back : List Check} (c : Check)
    (h : i.checks = front ++ back) :
    i.status.severity ≤ ({ i with checks := front ++ c :: back } : Instance).status.severity := by
  refine Status.severity_worst_mono (List.map_subset _ ?_)
  rw [h]
  intro d hd
  rcases List.mem_append.1 hd with hd | hd
  · exact List.mem_append_left _ hd
  · exact List.mem_append_right _ (List.mem_cons_of_mem c hd)

end Instance

/-! ## What is selected -/

variable {is js : List Instance} {es es' : List Endpoint}

/-- The endpoints of some instances, in order and each as often as it is
    given. -/
structure Selection (is : List Instance) (es : List Endpoint) : Prop where
  ordered : es.Pairwise Endpoint.Before
  counted : ∀ e, es.count e = is.countP fun i => i.Gives e

/-- Two lists of endpoints in order, with each in both as often, are the same. -/
theorem Selection.unique (h : Selection is es) (h' : Selection js es')
    (hcount : ∀ e, is.countP (fun i => i.Gives e) = js.countP fun i => i.Gives e) : es = es' := by
  have hperm : es.Perm es' := by
    refine List.perm_iff_count.2 ?_
    intro e
    rw [h.counted, h'.counted, hcount]
  exact hperm.eq_of_pairwise (fun _ _ _ _ => Endpoint.Before.antisymm) h.ordered h'.ordered

/-- An endpoint comes as often as instances give it. -/
theorem count_filterMap_endpoint? (is : List Instance) (e : Endpoint) :
    (is.filterMap (·.endpoint?)).count e = is.countP fun i => i.Gives e := by
  induction is with
  | nil => rfl
  | cons i is ih =>
      by_cases h : i.Gives e
      · rw [List.filterMap_cons_some (Instance.endpoint?_eq_some_iff.2 h), List.count_cons_self, ih,
          List.countP_cons, if_pos (decide_eq_true h)]
      · rw [List.countP_cons, if_neg (by simpa using h), Nat.add_zero, ← ih]
        cases hi : i.endpoint? with
        | none => rw [List.filterMap_cons_none hi]
        | some e' =>
            have hne : e' ≠ e := by
              rintro rfl
              exact h (Instance.endpoint?_eq_some_iff.1 hi)
            rw [List.filterMap_cons_some hi, List.count_cons_of_ne hne]

/-- **What is selected** are the endpoints that are given. -/
theorem selection_selectEndpoints (is : List Instance) : Selection is (selectEndpoints is) := by
  refine ⟨Endpoint.pairwise_sort _, ?_⟩
  intro e
  have hsort : (Endpoint.sort (is.filterMap (·.endpoint?))).Perm (is.filterMap (·.endpoint?)) :=
    List.mergeSort_perm _ _
  rw [selectEndpoints, hsort.count_eq, count_filterMap_endpoint?]

/-- Whether instances are told in another order, each with its checks in any
    order. -/
def Reordered (is js : List Instance) : Prop :=
  ∃ ks, is.Perm ks ∧ List.Forall₂ Instance.Alike ks js

/-- Nor does the order of the instances matter to that. -/
theorem Reordered.countP_eq (h : Reordered is js) (e : Endpoint) :
    is.countP (fun i => i.Gives e) = js.countP fun i => i.Gives e := by
  obtain ⟨ks, hperm, halike⟩ := h
  rw [hperm.countP_eq]
  clear hperm
  induction halike with
  | nil => rfl
  | cons hij _ ih =>
      rw [List.countP_cons, List.countP_cons, ih]
      simp only [hij.gives_iff]

/-- **The selection is exact**: the selected endpoints are in order, each stands
    there as often as it is given, and they are the same however the instances
    and their checks are ordered; and another check makes no instance better. -/
theorem selects_what_is_given :
    (∀ is, Selection is (selectEndpoints is)) ∧
      (∀ is js, Reordered is js → selectEndpoints is = selectEndpoints js) ∧
      ∀ (i : Instance) (front back : List Check) (c : Check), i.checks = front ++ back →
        i.status.severity ≤
          ({ i with checks := front ++ c :: back } : Instance).status.severity := by
  refine ⟨selection_selectEndpoints, ?_, ?_⟩
  · intro is js h
    exact (selection_selectEndpoints is).unique (selection_selectEndpoints js) h.countP_eq
  · intro i front back c h
    exact i.severity_status_insert c h

/-- An instance of a service at a node, with checks of these healths. -/
def instanceWith (address : String) (weights : Weights) (statuses : List String) : Instance :=
  { node := ⟨"n1", "192.168.1.7", "dc1"⟩
    service := ⟨"db-1", "db", address, 5432, weights⟩
    checks := statuses.map (Check.mk "" "") }

/-- Instances that give one endpoint twice, of which one has no address of its
    own, and others that give none. -/
def crowd : List Instance :=
  [instanceWith "10.0.0.2" ⟨5, 1⟩ ["warning", "passing"], instanceWith "" ⟨5, 1⟩ [],
    instanceWith "192.168.1.7" ⟨5, 0⟩ ["passing", "passing"],
    instanceWith "10.0.0.1" ⟨5, 0⟩ ["passing", "warning"],
    instanceWith "10.0.0.3" ⟨5, 1⟩ ["warning", "retired"]]

/-- The same instances the other way round, the first with its checks so, too. -/
def crowdReversed : List Instance :=
  [instanceWith "10.0.0.3" ⟨5, 1⟩ ["retired", "warning"],
    instanceWith "10.0.0.1" ⟨5, 0⟩ ["passing", "warning"],
    instanceWith "192.168.1.7" ⟨5, 0⟩ ["passing", "passing"], instanceWith "" ⟨5, 1⟩ [],
    instanceWith "10.0.0.2" ⟨5, 1⟩ ["warning", "passing"]]

/-- The second crowd is the first one in another order. -/
theorem reordered_crowd : Reordered crowd crowdReversed := by
  refine ⟨crowd.reverse, (List.reverse_perm crowd).symm, ?_⟩
  have hsame : ∀ i : Instance, i.Alike i := fun i => ⟨rfl, rfl, .refl _⟩
  exact .cons ⟨rfl, rfl, by decide⟩
    (.cons (hsame _) (.cons (hsame _) (.cons (hsame _) (.cons (hsame _) .nil))))

/-- Both crowds give the same endpoints, one of them twice, and a check that
    gets worse makes its instance no better. -/
theorem crowd_selected :
    Reordered crowd crowdReversed ∧ selectEndpoints crowd = selectEndpoints crowdReversed ∧
      (selectEndpoints crowd).count ⟨"192.168.1.7", 5432, 5⟩ = 2 ∧
      (instanceWith "10.0.0.2" ⟨5, 1⟩ ["warning", "passing"]).status.severity ≤
        (instanceWith "10.0.0.2" ⟨5, 1⟩ ["warning", "maintenance", "passing"]).status.severity := by
  obtain ⟨hexact, hordered, hworse⟩ := selects_what_is_given
  refine ⟨reordered_crowd, hordered _ _ reordered_crowd, ?_, ?_⟩
  · refine ((hexact crowd).counted _).trans ?_
    decide
  · exact hworse _ [⟨"", "", "warning"⟩] [⟨"", "", "passing"⟩] ⟨"", "", "maintenance"⟩ rfl

end Mesh

end MeshSync
