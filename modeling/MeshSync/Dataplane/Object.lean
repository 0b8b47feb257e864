import MeshSync.Json.Basic

/-! # Stored objects

    The objects of a configuration under their keys, and the changes that a
    transaction makes to them.  A change applies to the objects or is refused;
    deleting an object deletes everything it owns. -/

namespace MeshSync.Dataplane

open Std

/-- The identity of an object. -/
structure ObjectKey where
  /-- The collection it belongs to. -/
  kind : String
  /-- The object that owns it, as collection and name. -/
  parent : Option String
  name : String
  deriving DecidableEq, Inhabited

namespace ObjectKey

/-- Keys are ordered by kind, then parent, none first, then name. -/
instance : Ord ObjectKey where
  compare := compareLex (compareOn (·.kind)) (compareLex (compareOn (·.parent)) (compareOn (·.name)))

instance : TransOrd ObjectKey := inferInstanceAs (TransCmp (compareLex _ _))

instance : LawfulEqOrd ObjectKey where
  compare_self := ReflCmp.compare_self
  eq_of_compare := by
    intro a b h
    obtain ⟨hk, hp, hn⟩ : compare a.kind b.kind = .eq ∧ compare a.parent b.parent = .eq ∧
        compare a.name b.name = .eq := by
      simpa [compare, compareLex, compareOn, Ordering.then_eq_eq] using h
    cases a
    cases b
    simp_all

/-- What an object is called where it owns others. -/
def owner (k : ObjectKey) : String := s!"{k.kind}/{k.name}"

end ObjectKey

/-- The objects of a configuration. -/
abbrev Objects := SortedMap ObjectKey Json

/-- A change of the objects. -/
inductive Change where
  | create (key : ObjectKey) (value : Json)
  | replace (key : ObjectKey) (value : Json)
  | delete (key : ObjectKey)

/-- Why a change does not apply. -/
inductive Conflict where
  | present (key : ObjectKey)
  | absent (key : ObjectKey)
  deriving DecidableEq

namespace Objects

/-- The objects without one and what it owns. -/
def drop (objects : Objects) (key : ObjectKey) : Objects :=
  (objects.erase key).filter fun k _ => k.parent ≠ some key.owner

/-- The objects after a change. -/
def apply (objects : Objects) : Change → Except Conflict Objects
  | .create key value =>
    if objects.contains key then .error (.present key) else .ok (objects.insert key value)
  | .replace key value =>
    if objects.contains key then .ok (objects.insert key value) else .error (.absent key)
  | .delete key =>
    if objects.contains key then .ok (objects.drop key) else .error (.absent key)

/-- The objects after changes, one after another, unless one of them does not
    apply. -/
def applyAll (objects : Objects) : List Change → Except Conflict Objects
  | [] => .ok objects
  | c :: cs =>
    match objects.apply c with
    | .ok objects => applyAll objects cs
    | .error e => .error e

end Objects

end MeshSync.Dataplane
