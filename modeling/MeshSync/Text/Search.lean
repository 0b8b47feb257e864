/-! # Searching texts

    Whether a text occurs in another one, and what is left of a text behind a
    given beginning. -/

namespace MeshSync.Text

/-- Whether the characters `part` stand somewhere in a list. -/
def occursIn (part : List Char) : List Char → Bool
  | [] => part.isEmpty
  | c :: cs => part.isPrefixOf (c :: cs) || occursIn part cs

/-- Whether `part` occurs in `whole`. -/
def contains (whole part : String) : Bool := occursIn part.toList whole.toList

/-- What follows `lead` in a text that begins with it. -/
def afterChars? : List Char → List Char → Option (List Char)
  | [], cs => some cs
  | _ :: _, [] => none
  | l :: ls, c :: cs => if l = c then afterChars? ls cs else none

/-- What follows `lead` in `whole`, if it begins with it. -/
def after? (lead whole : String) : Option String :=
  (afterChars? lead.toList whole.toList).map String.ofList

/-- An ASCII capital as its small letter. -/
def lowerAscii (c : Char) : Char :=
  if 'A' ≤ c && c ≤ 'Z' then Char.ofNat (c.toNat + 32) else c

/-- A text with its ASCII capitals as small letters. -/
def lower (s : String) : String := String.ofList (s.toList.map lowerAscii)

/-- The parts of a list between the elements that `p` picks. -/
def splitChars (p : Char → Bool) : List Char → List (List Char)
  | [] => [[]]
  | c :: cs =>
    match splitChars p cs with
    | [] => [[]]
    | part :: parts => if p c then [] :: part :: parts else (c :: part) :: parts

/-- The parts of a list before and after the first element that `p` picks. -/
def cut (p : Char → Bool) : List Char → List Char × Option (List Char)
  | [] => ([], none)
  | c :: cs =>
    if p c then ([], some cs)
    else
      let (before, after) := cut p cs
      (c :: before, after)

theorem afterChars?_append (lead rest : List Char) : afterChars? lead (lead ++ rest) = some rest := by
  induction lead with
  | nil => rfl
  | cons l ls ih => simpa [afterChars?] using ih

theorem eq_append_of_afterChars? {lead whole rest : List Char}
    (h : afterChars? lead whole = some rest) : whole = lead ++ rest := by
  induction lead generalizing whole with
  | nil => simpa [afterChars?] using h
  | cons l ls ih =>
    cases whole with
    | nil => simp [afterChars?] at h
    | cons c cs =>
      by_cases hc : l = c
      · simp only [afterChars?, hc, if_true] at h
        rw [hc, ih h, List.cons_append]
      · simp [afterChars?, hc] at h

end MeshSync.Text
