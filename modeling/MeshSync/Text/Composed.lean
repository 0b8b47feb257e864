import MeshSync.Text.CombiningClass
import MeshSync.Text.Decomposition

/-! # Composed texts

    The one form of texts that are the same: everything is taken apart, the
    marks on a character are put into the order of their classes, and then a
    character takes up each mark with which there is a composite, unless another
    one of the same place stands between them. -/

namespace MeshSync.Text

/-! ## Syllables

    A syllable of Hangul is composed of a consonant, a vowel and perhaps a last
    consonant, and its number follows from theirs. -/

/-- The number of vowels. -/
def vowelCount : Nat := 21

/-- The number of last consonants, none of them included. -/
def tailCount : Nat := 28

/-- The first of the syllables. -/
def firstSyllable : Nat := 0xAC00

/-- How many syllables there are. -/
def syllableCount : Nat := 19 * vowelCount * tailCount

/-- The letters of a syllable. -/
def syllable? (n : Nat) : Option (List Nat) :=
  if firstSyllable ≤ n && n < firstSyllable + syllableCount then
    let i := n - firstSyllable
    let tail := i % tailCount
    some ([0x1100 + i / (vowelCount * tailCount), 0x1161 + i / tailCount % vowelCount] ++
      if tail = 0 then [] else [0x11A7 + tail])
  else none

/-- The syllable of two letters, or of a syllable without a last consonant and
    of a letter. -/
def joinSyllable? (a b : Nat) : Option Nat :=
  if 0x1100 ≤ a && a < 0x1100 + 19 && 0x1161 ≤ b && b < 0x1161 + vowelCount then
    some (firstSyllable + ((a - 0x1100) * vowelCount + (b - 0x1161)) * tailCount)
  else if firstSyllable ≤ a && a < firstSyllable + syllableCount &&
      (a - firstSyllable) % tailCount = 0 && 0x11A7 < b && b < 0x11A7 + tailCount then
    some (a + (b - 0x11A7))
  else none

/-! ## Taking apart -/

/-- The parts of a character by composites of which none is a part of one
    before it. -/
def partsBy : List (Nat × Nat × Nat) → Nat → List Nat
  | [], n => [n]
  | (composite, base, mark) :: rest, n =>
    if n = composite then partsBy rest base ++ [mark] else partsBy rest n

/-- The parts of a character. -/
def parts (n : Nat) : List Nat :=
  (syllable? n).getD <| (variants.findSome? (·.image? n)).getD <| partsBy composites n

/-- Put the marks that follow a character into the order of their classes. -/
def ordered (cs : List Char) : List Char :=
  let (marks, done) := cs.foldr (fun c (marks, done) =>
    if combiningClass c = 0 then ([], c :: (settle marks ++ done)) else (c :: marks, done))
    ([], [])
  settle marks ++ done
where
  /-- Marks in the order of their classes. -/
  settle (marks : List Char) : List Char :=
    marks.mergeSort fun a b => combiningClass a ≤ combiningClass b

/-- A text taken apart. -/
def decomposed (cs : List Char) : List Char :=
  ordered (cs.flatMap fun c => (parts c.toNat).map Char.ofNat)

/-! ## Putting together -/

/-- The composite of a character and the one behind it. -/
def composite? (base mark : Char) : Option Char :=
  match joinSyllable? base.toNat mark.toNat with
  | some n => some (Char.ofNat n)
  | none =>
    (composites.find? fun (_, b, m) => b = base.toNat && m = mark.toNat).map
      fun (c, _) => Char.ofNat c

/-- Compose what follows a character with it; `marks` are those behind it that
    it did not take up, the last of them first. -/
def composeFrom (base : Char) (marks : List Char) : List Char → List Char
  | [] => base :: marks.reverse
  | c :: rest =>
    let isBlocked := marks.head?.any fun m => combiningClass c ≤ combiningClass m
    match if isBlocked then none else composite? base c with
    | some joined => composeFrom joined marks rest
    | none =>
      if combiningClass c = 0 then base :: (marks.reverse ++ composeFrom c [] rest)
      else composeFrom base (c :: marks) rest

/-- The composed form of a text. -/
def composed (cs : List Char) : List Char :=
  if cs.all (·.toNat < 0x80) then cs
  else
    let apart := decomposed cs
    let (leading, rest) := apart.span (combiningClass · ≠ 0)
    match rest with
    | [] => leading
    | base :: rest => leading ++ composeFrom base [] rest

end MeshSync.Text
