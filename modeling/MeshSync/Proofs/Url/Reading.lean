import MeshSync.Proofs.Text.Splitting
import MeshSync.Url.Parser

/-! # How the store reads URLs

    Requests are read as URLs with the scheme `memory` and the host `store`.
    The route:

    * `parse_store` - what is read of any path: blanks and line ends vanish, the
      query begins behind the first question mark, and the path's segments are
      encoded and then settled.
    * `Stretch` - a text that stands in a path as it is, and `KeptChar` - a
      character that does so in a query.
    * `parse_stretch` - a path that is such a stretch, with a query of such
      characters, comes out of the reader as it went in. -/

namespace MeshSync

namespace Url

/-! ## Encoding -/

/-- Characters that need no encoding are not encoded. -/
theorem encode_eq_self {set : EncodeSet} {cs : List Char}
    (h : ∀ c ∈ cs, c.toNat < 0x80 ∧ set c = false) : encode set cs = cs := by
  induction cs with
  | nil => rfl
  | cons c cs ih =>
      obtain ⟨hlow, hset⟩ := h c (by simp)
      have hc : encodeChar set c = [c] := by
        rw [encodeChar, if_neg]
        simp only [hset, Bool.or_false, decide_eq_true_eq]
        omega
      show encodeChar set c ++ encode set cs = c :: cs
      rw [hc, ih fun d hd => h d (List.mem_cons_of_mem _ hd)]
      rfl

/-! ## Any request -/

/-- What counts of a text inside a URL. -/
def visible (cs : List Char) : List Char := cs.filter (!isDropped ·)

/-- What is dropped of a text stands in front of what stays. -/
theorem dropWhile_append {p : Char → Bool} {s : List Char}
    (hhead : ∀ c, s.head? = some c → p c = false) (t : List Char) :
    (t ++ s).dropWhile p = t.dropWhile p ++ s := by
  rw [List.dropWhile_append]
  split
  · next hempty =>
      rw [List.isEmpty_iff.1 hempty, List.nil_append]
      cases s with
      | nil => rfl
      | cons c s => rw [List.dropWhile_cons, if_neg (by simp [hhead c rfl])]
  · rfl

/-- Nothing is trimmed where neither end is to go. -/
theorem trim_eq_self {p : Char → Bool} {cs : List Char}
    (hhead : ∀ c, cs.head? = some c → p c = false)
    (hlast : ∀ c, cs.getLast? = some c → p c = false) : trim p cs = cs := by
  have hfront : cs.dropWhile p = cs := dropWhile_append hhead []
  have hback : cs.reverse.dropWhile p = cs.reverse := dropWhile_append (by simpa using hlast) []
  rw [trim, hfront, hback, List.reverse_reverse]

/-- Whether a text has no mark in it that ends a path. -/
def Unmarked (cs : List Char) : Prop := ∀ c ∈ cs, c ≠ '#' ∧ c ≠ '?'

/-- What stands in front of a query and a fragment only lengthens the front. -/
theorem takeApart_lead (f : Family) {lead cs : List Char} (h : Unmarked lead) :
    takeApart f (lead ++ cs) = (lead ++ (takeApart f cs).1, (takeApart f cs).2) := by
  have hfragment : ∀ c ∈ lead, decide (c = '#') = false := fun c hc => decide_eq_false (h c hc).1
  have hquery : ∀ c ∈ lead, decide (c = '?') = false := fun c hc => decide_eq_false (h c hc).2
  rw [takeApart, Text.cut_prefix hfragment]
  dsimp only
  rw [Text.cut_prefix hquery]
  rfl

/-- The authority of the store. -/
def storeAuthority : Authority := ⟨[], none, some (.domain "store".toList), none⟩

/-- The host of the store is read as a name and nothing else. -/
theorem readAuthority_store (followed : Bool) :
    readAuthority .other "memory" followed "store".toList = .ok (storeAuthority, []) := by
  cases followed <;> rfl

/-- The place of a request, whose path begins with a slash. -/
theorem readPlace_store (followed : Bool) (front : List Char) :
    readPlace .other "memory" followed ("//store/".toList ++ front) =
      .ok (some storeAuthority, .ofText .other front) := by
  have hstore : ∀ c ∈ "store".toList, (!Family.isSlash .other c) = true :=
    List.all_eq_true.1 (by decide)
  have hcut : cutPath .other ("store".toList ++ '/' :: front) = ("store".toList, '/' :: front) := by
    rw [cutPath, List.takeWhile_append_of_pos hstore, List.dropWhile_append_of_pos hstore]
    rfl
  show otherPlace "memory" followed ('/' :: '/' :: ("store".toList ++ '/' :: front)) = _
  rw [otherPlace, hcut]
  dsimp only
  rw [readAuthority_store]
  rfl

/-- **What the store reads of a path.** -/
theorem parse_store {path : String} {rest : List Char} (hpath : path.toList = '/' :: rest)
    (hlast : ∀ c, ('/' :: rest).getLast? = some c → isMargin c = false) :
    parse s!"memory://store{path}" =
      .ok ⟨"memory", some storeAuthority, .ofText .other (takeApart .other (visible rest)).1,
        (takeApart .other (visible rest)).2.1, (takeApart .other (visible rest)).2.2⟩ := by
  have htext : s!"memory://store{path}".toList = "memory://store".toList ++ '/' :: rest := by
    show ("memory://store" ++ path).toList = _
    rw [String.toList_append, hpath]
  have hclean : clean s!"memory://store{path}" =
      "memory".toList ++ ':' :: ("//store/".toList ++ visible rest) := by
    rw [clean, htext, trim_eq_self]
    · rw [List.filter_append, List.filter_cons_of_pos (by decide)]
      rfl
    · intro c hc
      obtain rfl : 'm' = c := Option.some.inj hc
      decide
    · intro c hc
      refine hlast c ?_
      rwa [List.getLast?_append, List.getLast?_cons, Option.some_or, ← List.getLast?_cons] at hc
  have hscheme : scheme? (clean s!"memory://store{path}") =
      some ("memory", "//store/".toList ++ visible rest) := by
    have hmemory (c : Char) (hc : c ∈ "memory".toList) : decide (c = ':') = false := by
      have hnone : "memory".toList.all (fun d => !decide (d = ':')) = true := by decide
      exact (Bool.not_eq_true' _).mp (List.all_eq_true.1 hnone c hc)
    rw [hclean, scheme?, Text.cut_append hmemory (by decide)]
    rfl
  have hlead (c : Char) (hc : c ∈ "//store/".toList) : c ≠ '#' ∧ c ≠ '?' := by
    have hstore : "//store/".toList.all (fun d => d ≠ '#' ∧ d ≠ '?') = true := by decide
    exact of_decide_eq_true (List.all_eq_true.1 hstore c hc)
  rw [parse, hscheme]
  dsimp only
  rw [show Family.ofScheme "memory" = .other by decide, takeApart_lead _ hlead]
  dsimp only
  rw [readPlace_store]
  rfl

/-- Outside the special schemes a backslash separates nothing. -/
theorem isSlash_other : Family.isSlash .other = fun c => decide (c = '/') := by
  funext c
  simp [Family.isSlash]

/-! ## Stretches of a path -/

/-- A character of a class is none of those outside it. -/
theorem ne_of_class {p : Char → Bool} {c d : Char} (hc : p c = true) (hd : p d = false) :
    c ≠ d := by
  rintro rfl
  rw [hc] at hd
  exact Bool.noConfusion hd


/-- Whether a path keeps a character as it is. -/
def isPathChar (c : Char) : Bool := decide (c.toNat < 0x80) && !EncodeSet.path c

/-- Whether a query keeps a character as it is. -/
def isQueryChar (c : Char) : Bool := decide (c.toNat < 0x80) && !EncodeSet.query c

/-- A path keeps just the ASCII characters that it does not encode. -/
theorem isPathChar_iff {c : Char} :
    isPathChar c = true ↔ c.toNat < 0x80 ∧ EncodeSet.path c = false := by simp [isPathChar]

/-- So does a query. -/
theorem isQueryChar_iff {c : Char} :
    isQueryChar c = true ↔ c.toNat < 0x80 ∧ EncodeSet.query c = false := by simp [isQueryChar]

/-- Paths encode more than queries do. -/
theorem isPathChar.query {c : Char} (h : isPathChar c = true) : isQueryChar c = true := by
  obtain ⟨hlow, hset⟩ := isPathChar_iff.1 h
  refine isQueryChar_iff.2 ⟨hlow, ?_⟩
  simp only [EncodeSet.path, EncodeSet.fragment, Bool.or_eq_false_iff] at hset
  simp [EncodeSet.query, hset]

/-- What a query keeps can be seen. -/
theorem isQueryChar.visible {c : Char} (h : isQueryChar c = true) :
    0x20 < c.toNat := by
  obtain ⟨-, hset⟩ := isQueryChar_iff.1 h
  simp only [EncodeSet.query, EncodeSet.controls, Bool.or_eq_false_iff, decide_eq_false_iff_not]
    at hset
  obtain ⟨⟨⟨⟨⟨⟨hcontrol, -⟩, hspace⟩, -⟩, -⟩, -⟩, -⟩ := hset
  have hne : c.toNat ≠ 0x20 := fun heq => hspace (Char.toNat_inj.1 heq)
  omega

/-- What is visible stays. -/
theorem visible_eq_self {cs : List Char} (h : ∀ c ∈ cs, 0x20 < c.toNat) : visible cs = cs := by
  refine List.filter_eq_self.2 fun c hc => ?_
  have hc := h c hc
  have ht : c ≠ '\t' := by rintro rfl; exact absurd hc (by decide)
  have hn : c ≠ '\n' := by rintro rfl; exact absurd hc (by decide)
  have hr : c ≠ '\x0d' := by rintro rfl; exact absurd hc (by decide)
  simp [isDropped, ht, hn, hr]

/-- Whether a segment stands for the place it is in or the one above. -/
def Path.isDot (s : List Char) : Bool := isHere s || isAbove s

/-- Dot segments begin with a dot or with one that is encoded. -/
theorem Path.isDot_of_head {c : Char} {cs : List Char} (hc : cs.head? = some c) (hdot : c ≠ '.')
    (hpercent : c ≠ '%') : isDot cs = false := by
  have differs : ∀ ts : List String, (∀ t ∈ ts, t.toList.head? = some '.' ∨
      t.toList.head? = some '%') → ts.contains (String.ofList cs) = false := by
    intro ts hts
    refine Bool.eq_false_iff.2 fun hmem => ?_
    have := hts _ (List.contains_iff_mem.1 hmem)
    rw [String.toList_ofList, hc] at this
    rcases this with h | h
    · exact hdot (Option.some.inj h)
    · exact hpercent (Option.some.inj h)
  exact Bool.or_eq_false_iff.2 ⟨differs _ (by decide), differs _ (by decide)⟩

/-- A text behind a slash that stands in a path as it is. -/
structure Stretch (cs : List Char) : Prop where
  kept : ∀ c ∈ cs, isPathChar c = true
  still : ∀ s ∈ Text.splitChars (· = '/') cs, Path.isDot s = false

/-- Stretches with a slash between them are one. -/
theorem Stretch.append {a b : List Char} (ha : Stretch a) (hb : Stretch b) :
    Stretch (a ++ '/' :: b) := by
  constructor
  · intro c hc
    rcases List.mem_append.1 hc with hc | hc
    · exact ha.kept c hc
    · rcases List.mem_cons.1 hc with rfl | hc
      · decide
      · exact hb.kept c hc
  · intro s hs
    rw [Text.splitChars_separator (by decide)] at hs
    rcases List.mem_append.1 hs with hs | hs
    · exact ha.still s hs
    · exact hb.still s hs

/-- What stands behind a slash of a stretch is one. -/
theorem Stretch.of_append {a b : List Char} (h : Stretch (a ++ '/' :: b)) : Stretch b := by
  refine ⟨fun c hc => h.kept c (List.mem_append_right _ (List.mem_cons_of_mem _ hc)),
    fun s hs => h.still s ?_⟩
  rw [Text.splitChars_separator (by decide)]
  exact List.mem_append_right _ hs

/-- Stretches make a stretch, with a slash before each but the first. -/
theorem Stretch.join {a : List Char} {segments : List (List Char)} (ha : Stretch a)
    (h : ∀ s ∈ segments, Stretch s) : Stretch (a ++ segments.flatMap ('/' :: ·)) := by
  induction segments generalizing a with
  | nil => rwa [List.flatMap_nil, List.append_nil]
  | cons s rest ih =>
      rw [List.flatMap_cons, List.cons_append, ← List.cons_append, ← List.append_assoc]
      exact ih (ha.append (h s (by simp))) fun t ht => h t (List.mem_cons_of_mem _ ht)

/-- Dot segments apart, settling leaves segments as they are. -/
theorem settleFrom_still {segments : List (List Char)}
    (h : ∀ s ∈ segments, Path.isDot s = false) :
    ∀ place, Path.settleFrom place segments = place.reverse ++ segments := by
  induction segments with
  | nil => intro place; rw [Path.settleFrom, List.append_nil]
  | cons s rest ih =>
      intro place
      obtain ⟨hhere, habove⟩ := Bool.or_eq_false_iff.1 (h s (by simp))
      have ih := ih fun t ht => h t (List.mem_cons_of_mem _ ht)
      cases rest with
      | nil =>
          rw [Path.settleFrom, if_neg (by simp [habove]), if_neg (by simp [hhere])]
          exact List.reverse_cons
      | cons t rest =>
          rw [Path.settleFrom, if_neg (by simp [habove]), if_neg (by simp [hhere]), ih,
            List.reverse_cons, List.append_assoc]
          · rfl
          · exact List.cons_ne_nil t rest

/-- In what paths keep nothing is encoded. -/
theorem map_encode_of_kept {cs : List Char} (h : ∀ c ∈ cs, isPathChar c = true) :
    (Text.splitChars (· = '/') cs).map (encode EncodeSet.path) = Text.splitChars (· = '/') cs := by
  refine (List.map_congr_left fun s hs => ?_).trans (List.map_id _)
  exact encode_eq_self fun c hc => isPathChar_iff.1 (h c (Text.mem_of_mem_splitChars hs hc))

/-- What paths keep is only settled. -/
theorem ofText_of_kept {cs : List Char} (h : ∀ c ∈ cs, isPathChar c = true) :
    Path.ofText .other cs = .segments (Path.settle (Text.splitChars (· = '/') cs)) := by
  rw [Path.ofText, isSlash_other, map_encode_of_kept h]

/-- A stretch is read as the segments that it shows. -/
theorem Stretch.ofText {cs : List Char} (h : Stretch cs) :
    Path.ofText .other cs = .segments (Text.splitChars (· = '/') cs) := by
  rw [ofText_of_kept h.kept, Path.settle, settleFrom_still h.still]
  rfl

/-! ## Any text of a path -/

/-- A path keeps the digits by which it encodes. -/
theorem isPathChar_upperHex : ∀ n < 16, isPathChar (upperHex n) = true := by decide

/-- What is left of a character in a path is kept by paths. -/
theorem encodeChar_kept {c d : Char} (h : d ∈ encodeChar EncodeSet.path c) :
    isPathChar d = true := by
  rw [encodeChar] at h
  split at h
  · obtain ⟨b, -, hb⟩ := List.mem_flatMap.1 h
    have hlow : b.toNat < 256 := b.toNat_lt
    simp only [encodeByte, List.mem_cons, List.not_mem_nil, or_false] at hb
    rcases hb with rfl | rfl | rfl
    · decide
    · exact isPathChar_upperHex _ (by omega)
    · exact isPathChar_upperHex _ (by omega)
  · rename_i hc
    rw [List.mem_singleton.1 h]
    simpa [isPathChar, not_or] using hc

/-- Climbing adds no segments. -/
theorem mem_of_mem_climb {s : List Char} {place : List (List Char)} (h : s ∈ Path.climb place) :
    s ∈ place := by
  cases place with
  | nil => exact h
  | cons last rest =>
      rw [Path.climb] at h
      split at h
      · exact h
      · exact List.mem_cons_of_mem _ h

/-- Settling adds nothing but an empty segment. -/
theorem mem_of_mem_settleFrom {s : List Char} {segments : List (List Char)} :
    ∀ {place}, s ∈ Path.settleFrom place segments → s ∈ place ∨ s ∈ segments ∨ s = [] := by
  induction segments with
  | nil =>
      intro place h
      rw [Path.settleFrom, List.mem_reverse] at h
      exact .inl h
  | cons t rest ih =>
      intro place h
      -- the last segment is treated differently: dots there leave an empty one behind
      cases rest with
      | nil =>
          rw [Path.settleFrom] at h
          split at h
          · rcases List.mem_cons.1 (List.mem_reverse.1 h) with h | h
            · exact .inr (.inr h)
            · exact .inl (mem_of_mem_climb h)
          · split at h
            · rcases List.mem_cons.1 (List.mem_reverse.1 h) with h | h
              · exact .inr (.inr h)
              · exact .inl h
            · rcases List.mem_cons.1 (List.mem_reverse.1 h) with h | h
              · exact .inr (.inl (List.mem_cons.2 (.inl h)))
              · exact .inl h
      | cons t' rest =>
          have later : s ∈ t' :: rest ∨ s = [] → s ∈ place ∨ s ∈ t :: t' :: rest ∨ s = [] :=
            fun h => .inr (h.imp_left (List.mem_cons_of_mem t))
          rw [Path.settleFrom] at h
          · split at h
            · rcases ih h with h | h
              · exact .inl (mem_of_mem_climb h)
              · exact later h
            · split at h
              · exact (ih h).imp_right fun h => h.imp_left (List.mem_cons_of_mem t)
              · rcases ih h with h | h
                · rcases List.mem_cons.1 h with rfl | h
                  · exact .inr (.inl List.mem_cons_self)
                  · exact .inl h
                · exact later h
          · exact List.cons_ne_nil t' rest

/-- **What is read of a path is kept by paths**, whatever the path was. -/
theorem ofText_kept {cs : List Char} {c : Char} (h : c ∈ (Path.ofText .other cs).text) :
    isPathChar c = true := by
  obtain ⟨s, hs, hc⟩ := List.mem_flatMap.1 h
  rcases List.mem_cons.1 hc with rfl | hc
  · decide
  rcases mem_of_mem_settleFrom hs with hs | hs | rfl
  · exact absurd hs List.not_mem_nil
  · obtain ⟨part, -, rfl⟩ := List.mem_map.1 hs
    obtain ⟨d, -, hd⟩ := List.mem_flatMap.1 hc
    exact encodeChar_kept hd
  · exact absurd hc List.not_mem_nil

/-- How long segments are with the slashes in front of them. -/
def Path.extent (segments : List (List Char)) : Nat := (segments.flatMap ('/' :: ·)).length

/-- A segment takes up its characters and a slash. -/
theorem extent_cons (s : List Char) (segments : List (List Char)) :
    Path.extent (s :: segments) = s.length + 1 + Path.extent segments := by
  rw [Path.extent, List.flatMap_cons, List.length_append, List.length_cons]
  rfl

/-- The order of segments does not matter to what they take up. -/
theorem extent_reverse (segments : List (List Char)) :
    Path.extent segments.reverse = Path.extent segments := by
  rw [Path.extent, Path.extent, List.length_flatMap, List.length_flatMap, List.map_reverse,
    List.sum_reverse]

/-- Climbing never takes up more. -/
theorem extent_climb (place : List (List Char)) :
    Path.extent (Path.climb place) ≤ Path.extent place := by
  cases place with
  | nil => exact Nat.le_refl _
  | cons last rest =>
      rw [Path.climb]
      split
      · exact Nat.le_refl _
      · rw [extent_cons]
        omega

/-- Dot segments are not empty. -/
theorem Path.length_of_isDot {s : List Char} (h : isDot s = true) : 0 < s.length := by
  cases s with
  | nil => exact absurd h (by decide)
  | cons c cs => exact Nat.succ_pos _

/-- Two dots are not nothing. -/
theorem Path.length_of_isAbove {s : List Char} (h : isAbove s = true) : 0 < s.length :=
  length_of_isDot (by rw [isDot, h, Bool.or_true])

/-- Nor is one. -/
theorem Path.length_of_isHere {s : List Char} (h : isHere s = true) : 0 < s.length :=
  length_of_isDot (by rw [isDot, h, Bool.true_or])

/-- The last segment leaves an empty one behind if it is a dot segment. -/
theorem extent_settleFrom_last (place : List (List Char)) (s : List Char) :
    Path.extent (Path.settleFrom place [s]) ≤ Path.extent place + Path.extent [s] ∧
      (Path.isDot s = true →
        Path.extent (Path.settleFrom place [s]) < Path.extent place + Path.extent [s]) := by
  have hclimb := extent_climb place
  have hnil : Path.extent ([] : List (List Char)) = 0 := rfl
  rw [Path.settleFrom, extent_cons, hnil]
  split
  · rename_i h
    have := Path.length_of_isAbove h
    rw [extent_reverse, extent_cons, List.length_nil]
    omega
  · split
    · rename_i h
      have := Path.length_of_isHere h
      rw [extent_reverse, extent_cons, List.length_nil]
      omega
    · rename_i hnot hnot'
      rw [extent_reverse, extent_cons]
      refine ⟨by omega, fun hdot => ?_⟩
      rw [Path.isDot] at hdot
      simp [hnot, hnot'] at hdot

/-- **Settling shortens a path with a dot segment in it**, and lengthens none. -/
theorem extent_settleFrom {segments : List (List Char)} :
    ∀ place, Path.extent (Path.settleFrom place segments) ≤
        Path.extent place + Path.extent segments ∧
      ((∃ s ∈ segments, Path.isDot s = true) →
        Path.extent (Path.settleFrom place segments) <
          Path.extent place + Path.extent segments) := by
  induction segments with
  | nil =>
      intro place
      rw [Path.settleFrom, extent_reverse]
      exact ⟨Nat.le_add_right _ _, fun ⟨s, hs, _⟩ => absurd hs List.not_mem_nil⟩
  | cons s rest ih =>
      intro place
      cases rest with
      | nil =>
          obtain ⟨hle, hlt⟩ := extent_settleFrom_last place s
          exact ⟨hle, fun ⟨t, ht, hdot⟩ => hlt (List.mem_singleton.1 ht ▸ hdot)⟩
      | cons t rest =>
          -- a dot segment leaves nothing behind, and any other one all of itself
          have hclimb := extent_climb place
          rw [Path.settleFrom, extent_cons s]
          · split
            · have := (ih (Path.climb place)).1
              have := Path.length_of_isAbove ‹_›
              omega
            · split
              · have := (ih place).1
                have := Path.length_of_isHere ‹_›
                omega
              · rename_i hnot hnot'
                obtain ⟨hle, hlt⟩ := ih (s :: place)
                rw [extent_cons s] at hle hlt
                refine ⟨by omega, fun ⟨x, hx, hdot⟩ => ?_⟩
                rcases List.mem_cons.1 hx with rfl | hx
                · rw [Path.isDot] at hdot
                  simp [hnot, hnot'] at hdot
                · have := hlt ⟨x, hx, hdot⟩
                  omega
          · exact List.cons_ne_nil t rest

/-- A text that comes out of a path as long as it is stands there as it is. -/
theorem stretch_of_length {cs : List Char} (hkept : ∀ c ∈ cs, isPathChar c = true)
    (h : cs.length < (Path.ofText .other cs).text.length) : Stretch cs := by
  refine ⟨hkept, fun s hs => Bool.eq_false_iff.2 fun hdot => ?_⟩
  have hlt : Path.extent (Path.settleFrom [] (Text.splitChars (· = '/') cs)) <
      Path.extent [] + Path.extent (Text.splitChars (· = '/') cs) :=
    (extent_settleFrom []).2 ⟨s, hs, hdot⟩
  have hwhole : Path.extent (Text.splitChars (· = '/') cs) = cs.length + 1 :=
    congrArg List.length (Text.join_splitChars '/' cs)
  have hnil : Path.extent ([] : List (List Char)) = 0 := rfl
  rw [ofText_of_kept hkept] at h
  have hread : cs.length < Path.extent (Path.settleFrom [] (Text.splitChars (· = '/') cs)) := h
  omega

/-- No text that paths keep comes out of a path longer than it is. -/
theorem length_ofText_le {cs : List Char} (hkept : ∀ c ∈ cs, isPathChar c = true) :
    (Path.ofText .other cs).text.length ≤ cs.length + 1 := by
  by_cases h : cs.length < (Path.ofText .other cs).text.length
  · have hstretch := stretch_of_length hkept h
    rw [hstretch.ofText]
    exact Nat.le_of_eq (congrArg List.length (Text.join_splitChars '/' cs))
  · omega

/-! ## Requests that are read as they are written -/

/-- The query of a URL with the mark in front of it. -/
def marked : Option (List Char) → List Char
  | none => []
  | some q => '?' :: q

/-- The characters of a stretch with a query behind it can be seen. -/
theorem visible_of_mem_request {cs : List Char} {query : Option (List Char)} (h : Stretch cs)
    (hq : ∀ q, query = some q → ∀ c ∈ q, isQueryChar c = true) :
    ∀ c ∈ cs ++ marked query, 0x20 < c.toNat := by
  intro c hc
  rcases List.mem_append.1 hc with hc | hc
  · exact isQueryChar.visible (isPathChar.query (h.kept c hc))
  · cases query with
    | none => exact absurd hc List.not_mem_nil
    | some q =>
        rcases List.mem_cons.1 hc with rfl | hc
        · decide
        · exact isQueryChar.visible (hq q rfl c hc)

/-- A query in which nothing is encoded stands behind an unmarked front. -/
theorem takeApart_kept (f : Family) {front : List Char} {query : Option (List Char)}
    (hfront : Unmarked front) (hq : ∀ q, query = some q → ∀ c ∈ q, c ≠ '#' ∧ c.toNat < 0x80 ∧
      f.querySet c = false) : takeApart f (front ++ marked query) = (front, query, none) := by
  have hmarked : takeApart f (marked query) = ([], query, none) := by
    cases query with
    | none => rfl
    | some q =>
        have hhash : ∀ c ∈ '?' :: q, decide (c = '#') = false := by
          intro c hc
          rcases List.mem_cons.1 hc with rfl | hc
          · decide
          · exact decide_eq_false (hq q rfl c hc).1
        have hencode : encode f.querySet q = q := encode_eq_self fun c hc => (hq q rfl c hc).2
        rw [marked, takeApart, Text.cut_of_forall_not hhash]
        dsimp only
        rw [Text.cut, if_pos (by decide)]
        dsimp only [Option.map_some, Option.map_none]
        rw [hencode]
  rw [takeApart_lead f hfront, hmarked, List.append_nil]

/-- A path and a query are told apart at the question mark. -/
theorem takeApart_stretch {cs : List Char} {query : Option (List Char)} (h : Stretch cs)
    (hq : ∀ q, query = some q → ∀ c ∈ q, isQueryChar c = true) :
    takeApart .other (cs ++ marked query) = (cs, query, none) := by
  refine takeApart_kept .other (fun c hc => ?_) fun q hquery c hc => ?_
  · exact ⟨ne_of_class (h.kept c hc) (by decide), ne_of_class (h.kept c hc) (by decide)⟩
  · exact ⟨ne_of_class (hq q hquery c hc) (by decide), isQueryChar_iff.1 (hq q hquery c hc)⟩

/-- A request whose query does not end in a blank does not, either. -/
theorem margin_of_query {front q : List Char}
    (hlast : ∀ c, q.getLast? = some c → isMargin c = false) :
    ∀ c, ('/' :: (front ++ '?' :: q)).getLast? = some c → isMargin c = false := by
  intro c hc
  rw [← List.cons_append, List.getLast?_append, List.getLast?_cons] at hc
  cases hq : q.getLast? with
  | none =>
      rw [hq] at hc
      rw [← Option.some.inj hc]
      decide
  | some d =>
      rw [hq] at hc
      rw [← Option.some.inj hc]
      exact hlast d hq

/-- What is read of a path and a query, whatever stands in the query. -/
theorem parse_front {front q : List Char} {path : String}
    (hkept : ∀ c ∈ front, isPathChar c = true) (hpath : path.toList = '/' :: (front ++ '?' :: q))
    (hlast : ∀ c, q.getLast? = some c → isMargin c = false) :
    ∃ fragment, parse s!"memory://store{path}" =
      .ok ⟨"memory", some storeAuthority, .ofText .other front,
        some (encode EncodeSet.query (Text.cut (· = '#') (visible q)).1), fragment⟩ := by
  have hvisible : visible (front ++ '?' :: q) = front ++ '?' :: visible q := by
    rw [visible, List.filter_append, List.filter_cons_of_pos (by decide)]
    exact congrArg (· ++ _) (visible_eq_self fun c hc =>
      isQueryChar.visible (isPathChar.query (hkept c hc)))
  have hapart : takeApart .other ('?' :: visible q) =
      ([], some (encode EncodeSet.query (Text.cut (· = '#') (visible q)).1),
        (Text.cut (· = '#') (visible q)).2.map (encode EncodeSet.fragment)) := by
    rw [takeApart, Text.cut, if_neg (by decide)]
    dsimp only
    rw [Text.cut, if_pos (by decide)]
    rfl
  have hmarks : ∀ c ∈ front, c ≠ '#' ∧ c ≠ '?' := fun c hc =>
    ⟨ne_of_class (hkept c hc) (by decide), ne_of_class (hkept c hc) (by decide)⟩
  refine ⟨(Text.cut (· = '#') (visible q)).2.map (encode EncodeSet.fragment), ?_⟩
  rw [parse_store hpath (margin_of_query hlast), hvisible, takeApart_lead _ hmarks, hapart, List.append_nil]

/-- **A stretch with a kept query comes out of the reader as it went in.** -/
theorem parse_stretch {cs : List Char} {query : Option (List Char)} {path : String}
    (h : Stretch cs) (hq : ∀ q, query = some q → ∀ c ∈ q, isQueryChar c = true)
    (hpath : path.toList = '/' :: (cs ++ marked query)) :
    parse s!"memory://store{path}" =
      .ok ⟨"memory", some storeAuthority, .segments (Text.splitChars (· = '/') cs), query, none⟩ := by
  have hseen := visible_of_mem_request h hq
  have hlast : ∀ c, ('/' :: (cs ++ marked query)).getLast? = some c → isMargin c = false := by
    intro c hc
    have hvisible : 0x20 < c.toNat := by
      rcases List.mem_cons.1 (List.mem_of_getLast? hc) with rfl | hc
      · decide
      · exact hseen c hc
    rw [isMargin, decide_eq_false_iff_not]
    omega
  rw [parse_store hpath hlast, visible_eq_self hseen, takeApart_stretch h hq, h.ofText]

end Url

end MeshSync
