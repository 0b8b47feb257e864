import MeshSync.Proofs.Url.Unreserved

/-! # Addresses of the web and what is asked for there

    An address of the web has a host, and its path is a list of segments
    (`place_of_parse`), so a path can be asked for beside it.  A `PlainPath` is
    asked for as it is written (`withReference_plain`), whatever the path, the
    query and the fragment of the address are. -/

namespace MeshSync.Url

variable {text : String} {u : Url}

/-- **What is read of a text**: its scheme, what stands around the query and the
    fragment, and the place in front of them. -/
theorem parse_eq_ok_iff : parse text = .ok u ↔ ∃ rest front,
    scheme? (clean text) = some (u.scheme, rest) ∧
      takeApart u.family rest = (front, u.query, u.fragment) ∧
      readPlace u.family u.scheme (u.query.isSome || u.fragment.isSome) front =
        .ok (u.authority, u.path) := by
  rw [parse]
  cases hscheme : scheme? (clean text) with
  | none => simp
  | some found =>
      obtain ⟨scheme, rest⟩ := found
      dsimp only
      constructor
      · intro h
        cases hplace : readPlace (Family.ofScheme scheme) scheme
            ((takeApart (Family.ofScheme scheme) rest).2.1.isSome ||
              (takeApart (Family.ofScheme scheme) rest).2.2.isSome)
            (takeApart (Family.ofScheme scheme) rest).1 with
        | error cause =>
            rw [hplace] at h
            cases h
        | ok place =>
            rw [hplace] at h
            cases h
            exact ⟨rest, _, rfl, rfl, hplace⟩
      · rintro ⟨rest', front, hfound, hparts, hplace⟩
        obtain ⟨rfl, rfl⟩ := Prod.mk.inj (Option.some.inj hfound)
        rw [show Family.ofScheme u.scheme = u.family from rfl, hparts]
        dsimp only
        rw [hplace]
        rfl

/-- Peers are asked over the web. -/
theorem family_of_scheme (h : u.scheme = "http" ∨ u.scheme = "https") : u.family = .web := by
  rw [family]
  rcases h with h | h
  · rw [h]
    decide
  · rw [h]
    decide

/-- **The place of the web** in front of a query and a fragment. -/
theorem webPlace_eq_ok_iff {scheme : String} {followed : Bool} {cs : List Char}
    {authority : Option Authority} {path : Path} :
    webPlace scheme followed cs = .ok (authority, path) ↔
      ∃ found behind, readAuthority .web scheme
          (followed || !(cutPath .web (cs.dropWhile (Family.isSlash .web))).2.isEmpty)
          (cutPath .web (cs.dropWhile (Family.isSlash .web))).1 = .ok (found, behind) ∧
        authority = some found ∧
        path = rootedPath .web (cutPath .web (cs.dropWhile (Family.isSlash .web))).2 := by
  rw [webPlace]
  dsimp only
  cases hread : readAuthority .web scheme
      (followed || !(cutPath .web (cs.dropWhile (Family.isSlash .web))).2.isEmpty)
      (cutPath .web (cs.dropWhile (Family.isSlash .web))).1 with
  | error cause =>
      constructor
      · intro h
        cases h
      · rintro ⟨_, _, h, -⟩
        cases h
  | ok found =>
      constructor
      · intro h
        cases h
        exact ⟨found.1, found.2, rfl, rfl, rfl⟩
      · rintro ⟨found', behind, h, rfl, rfl⟩
        cases h
        rfl

/-- An address of the web has an authority and a path of segments. -/
theorem place_of_parse (h : parse text = .ok u) (hweb : u.family = .web) :
    u.authority.isSome = true ∧ ∃ parts, u.path = .segments parts := by
  obtain ⟨rest, front, -, -, hplace⟩ := parse_eq_ok_iff.1 h
  rw [hweb] at hplace
  obtain ⟨found, behind, -, hauthority, hpath⟩ := webPlace_eq_ok_iff.1 hplace
  rw [hauthority, hpath]
  exact ⟨rfl, _, rfl⟩

/-- Without marks there is no query and no fragment. -/
theorem takeApart_unmarked (f : Family) {cs : List Char} (h : Unmarked cs) :
    takeApart f cs = (cs, none, none) := by
  have hfront : takeApart f (cs ++ []) = (cs ++ (takeApart f []).1, (takeApart f []).2) :=
    takeApart_lead f h
  rw [List.append_nil] at hfront
  rw [hfront]
  simp [takeApart, Text.cut]

/-! ## Plain paths -/

/-- A path behind its first slash that an address of the web leaves as it is: a
    stretch in which no back slash is taken for a slash. -/
structure PlainPath (cs : List Char) : Prop extends Stretch cs where
  forward : ∀ c ∈ cs, c ≠ '\\'

instance (cs : List Char) : Decidable (PlainPath cs) :=
  decidable_of_iff (cs.all isPathChar = true ∧
      (Text.splitChars (· = '/') cs).all (fun s => !Path.isDot s) = true ∧
      cs.all (fun c => c != '\\') = true) <| by
    simp only [List.all_eq_true, bne_iff_ne, Bool.not_eq_true']
    exact ⟨fun h => ⟨⟨h.1, h.2.1⟩, h.2.2⟩, fun h => ⟨h.kept, h.still, h.forward⟩⟩

/-- Plain paths with a slash between them are one. -/
theorem PlainPath.append {a b : List Char} (ha : PlainPath a) (hb : PlainPath b) :
    PlainPath (a ++ '/' :: b) := by
  refine ⟨ha.toStretch.append hb.toStretch, ?_⟩
  intro c hc
  rcases List.mem_append.1 hc with hc | hc
  · exact ha.forward c hc
  · rcases List.mem_cons.1 hc with rfl | hc
    · decide
    · exact hb.forward c hc

/-- A segment that stands for itself is a plain path. -/
theorem PlainSegment.plainPath {cs : List Char} (h : PlainSegment cs) : PlainPath cs :=
  ⟨h.stretch, fun c hc => ne_of_class (h.unreserved c hc) (by decide)⟩

theorem PlainPath.isSlash {cs : List Char} (h : PlainPath cs) :
    ∀ c ∈ cs, Family.isSlash .web c = decide (c = '/') := by
  intro c hc
  simp [Family.isSlash, h.forward c hc]

/-- A plain path is split at its slashes. -/
theorem PlainPath.splitChars {cs : List Char} (h : PlainPath cs) :
    Text.splitChars (Family.isSlash .web) cs = Text.splitChars (· = '/') cs :=
  Text.splitChars_congr h.isSlash

/-- A plain path is read as the segments that it shows. -/
theorem PlainPath.ofText {cs : List Char} (h : PlainPath cs) :
    Path.ofText .web cs = .segments (Text.splitChars (· = '/') cs) := by
  rw [Path.ofText, h.splitChars, map_encode_of_kept h.kept, Path.settle, settleFrom_still h.still]
  rfl

/-- The text of the segments is the path again. -/
theorem text_splitChars (cs : List Char) :
    Path.text (.segments (Text.splitChars (· = '/') cs)) = '/' :: cs :=
  Text.join_splitChars '/' cs

theorem PlainPath.isPathChar {cs : List Char} (h : PlainPath cs) :
    ∀ c ∈ '/' :: cs, isPathChar c = true := by
  intro c hc
  rcases List.mem_cons.1 hc with rfl | hc
  · decide
  · exact h.kept c hc

/-- Everything in a plain path can be seen. -/
theorem PlainPath.visible {cs : List Char} (h : PlainPath cs) :
    ∀ c ∈ '/' :: cs, 0x20 < c.toNat := by
  intro c hc
  exact isQueryChar.visible (isPathChar.query (h.isPathChar c hc))

/-- No mark ends a plain path. -/
theorem PlainPath.unmarked {cs : List Char} (h : PlainPath cs) : Unmarked ('/' :: cs) := by
  intro c hc
  exact ⟨ne_of_class (h.isPathChar c hc) (by decide), ne_of_class (h.isPathChar c hc) (by decide)⟩

/-- A text in which everything can be seen counts as it is. -/
theorem clean_eq_self {text : String} (h : ∀ c ∈ text.toList, 0x20 < c.toNat) :
    clean text = text.toList := by
  have hmargin : ∀ c ∈ text.toList, isMargin c = false := by
    intro c hc
    have hlow := h c hc
    rw [isMargin, decide_eq_false_iff_not]
    omega
  rw [clean, trim_eq_self (fun c hc => hmargin c (List.mem_of_head? hc))
    (fun c hc => hmargin c (List.mem_of_getLast? hc))]
  exact visible_eq_self h

/-- **A plain path is asked for beside an address as it is written.** -/
theorem withReference_plain {base : Url} {parts : List (List Char)} {path : List Char}
    (hbase : base.path = .segments parts) (hweb : base.family = .web) (h : PlainPath path)
    {reference : String} (htext : reference.toList = '/' :: path) :
    base.withReference reference = .ok { base with
      path := .segments (Text.splitChars (· = '/') path), query := none, fragment := none } := by
  have hclean : clean reference = '/' :: path := by
    rw [← htext]
    refine clean_eq_self ?_
    rw [htext]
    exact h.visible
  rw [withReference, hbase]
  dsimp only
  rw [hclean, hweb, takeApart_unmarked .web h.unmarked]
  dsimp only
  rw [rootedPath, List.drop_succ_cons, List.drop_zero, h.ofText]

end MeshSync.Url
