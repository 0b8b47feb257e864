import Mathlib.Data.List.TakeWhile
import MeshSync.Json.Parser
import MeshSync.Json.Printer
import MeshSync.Proofs.Decimal

/-! # Texts that are read back

    What is written down is read as what it was.  A string comes back whatever
    its characters are (`string?_quoted`), a numeral with the spelling it has
    (`numeral?_chars`), and from both, by induction on its structure, every
    source that a text can spell (`parse?_render`). -/

namespace MeshSync

namespace Source

/-! ## Strings -/

/-- A hexadecimal digit is worth what it was written for. -/
theorem hexWeight?_hexDigit : ∀ k < 16, hexWeight? (hexDigit k) = some k := by decide

/-- A part in front of the parts of what follows. -/
def ahead (p : Piece) : List Piece × List Char → List Piece × List Char :=
  fun (ps, rest) => (p :: ps, rest)

/-- A one-letter escape is read as the character it stands for. -/
theorem pieces_escaped {e c : Char} (h : escaped? e = some c) (rest : List Char) :
    pieces ('\\' :: e :: rest) = (pieces rest).map (ahead (.char c)) := by
  have hu : e ≠ 'u' := by
    rintro rfl
    exact nomatch h
  rw [pieces, h]
  · cases pieces rest <;> rfl
  · intro a b c d rest' he
    exact absurd he hu

/-- Four digits behind their mark are read as a number. -/
theorem pieces_unit {n : Nat} (h : n < 0x20) (rest : List Char) :
    pieces ('\\' :: 'u' :: '0' :: '0' :: hexDigit (n / 16) :: hexDigit (n % 16) :: rest) =
      (pieces rest).map (ahead (.unit n)) := by
  have hunit : codeUnit? '0' '0' (hexDigit (n / 16)) (hexDigit (n % 16)) = some n := by
    have hzero : hexWeight? '0' = some 0 := by decide
    rw [codeUnit?, hzero, hexWeight?_hexDigit _ (by omega), hexWeight?_hexDigit _ (by omega)]
    show some (((0 * 16 + 0) * 16 + n / 16) * 16 + n % 16) = some n
    congr 1
    omega
  rw [pieces, hunit]
  cases pieces rest <;> rfl

/-- A character that needs no escape is read as itself. -/
theorem pieces_char {c : Char} (hquote : c ≠ '"') (hslash : c ≠ '\\') (hlow : 0x20 ≤ c.toNat)
    (rest : List Char) : pieces (c :: rest) = (pieces rest).map (ahead (.char c)) := by
  rw [pieces, if_neg (by simp [hslash]; omega)]
  · rfl
  all_goals simp_all

/-- A part of a string that stands for a character: the character, or its
    number where it is a control character. -/
def Piece.Spells (c : Char) (p : Piece) : Prop := p = .char c ∨ p = .unit c.toNat ∧ c.toNat < 0x20

/-- **A character is read as one part**, whatever follows it. -/
theorem pieces_escape (c : Char) : ∃ p : Piece, p.Spells c ∧
    ∀ rest, pieces (escape c ++ rest) = (pieces rest).map (ahead p) := by
  have hletter {e : Char} (h : escaped? e = some c) : ∃ p : Piece, p.Spells c ∧
      ∀ rest, pieces (['\\', e] ++ rest) = (pieces rest).map (ahead p) :=
    ⟨.char c, .inl rfl, pieces_escaped h⟩
  unfold escape
  split
  case h_8 hquote hslash _ _ _ _ _ =>
    split
    · next hlow => exact ⟨.unit c.toNat, .inr ⟨rfl, hlow⟩, pieces_unit hlow⟩
    · next hlow => exact ⟨.char c, .inl rfl, pieces_char hquote hslash (Nat.le_of_not_lt hlow)⟩
  all_goals exact hletter (by rfl)

/-- A part that stands for a character is taken as that character. -/
theorem assemble_cons {c : Char} {p : Piece} (h : p.Spells c) (ps : List Piece) :
    assemble (p :: ps) = (assemble ps).map (c :: ·) := by
  obtain rfl | ⟨rfl, hlow⟩ := h
  · rw [assemble]
  · have hhigh : isHigh c.toNat = false := by simp [isHigh]; omega
    have hnotLow : isLow c.toNat = false := by simp [isLow]; omega
    have hchar : Char.ofNat c.toNat = c := Char.ofNat_toNat c
    cases ps with
    | nil =>
        show (if isHigh c.toNat || isLow c.toNat then _ else _) = _
        rw [hhigh, hnotLow, hchar]
        rfl
    | cons q ps =>
        cases q with
        | char d =>
            show (if isHigh c.toNat || isLow c.toNat then _ else _) = _
            rw [hhigh, hnotLow, hchar]
            rfl
        | unit l =>
            rw [assemble, hhigh, hnotLow, hchar]
            rfl

/-- **A string is read back**, and what follows it is left. -/
theorem string?_quoted (s : String) (rest : List Char) :
    string? (s.toList.flatMap escape ++ '"' :: rest) = some (some s, rest) := by
  have hpieces : ∀ cs : List Char, ∃ ps, pieces (cs.flatMap escape ++ '"' :: rest) = some (ps, rest) ∧
      assemble ps = some cs := by
    intro cs
    induction cs with
    | nil => exact ⟨[], by rw [List.flatMap_nil, List.nil_append, pieces], rfl⟩
    | cons c cs ih =>
        obtain ⟨ps, hps, hassemble⟩ := ih
        obtain ⟨p, hp, hread⟩ := pieces_escape c
        refine ⟨p :: ps, ?_, ?_⟩
        · rw [List.flatMap_cons, List.append_assoc, hread, hps]
          rfl
        · rw [assemble_cons hp, hassemble]
          rfl
  obtain ⟨ps, hps, hassemble⟩ := hpieces s.toList
  rw [string?, hps]
  show some ((assemble ps).map String.ofList, rest) = _
  rw [hassemble, Option.map_some, String.ofList_toList]

/-! ## Numerals -/

/-- What may come after a value: nothing, or the mark that ends the value or
    what it stands in. -/
def Closes (rest : List Char) : Prop := ∀ c ∈ rest.head?, c = ',' ∨ c = ']' ∨ c = '}'

/-- Where digits end. -/
def Stops (rest : List Char) : Prop := ∀ c ∈ rest.head?, Decimal.isDigit c = false

/-- A text that ends here closes a value. -/
theorem Closes.nil : Closes [] := fun _ h => nomatch h

/-- So does one that goes on with a comma or a closing bracket. -/
theorem Closes.cons {c : Char} (h : c = ',' ∨ c = ']' ∨ c = '}') (rest : List Char) :
    Closes (c :: rest) := by
  intro d hd
  rwa [← Option.some.inj hd]

/-- What closes a value is not part of a number. -/
theorem Closes.stops {rest : List Char} (h : Closes rest) : Stops rest := by
  intro c hc
  obtain rfl | rfl | rfl := h c hc <;> rfl

/-- What begins with no digit stops the digits before it. -/
theorem Stops.cons {c : Char} (h : Decimal.isDigit c = false) (rest : List Char) :
    Stops (c :: rest) := by
  intro d hd
  rwa [← Option.some.inj hd]

/-- Digits are read up to where they end. -/
theorem digits?_append {ds rest : List Char} (hds : ds ≠ [] ∧ ∀ c ∈ ds, Decimal.isDigit c = true)
    (hrest : Stops rest) : digits? (ds ++ rest) = some (ds, rest) := by
  obtain ⟨hne, hds⟩ := hds
  have htake : (ds ++ rest).takeWhile Decimal.isDigit = ds := by
    rw [List.takeWhile_append_of_pos hds]
    cases rest with
    | nil => simp
    | cons c rest => simp [hrest c rfl]
  have hdrop : (ds ++ rest).dropWhile Decimal.isDigit = rest := by
    rw [List.dropWhile_append_of_pos hds]
    cases rest with
    | nil => rfl
    | cons c rest => simp [hrest c rfl]
  rw [digits?, htake, hdrop]
  cases ds with
  | nil => exact absurd rfl hne
  | cons d ds => rfl

/-- How a fraction is written. -/
def fractionChars (ds : List Char) : List Char := if ds.isEmpty then [] else '.' :: ds

/-- How an exponent is written. -/
def exponentChars : Option (Bool × List Char) → List Char
  | none => []
  | some (false, ds) => 'e' :: '+' :: ds
  | some (true, ds) => 'e' :: '-' :: ds

/-- A numeral is its sign, its whole part, its fraction and its exponent. -/
theorem chars_eq (n : Numeral) : n.chars = (if n.negative then ['-'] else []) ++
    (n.whole ++ (fractionChars n.fraction ++ exponentChars n.exponent)) := by
  obtain ⟨negative, whole, fraction, exponent⟩ := n
  rw [Numeral.chars, List.append_assoc, List.append_assoc]
  rcases exponent with _ | ⟨_ | _, ds⟩ <;> rfl

/-- An exponent is read back, whatever closes it. -/
theorem exponent?_append {e : Option (Bool × List Char)}
    (he : ∀ x ∈ e, x.2 ≠ [] ∧ ∀ c ∈ x.2, Decimal.isDigit c = true) {rest : List Char}
    (hrest : Closes rest) : exponent? (exponentChars e ++ rest) = some (e, rest) := by
  match e with
  | none =>
      cases rest with
      | nil => rfl
      | cons c rest => obtain rfl | rfl | rfl := hrest c rfl <;> rfl
  | some (false, ds) =>
      show (exponentBody? ('+' :: (ds ++ rest))).map _ = _
      rw [exponentBody?, digits?_append (he _ rfl) hrest.stops]
      rfl
  | some (true, ds) =>
      show (exponentBody? ('-' :: (ds ++ rest))).map _ = _
      rw [exponentBody?, digits?_append (he _ rfl) hrest.stops]
      rfl

/-- What comes after a fraction is no digit and no point. -/
theorem head_exponentChars (e : Option (Bool × List Char)) {rest : List Char} (hrest : Closes rest) :
    ∀ c ∈ (exponentChars e ++ rest).head?, Decimal.isDigit c = false ∧ c ≠ '.' := by
  intro c hc
  match e with
  | none => obtain rfl | rfl | rfl := hrest c hc <;> decide
  | some (false, ds) => rw [← Option.some.inj hc]; decide
  | some (true, ds) => rw [← Option.some.inj hc]; decide

/-- The digits of a fraction are read back where neither a digit nor another
    point comes next. -/
theorem fraction?_append {ds : List Char} (hds : ∀ c ∈ ds, Decimal.isDigit c = true)
    {rest : List Char} (hrest : ∀ c ∈ rest.head?, Decimal.isDigit c = false ∧ c ≠ '.') :
    fraction? (fractionChars ds ++ rest) = some (ds, rest) := by
  cases ds with
  | nil =>
      show fraction? rest = _
      cases rest with
      | nil => rfl
      | cons c rest =>
          rw [fraction?]
          intro rest' h
          exact (hrest c rfl).2 (List.cons.inj h).1
  | cons d ds => exact digits?_append ⟨List.cons_ne_nil d ds, hds⟩ fun c hc => (hrest c hc).1

/-- The whole part of a number is read back: a zero that leads it stands
    alone. -/
theorem whole?_append {ds : List Char} (hds : ds ≠ [] ∧ ∀ c ∈ ds, Decimal.isDigit c = true)
    (hzero : ds.head? = some '0' → ds = ['0']) {rest : List Char} (hrest : Stops rest) :
    whole? (ds ++ rest) = some (ds, rest) := by
  by_cases h : ds.head? = some '0'
  · rw [hzero h]
    rfl
  · rw [whole?, digits?_append hds hrest]
    intro rest' heq
    cases ds with
    | nil => exact hds.1 rfl
    | cons d ds => exact h (congrArg some (List.cons.inj heq).1)

end Source

/-- A numeral as the grammar has it: no zero leads, and there are digits where
    some have to be. -/
structure Numeral.Proper (n : Numeral) : Prop where
  whole : n.whole ≠ [] ∧ ∀ c ∈ n.whole, Decimal.isDigit c = true
  leading : n.whole.head? = some '0' → n.whole = ['0']
  fraction : ∀ c ∈ n.fraction, Decimal.isDigit c = true
  exponent : ∀ e ∈ n.exponent, e.2 ≠ [] ∧ ∀ c ∈ e.2, Decimal.isDigit c = true

namespace Source

/-- **A numeral is read back** with its spelling. -/
theorem numeral?_chars {n : Numeral} (h : n.Proper) {rest : List Char} (hrest : Closes rest) :
    numeral? (n.chars ++ rest) = some (n, rest) := by
  have hexponent := head_exponentChars n.exponent hrest
  have hfraction : Stops (fractionChars n.fraction ++ (exponentChars n.exponent ++ rest)) := by
    cases hf : n.fraction with
    | nil => exact fun c hc => (hexponent c hc).1
    | cons d ds => exact Stops.cons rfl _
  have hunsigned (negative : Bool) : unsigned? negative
      (n.whole ++ (fractionChars n.fraction ++ exponentChars n.exponent) ++ rest) =
        some (⟨negative, n.whole, n.fraction, n.exponent⟩, rest) := by
    rw [unsigned?, List.append_assoc, List.append_assoc, whole?_append h.whole h.leading hfraction]
    show (fraction? _).bind _ = _
    rw [fraction?_append h.fraction hexponent]
    show (exponent? _).bind _ = _
    rw [exponent?_append h.exponent hrest]
    rfl
  rw [chars_eq, List.append_assoc]
  cases hsign : n.negative with
  | true =>
      refine (hunsigned true).trans ?_
      rw [← hsign]
  | false =>
      rw [if_neg Bool.false_ne_true, List.nil_append, numeral?, hunsigned, ← hsign]
      -- a digit is in front, so it is no sign
      intro rest' heq
      cases hw : n.whole with
      | nil => exact h.whole.1 hw
      | cons d ds =>
          rw [hw] at heq
          have hd := h.whole.2 d (by rw [hw]; exact List.mem_cons_self)
          rw [(List.cons.inj heq).1] at hd
          exact nomatch hd

/-! ## Values -/

/-- Fields whose names are texts. -/
def labelled (fields : List (String × Source)) : List (Option String × Source) :=
  fields.map fun f => (some f.1, f.2)

/-- A source that a text can spell: its numerals are proper, and its strings and
    the names of its fields are texts. -/
inductive Readable : Source → Prop
  | null : Readable .null
  | bool (b : Bool) : Readable (.bool b)
  | number {n : Numeral} (h : n.Proper) : Readable (.number n)
  | string (s : String) : Readable (.string (some s))
  | array {items : List Source} (h : ∀ s ∈ items, Readable s) : Readable (.array items)
  | object {fields : List (String × Source)} (h : ∀ f ∈ fields, Readable f.2) :
      Readable (.object (labelled fields))

/-- A source whose text is read back.  Two steps for each character of the text
    are enough. -/
structure ReadBack (s : Source) : Prop where
  head : ∀ rest, ∃ c cs, render s rest = c :: cs ∧ isBlank c = false ∧ c ≠ ']'
  longer : ∀ rest, rest.length < (render s rest).length
  back : ∀ fuel rest, Closes rest → 2 * (render s rest).length ≤ fuel + 2 * rest.length →
    read fuel (render s rest) = some (s, rest)

/-- What is not blank is not skipped. -/
theorem skipBlank_cons {c : Char} (h : isBlank c = false) (cs : List Char) :
    skipBlank (c :: cs) = c :: cs := by
  rw [skipBlank, List.dropWhile_cons_of_neg (by simp [h])]

/-- A text in quotes is its characters, escaped, up to the closing quote. -/
theorem quoted_append (s : String) (rest : List Char) :
    quoted s ++ rest = '"' :: (s.toList.flatMap escape ++ '"' :: rest) := by
  rw [quoted, List.cons_append, List.append_assoc]
  rfl

/-- A text that is read in one step. -/
theorem ReadBack.of_text {s : Source} (c : Char) (cs : List Char)
    (hrender : ∀ rest, render s rest = c :: (cs ++ rest)) (hblank : isBlank c = false)
    (hc : c ≠ ']')
    (hread : ∀ fuel rest, Closes rest → read (fuel + 1) (c :: (cs ++ rest)) = some (s, rest)) :
    ReadBack s := by
  have hlength (rest : List Char) : (render s rest).length = cs.length + rest.length + 1 := by
    rw [hrender, List.length_cons, List.length_append]
  refine ⟨fun rest => ⟨c, _, hrender rest, hblank, hc⟩, fun rest => ?_,
    fun fuel rest hrest hfuel => ?_⟩
  · rw [hlength]
    omega
  · rw [hlength] at hfuel
    obtain ⟨fuel, rfl⟩ : ∃ k, fuel = k + 1 := ⟨fuel - 1, by omega⟩
    rw [hrender, hread fuel rest hrest]

/-- A digit or a sign is no blank, and no mark that opens or closes another
    value. -/
theorem not_mark {c : Char} (hc : Decimal.isDigit c = true ∨ c = '-') :
    isBlank c = false ∧ ∀ d ∈ ['n', 't', 'f', '"', '[', '{', ']'], c ≠ d := by
  have hmarks : ∀ d ∈ [' ', '\t', '\n', '\r', 'n', 't', 'f', '"', '[', '{', ']'],
      (!Decimal.isDigit d && d != '-') = true := List.all_eq_true.1 (by decide)
  have hne : ∀ d ∈ [' ', '\t', '\n', '\r', 'n', 't', 'f', '"', '[', '{', ']'], c ≠ d := by
    rintro d hd rfl
    obtain ⟨hdigit, hsign⟩ := Bool.and_eq_true_iff.1 (hmarks c hd)
    obtain hc | hc := hc
    · rw [hc] at hdigit
      exact nomatch hdigit
    · exact bne_iff_ne.1 hsign hc
  refine ⟨by simp [isBlank, hne], fun d hd => hne d ?_⟩
  exact List.mem_append_right [' ', '\t', '\n', '\r'] hd

/-- What begins with a digit or a sign is read as a numeral. -/
theorem read_numeral {c : Char} (hc : Decimal.isDigit c = true ∨ c = '-') (fuel : Nat)
    (cs : List Char) :
    read (fuel + 1) (c :: cs) = (numeral? (c :: cs)).map fun (n, rest) => (.number n, rest) := by
  obtain ⟨hblank, hne⟩ := not_mark hc
  rw [read, skipBlank_cons hblank]
  split
  case h_7 => rfl
  all_goals
    next heq => exact absurd (List.cons.inj heq).1 (hne _ (by decide))

/-- A number begins with a digit or a sign, and so is taken for nothing
    else. -/
theorem head_chars {n : Numeral} (h : n.Proper) :
    ∃ c cs, n.chars = c :: cs ∧ (Decimal.isDigit c = true ∨ c = '-') := by
  rw [chars_eq]
  cases n.negative with
  | true => exact ⟨_, _, rfl, .inr rfl⟩
  | false =>
      cases hw : n.whole with
      | nil => exact absurd hw h.whole.1
      | cons d ds => exact ⟨_, _, rfl, .inl (h.whole.2 d (by rw [hw]; exact List.mem_cons_self))⟩

/-- Numbers are read back. -/
theorem ReadBack.number {n : Numeral} (h : n.Proper) : ReadBack (.number n) := by
  obtain ⟨c, cs, hchars, hc⟩ := head_chars h
  refine ReadBack.of_text c cs (fun rest => ?_) (not_mark hc).1
    ((not_mark hc).2 _ (by decide)) fun fuel rest hrest => ?_
  · rw [render, hchars, List.cons_append]
  · rw [read_numeral hc, ← List.cons_append, ← hchars, numeral?_chars h hrest]
    rfl

/-- Texts are read back, whatever has to be escaped in them. -/
theorem ReadBack.string (s : String) : ReadBack (.string (some s)) := by
  refine ReadBack.of_text '"' (s.toList.flatMap escape ++ ['"']) (fun rest => ?_) rfl
    (by decide) fun fuel rest _ => ?_
  · rw [render, Option.getD_some, quoted]
    rfl
  · rw [List.append_assoc, Source.read]
    show (string? (s.toList.flatMap escape ++ '"' :: rest)).map _ = _
    rw [string?_quoted]
    rfl

/-- Truth values are read back. -/
theorem ReadBack.bool (b : Bool) : ReadBack (.bool b) := by
  cases b with
  | true =>
      exact .of_text 't' "rue".toList (fun rest => by rw [render]; rfl) rfl
        (by decide) fun fuel rest _ => by rw [Source.read]; rfl
  | false =>
      exact .of_text 'f' "alse".toList (fun rest => by rw [render]; rfl) rfl
        (by decide) fun fuel rest _ => by rw [Source.read]; rfl

/-- The empty value is read back. -/
theorem ReadBack.null : ReadBack .null :=
  .of_text 'n' "ull".toList (fun rest => by rw [render]; rfl) rfl (by decide)
    fun fuel rest _ => by rw [Source.read]; rfl

/-! ### Items -/

/-- What comes after an item of an array closes it. -/
theorem closes_renderItems (items : List Source) (rest : List Char) :
    Closes (renderItems items rest) := by
  cases items with
  | nil => exact Closes.cons (by decide) rest
  | cons s items => exact Closes.cons (by decide) _

/-- The items of an array take up characters, which is what fuel is counted
    by. -/
theorem length_renderItems {items : List Source} (h : ∀ s ∈ items, ReadBack s) (rest : List Char) :
    rest.length < (renderItems items rest).length := by
  induction items with
  | nil => exact Nat.lt_succ_self _
  | cons s items ih =>
      have hrest := ih fun t ht => h t (List.mem_cons_of_mem _ ht)
      have hs := (h s List.mem_cons_self).longer (renderItems items rest)
      rw [renderItems, List.length_cons]
      omega

/-- Items are read back if each of them is. -/
theorem readItems_render {s : Source} {items : List Source} (h : ∀ t ∈ s :: items, ReadBack t)
    (fuel : Nat) (rest : List Char)
    (hfuel : 2 * (render s (renderItems items rest)).length ≤ fuel + 2 * rest.length) :
    readItems fuel (render s (renderItems items rest)) = some (s :: items, rest) := by
  induction items generalizing s fuel with
  | nil =>
      have hs := h s List.mem_cons_self
      have hlonger := hs.longer (renderItems [] rest)
      have hlength : (renderItems [] rest).length = rest.length + 1 := by rw [renderItems]; rfl
      obtain ⟨fuel, rfl⟩ : ∃ k, fuel = k + 1 := ⟨fuel - 1, by omega⟩
      rw [readItems, hs.back fuel _ (closes_renderItems [] rest) (by omega), renderItems]
      rfl
  | cons t items ih =>
      have hs := h s List.mem_cons_self
      have hitems : ∀ u ∈ t :: items, ReadBack u := fun u hu => h u (List.mem_cons_of_mem _ hu)
      have hlonger := hs.longer (renderItems (t :: items) rest)
      have hlength : (renderItems (t :: items) rest).length =
          (render t (renderItems items rest)).length + 1 := by rw [renderItems]; rfl
      have hrest := length_renderItems hitems rest
      obtain ⟨fuel, rfl⟩ : ∃ k, fuel = k + 1 := ⟨fuel - 1, by omega⟩
      have hread : readItems fuel (render t (renderItems items rest)) = some (t :: items, rest) :=
        ih hitems fuel (by omega)
      rw [readItems, hs.back fuel _ (closes_renderItems (t :: items) rest) (by omega), renderItems]
      show (readItems fuel (render t (renderItems items rest))).map _ = _
      rw [hread]
      rfl

/-- An array that has items is read item by item. -/
theorem read_array {c : Char} (hblank : isBlank c = false) (hc : c ≠ ']') (fuel : Nat)
    (cs : List Char) : read (fuel + 1) ('[' :: c :: cs) =
      (readItems fuel (c :: cs)).map fun (items, rest) => (.array items, rest) := by
  have hopen : isBlank '[' = false := rfl
  simp only [read, skipBlank_cons hopen, skipBlank_cons hblank]
  split
  · next heq => exact absurd (List.cons.inj heq).1 hc
  · rfl

/-- Arrays are read back where their items are. -/
theorem ReadBack.array {items : List Source} (h : ∀ s ∈ items, ReadBack s) :
    ReadBack (.array items) := by
  cases items with
  | nil =>
      exact .of_text '[' [']'] (fun rest => by rw [render]; rfl) rfl (by decide)
        fun fuel rest _ => by rw [Source.read]; rfl
  | cons s items =>
      have hrender (rest : List Char) :
          render (.array (s :: items)) rest = '[' :: render s (renderItems items rest) := by
        rw [render]
      have hlonger (rest : List Char) : rest.length < (render s (renderItems items rest)).length :=
        Nat.lt_trans (length_renderItems (fun t ht => h t (List.mem_cons_of_mem _ ht)) rest)
          ((h s List.mem_cons_self).longer _)
      refine ⟨fun rest => ⟨_, _, hrender rest, rfl, by decide⟩, fun rest => ?_,
        fun fuel rest _ hfuel => ?_⟩
      · rw [hrender, List.length_cons]
        exact Nat.lt_succ_of_lt (hlonger rest)
      · rw [hrender, List.length_cons] at hfuel
        have := hlonger rest
        obtain ⟨fuel, rfl⟩ : ∃ k, fuel = k + 1 := ⟨fuel - 1, by omega⟩
        have hread := readItems_render h fuel rest (by omega)
        obtain ⟨c, cs, hcs, hblank, hc⟩ := (h s List.mem_cons_self).head (renderItems items rest)
        rw [hcs] at hread
        rw [hrender, hcs, read_array hblank hc, hread]
        rfl

/-! ### Fields -/

/-- What comes after a field of an object closes its value. -/
theorem closes_renderFields (fields : List (Option String × Source)) (rest : List Char) :
    Closes (renderFields fields rest) := by
  cases fields with
  | nil => exact Closes.cons (by decide) rest
  | cons f fields => exact Closes.cons (by decide) _

/-- One more field: a comma, its name and its value. -/
theorem renderFields_cons (f : String × Source) (fields : List (String × Source))
    (rest : List Char) : renderFields (labelled (f :: fields)) rest =
      ',' :: (quoted f.1 ++ ':' :: render f.2 (renderFields (labelled fields) rest)) := by
  show renderFields ((some f.1, f.2) :: labelled fields) rest = _
  rw [renderFields]
  rfl

/-- The fields of an object take up characters as well. -/
theorem length_renderFields {fields : List (String × Source)} (h : ∀ f ∈ fields, ReadBack f.2)
    (rest : List Char) : rest.length < (renderFields (labelled fields) rest).length := by
  induction fields with
  | nil => exact Nat.lt_succ_self _
  | cons f fields ih =>
      have hrest := ih fun g hg => h g (List.mem_cons_of_mem _ hg)
      have hf := (h f List.mem_cons_self).longer (renderFields (labelled fields) rest)
      rw [renderFields_cons, List.length_cons, List.length_append, List.length_cons]
      omega

section Following

variable {name : String} {s : Source} {fuel : Nat} {cs rest : List Char}

/-- A field is read back, and the brace behind it says that it is the last. -/
theorem readFields_last (h : read fuel cs = some (s, '}' :: rest)) :
    readFields (fuel + 1) (quoted name ++ ':' :: cs) = some ([(some name, s)], rest) := by
  have hquote : isBlank '"' = false := rfl
  have hcolon : isBlank ':' = false := rfl
  simp only [quoted_append, readFields, skipBlank_cons hquote, string?_quoted,
    skipBlank_cons hcolon, h]
  rfl

/-- A field is read back, and the comma behind it says that there are more. -/
theorem readFields_more (h : read fuel cs = some (s, ',' :: rest)) :
    readFields (fuel + 1) (quoted name ++ ':' :: cs) =
      (readFields fuel rest).map fun (fields, rest) => ((some name, s) :: fields, rest) := by
  have hquote : isBlank '"' = false := rfl
  have hcolon : isBlank ':' = false := rfl
  simp only [quoted_append, readFields, skipBlank_cons hquote, string?_quoted,
    skipBlank_cons hcolon, h]
  rfl

end Following

/-- Fields are read back if their values are. -/
theorem readFields_render {f : String × Source} {fields : List (String × Source)}
    (h : ∀ g ∈ f :: fields, ReadBack g.2) (fuel : Nat) (rest : List Char)
    (hfuel : 2 * (render f.2 (renderFields (labelled fields) rest)).length ≤
      fuel + 2 * rest.length) :
    readFields (fuel + 1) (quoted f.1 ++ ':' :: render f.2 (renderFields (labelled fields) rest)) =
      some (labelled (f :: fields), rest) := by
  induction fields generalizing f fuel with
  | nil =>
      have hf := h f List.mem_cons_self
      have hlength : (renderFields (labelled []) rest).length = rest.length + 1 := rfl
      exact readFields_last (hf.back fuel _ (closes_renderFields _ rest) (by omega))
  | cons g fields ih =>
      have hf := h f List.mem_cons_self
      have hfields : ∀ k ∈ g :: fields, ReadBack k.2 := fun k hk => h k (List.mem_cons_of_mem _ hk)
      have hlonger := hf.longer (renderFields (labelled (g :: fields)) rest)
      have hrest := length_renderFields hfields rest
      have hlength : (renderFields (labelled (g :: fields)) rest).length =
          (quoted g.1).length + (render g.2 (renderFields (labelled fields) rest)).length + 2 := by
        rw [renderFields_cons, List.length_cons, List.length_append, List.length_cons]
        omega
      obtain ⟨fuel, rfl⟩ : ∃ k, fuel = k + 1 := ⟨fuel - 1, by omega⟩
      have hback := hf.back (fuel + 1) _ (closes_renderFields (labelled (g :: fields)) rest)
        (by omega)
      rw [renderFields_cons g] at hback ⊢
      rw [readFields_more hback, ih hfields fuel (by omega)]
      rfl

/-- An object that has fields is read field by field. -/
theorem read_object {c : Char} (hblank : isBlank c = false) (hc : c ≠ '}') (fuel : Nat)
    (cs : List Char) : read (fuel + 1) ('{' :: c :: cs) =
      (readFields fuel (c :: cs)).map fun (fields, rest) => (.object fields, rest) := by
  have hopen : isBlank '{' = false := rfl
  simp only [read, skipBlank_cons hopen, skipBlank_cons hblank]
  split
  · next heq => exact absurd (List.cons.inj heq).1 hc
  · rfl

/-- Objects are read back where the values of their fields are. -/
theorem ReadBack.object {fields : List (String × Source)} (h : ∀ f ∈ fields, ReadBack f.2) :
    ReadBack (.object (labelled fields)) := by
  cases fields with
  | nil =>
      exact .of_text '{' ['}'] (fun rest => by rw [labelled, List.map_nil, render]; rfl)
        rfl (by decide) fun fuel rest _ => by rw [Source.read]; rfl
  | cons f fields =>
      have hrender (rest : List Char) : render (.object (labelled (f :: fields))) rest =
          '{' :: (quoted f.1 ++ ':' :: render f.2 (renderFields (labelled fields) rest)) := by
        show render (.object ((some f.1, f.2) :: labelled fields)) rest = _
        rw [render]
        rfl
      have hlonger (rest : List Char) :
          rest.length < (render f.2 (renderFields (labelled fields) rest)).length :=
        Nat.lt_trans (length_renderFields (fun g hg => h g (List.mem_cons_of_mem _ hg)) rest)
          ((h f List.mem_cons_self).longer _)
      refine ⟨fun rest => ⟨_, _, hrender rest, rfl, by decide⟩, fun rest => ?_,
        fun fuel rest _ hfuel => ?_⟩
      · have := hlonger rest
        rw [hrender, List.length_cons, List.length_append, List.length_cons]
        omega
      · have := hlonger rest
        rw [hrender, List.length_cons, List.length_append, List.length_cons] at hfuel
        -- one step opens the object and one reads its first field
        obtain ⟨fuel, rfl⟩ : ∃ k, fuel = k + 2 := ⟨fuel - 2, by omega⟩
        have hread := readFields_render h fuel rest (by omega)
        rw [quoted_append] at hread
        rw [hrender, quoted_append, read_object rfl (by decide), hread]
        rfl

/-! ### Whole texts -/

/-- **What a text can spell is read back.** -/
theorem Readable.readBack {s : Source} (h : Readable s) : ReadBack s := by
  induction h with
  | null => exact .null
  | bool b => exact .bool b
  | number h => exact .number h
  | string s => exact .string s
  | array _ ih => exact .array ih
  | object _ ih => exact .object ih

/-- The text of a source is read as that source. -/
theorem parse?_render {s : Source} (h : Readable s) :
    parse? (String.ofList (render s [])) = some s := by
  have hread := h.readBack.back (steps (render s [])) [] Closes.nil (Nat.le_add_right _ _)
  rw [parse?, String.toList_ofList, hread]
  rfl

end Source

/-! ## Written values -/

namespace Json

/-- A natural number is written without a sign, a fraction or an exponent. -/
theorem proper_ofNat (n : Nat) : (Numeral.ofNat n).Proper where
  whole := ⟨Decimal.digits_ne_nil n, Decimal.isDigit_of_mem_digits⟩
  leading := Decimal.eq_zero_of_head?_digits
  fraction _ h := nomatch h
  exponent _ h := nomatch h

/-- Natural numbers are read back. -/
theorem readable_ofNat (n : Nat) : (Json.ofNat n).source.Readable := .number (proper_ofNat n)

/-- The fields of an object are written under their names. -/
theorem fieldSources_eq (fields : List (String × Json)) :
    fieldSources fields = Source.labelled (fields.map fun f => (f.1, f.2.source)) := by
  induction fields with
  | nil => rw [fieldSources]; rfl
  | cons f fields ih => rw [fieldSources, ih]; rfl

/-- The items of an array are written one by one. -/
theorem itemSources_eq (items : List Json) : itemSources items = items.map source := by
  induction items with
  | nil => rw [itemSources]; rfl
  | cons j items ih => rw [itemSources, ih]; rfl

/-- An object can be read if the values of its fields can. -/
theorem readable_object {fields : List (String × Json)} (h : ∀ f ∈ fields, f.2.source.Readable) :
    (Json.object fields).source.Readable := by
  rw [source, fieldSources_eq]
  refine .object fun f hf => ?_
  obtain ⟨g, hg, rfl⟩ := List.mem_map.1 hf
  exact h g hg

/-- An array can be read if its items can. -/
theorem readable_array {items : List Json} (h : ∀ j ∈ items, j.source.Readable) :
    (Json.array items).source.Readable := by
  rw [source, itemSources_eq]
  refine .array fun s hs => ?_
  obtain ⟨j, hj, rfl⟩ := List.mem_map.1 hs
  exact h j hj

/-- What may be missing is read back where what is there is. -/
theorem readable_ofOption {α : Type} {write : α → Json} (h : ∀ a, (write a).source.Readable) :
    ∀ o, (ofOption write o).source.Readable
  | none => .null
  | some a => h a

/-! ### One value for each source -/

/-- Different texts are written differently. -/
theorem source_string_inj {a b : String} (h : (string a).source = (string b).source) : a = b :=
  Option.some.inj (Source.string.inj h)

/-- Different natural numbers are written differently. -/
theorem source_ofNat_inj {m n : Nat} (h : (ofNat m).source = (ofNat n).source) : m = n :=
  Decimal.digits_inj (congrArg Numeral.whole (Source.number.inj h))

/-- Values that may be missing are written differently where those that are
    there are, none of them as the empty value. -/
theorem source_ofOption_inj {α : Type} {write : α → Json}
    (h : ∀ {a a'}, (write a).source = (write a').source → a = a')
    (hnull : ∀ a, (write a).source ≠ .null) :
    ∀ {o o' : Option α}, (ofOption write o).source = (ofOption write o').source → o = o'
  | none, none, _ => rfl
  | none, some a, heq => absurd heq.symm (hnull a)
  | some a, none, heq => absurd heq (hnull a)
  | some _, some _, heq => congrArg some (h heq)

/-! ### Texts -/

/-- **The text of a value** is read as the source of that value. -/
theorem parse?_text {j : Json} (h : j.source.Readable) : Source.parse? j.text = some j.source :=
  Source.parse?_render h

end Json

end MeshSync
