import Mathlib.Data.List.Basic
import MeshSync.Pem

/-! # PEM texts one after another

    A well-formed text that ends with a line leaves no section open, so what
    follows it is read as if it stood alone (`certificates_append`).  Where it
    ends within a line, a line feed behind it completes that line and changes
    nothing else (`certificates_lineFeed`): a line that closes a section or is
    passed over does so whatever follows it, and one that begins a section
    cannot be the last of a well-formed text. -/

namespace MeshSync.Pem

variable {text : Bytes} {line : Bytes} {open? : Option Section}

/-! ## Lines -/

/-- Whether a byte ends a line. -/
def EndsLine (b : UInt8) : Prop := b = lineFeed ∨ b = carriageReturn

/-- Whether a text stops where a line ends. -/
def Ended (text : Bytes) : Prop := ∀ b, text.getLast? = some b → EndsLine b

theorem ended_nil : Ended [] := nofun

theorem ended_concat_lineFeed (text : Bytes) : Ended (text ++ [lineFeed]) := by
  intro b hb
  rw [List.getLast?_concat] at hb
  exact .inl (Option.some.inj hb).symm

theorem ended_of_getLast? (h : text.getLast? = some lineFeed) : Ended text := by
  intro b hb
  exact .inl (Option.some.inj (hb.symm.trans h))

/-- A text stops where its tail does. -/
theorem ended_cons_iff {b : UInt8} (h : text ≠ []) : Ended (b :: text) ↔ Ended text := by
  obtain ⟨c, rest, rfl⟩ := List.exists_cons_of_ne_nil h
  rw [Ended, Ended, List.getLast?_cons_cons]

theorem lines_cons_of_endsLine {b : UInt8} (h : EndsLine b) (rest : Bytes) :
    lines (b :: rest) = [b] :: lines rest := by
  rw [lines, if_pos (by simpa [EndsLine] using h)]

theorem lines_cons_of_not_endsLine {b : UInt8} {rest : Bytes} {more : List Bytes}
    (h : ¬ EndsLine b) (hrest : lines rest = line :: more) :
    lines (b :: rest) = (b :: line) :: more := by
  rw [lines, if_neg (by simpa [EndsLine] using h), hrest]

theorem lines_ne_nil (h : text ≠ []) : lines text ≠ [] := by
  obtain ⟨b, rest, rfl⟩ := List.exists_cons_of_ne_nil h
  rw [lines]
  split
  · exact List.cons_ne_nil _ _
  · split <;> exact List.cons_ne_nil _ _

/-- The lines of a text that stops where a line ends are those of any text it
    begins. -/
theorem lines_append (h : Ended text) (more : Bytes) :
    lines (text ++ more) = lines text ++ lines more := by
  induction text with
  | nil => rfl
  | cons b rest ih =>
      rw [List.cons_append]
      by_cases hb : EndsLine b
      · have hrest : Ended rest := by
          cases rest with
          | nil => exact ended_nil
          | cons c rest => exact (ended_cons_iff (List.cons_ne_nil _ _)).1 h
        rw [lines_cons_of_endsLine hb, lines_cons_of_endsLine hb, ih hrest]
        rfl
      · have hne : rest ≠ [] := by
          rintro rfl
          exact hb (h b rfl)
        obtain ⟨line, others, hlines⟩ := List.exists_cons_of_ne_nil (lines_ne_nil hne)
        have happend : lines (rest ++ more) = line :: (others ++ lines more) := by
          rw [ih ((ended_cons_iff hne).1 h), hlines, List.cons_append]
        rw [lines_cons_of_not_endsLine hb happend, lines_cons_of_not_endsLine hb hlines]
        rfl

/-- A line feed goes to the line within which a text stops. -/
theorem lines_concat_lineFeed (h : ¬ Ended text) : ∃ front last,
    lines text = front ++ [last] ∧
      lines (text ++ [lineFeed]) = front ++ [last ++ [lineFeed]] := by
  induction text with
  | nil => exact absurd ended_nil h
  | cons b rest ih =>
      rcases eq_or_ne rest [] with rfl | hne
      · have hb : ¬ EndsLine b := by
          intro hb
          refine h fun c hc => ?_
          rwa [← Option.some.inj hc]
        have hone : lines [b] = [[b]] := by rw [lines, if_neg (by simpa [EndsLine] using hb), lines]
        exact ⟨[], [b], hone, lines_cons_of_not_endsLine hb rfl⟩
      · obtain ⟨front, last, hlines, hlonger⟩ := ih fun hrest => h ((ended_cons_iff hne).2 hrest)
        by_cases hb : EndsLine b
        · refine ⟨[b] :: front, last, ?_, ?_⟩
          · rw [lines_cons_of_endsLine hb, hlines]
            rfl
          · rw [List.cons_append, lines_cons_of_endsLine hb, hlonger]
            rfl
        · -- the first line of the tail is the last one if the tail is one line
          cases front with
          | nil =>
              exact ⟨[], b :: last, lines_cons_of_not_endsLine hb hlines,
                lines_cons_of_not_endsLine hb hlonger⟩
          | cons line front =>
              exact ⟨(b :: line) :: front, last, lines_cons_of_not_endsLine hb hlines,
                lines_cons_of_not_endsLine hb hlonger⟩

/-! ## Reading on -/

theorem readLines_cons {next? : Option Section} {item? : Option Item}
    (h : readLine open? line = some (next?, item?)) (ls : List Bytes) :
    readLines open? (line :: ls) =
      (item?.toList ++ (readLines next? ls).1, (readLines next? ls).2) := by
  rw [readLines, h]

/-- Where all lines are read, so are the first and those behind it. -/
theorem readLine_of_whole {ls : List Bytes} (h : (readLines open? (line :: ls)).2 = true) :
    ∃ next? item?, readLine open? line = some (next?, item?) ∧ (readLines next? ls).2 = true := by
  cases hline : readLine open? line with
  | none =>
      rw [readLines, hline] at h
      exact nomatch h
  | some read =>
      rw [readLines_cons hline] at h
      exact ⟨_, _, rfl, h⟩

/-- **What follows a whole text is read as if it stood alone.** -/
theorem readLines_append {ls : List Bytes} (h : (readLines open? ls).2 = true)
    (more : List Bytes) :
    readLines open? (ls ++ more) =
      ((readLines open? ls).1 ++ (readLines none more).1, (readLines none more).2) := by
  induction ls generalizing open? with
  | nil =>
      obtain rfl : open? = none := Option.isNone_iff_eq_none.1 h
      rfl
  | cons line ls ih =>
      obtain ⟨next?, item?, hline, hrest⟩ := readLine_of_whole h
      rw [List.cons_append, readLines_cons hline, readLines_cons hline, ih hrest,
        List.append_assoc]

theorem lineFeed_not_mem_beginMark : lineFeed ∉ beginMark := by decide +kernel

/-- No line begins a section only because a line feed stands behind it. -/
theorem beginMark_prefix_concat :
    beginMark.isPrefixOf (line ++ [lineFeed]) = beginMark.isPrefixOf line := by
  rw [Bool.eq_iff_iff, List.isPrefixOf_iff_prefix, List.isPrefixOf_iff_prefix,
    List.prefix_concat_iff]
  refine or_iff_right fun heq => lineFeed_not_mem_beginMark ?_
  rw [heq]
  exact List.mem_append_right _ (List.mem_singleton_self _)

/-- A line after which no section is open is read alike with a line feed behind
    it. -/
theorem readLine_concat_lineFeed {item? : Option Item}
    (h : readLine open? line = some (none, item?)) :
    readLine open? (line ++ [lineFeed]) = some (none, item?) := by
  rw [readLine.eq_def] at h ⊢
  rw [beginMark_prefix_concat]
  split at h
  · -- a line that begins a section leaves it open
    obtain ⟨label, -, hread⟩ := Option.map_eq_some_iff.1 h
    exact nomatch hread
  · next hbegin =>
      rw [if_neg hbegin]
      cases open? with
      | none => exact h
      | some s =>
          dsimp only at h ⊢
          split at h
          · next hclose =>
              have hclose' : (endMark s.label).isPrefixOf (line ++ [lineFeed]) = true :=
                List.isPrefixOf_iff_prefix.2
                  ((List.isPrefixOf_iff_prefix.1 hclose).trans (List.prefix_append _ _))
              rw [if_pos hclose']
              exact h
          · exact nomatch h

theorem readLines_concat_lineFeed {front : List Bytes} {last : Bytes}
    (h : (readLines open? (front ++ [last])).2 = true) :
    readLines open? (front ++ [last ++ [lineFeed]]) = readLines open? (front ++ [last]) := by
  induction front generalizing open? with
  | nil =>
      obtain ⟨next?, item?, hlast, hend⟩ := readLine_of_whole h
      obtain rfl : next? = none := Option.isNone_iff_eq_none.1 hend
      rw [List.nil_append, List.nil_append, readLines_cons hlast,
        readLines_cons (readLine_concat_lineFeed hlast)]
  | cons line front ih =>
      obtain ⟨next?, item?, hline, hrest⟩ := readLine_of_whole h
      rw [List.cons_append, List.cons_append, readLines_cons hline, readLines_cons hline, ih hrest]

/-! ## Certificates -/

/-- Whether a text is well formed. -/
def Whole (text : Bytes) : Prop := (certificates text).2 = true

instance (text : Bytes) : Decidable (Whole text) :=
  inferInstanceAs (Decidable ((certificates text).2 = true))

theorem whole_nil : Whole [] := rfl

/-- **A line feed behind a well-formed text** changes nothing. -/
theorem certificates_lineFeed (h : Whole text) :
    certificates (text ++ [lineFeed]) = certificates text := by
  rw [Whole, certificates] at h
  dsimp only at h
  rw [certificates, certificates]
  by_cases hended : Ended text
  · have hblank : readLines none (lines [lineFeed]) = ([], true) := by decide +kernel
    rw [lines_append hended, readLines_append h, hblank, List.append_nil, ← h]
  · obtain ⟨front, last, hlines, hlonger⟩ := lines_concat_lineFeed hended
    rw [hlines] at h
    rw [hlines, hlonger, readLines_concat_lineFeed h]

/-- **The certificates of two texts, one after the other**, where the first is
    well formed and ends with a line. -/
theorem certificates_append (h : Whole text) (hended : Ended text) (more : Bytes) :
    certificates (text ++ more) =
      ((certificates text).1 ++ (certificates more).1, (certificates more).2) := by
  rw [certificates, lines_append hended, readLines_append h]
  simp only [List.filter_append, List.map_append, certificates]

end MeshSync.Pem
