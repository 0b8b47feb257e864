import MeshSync.Net.Ip
import MeshSync.Text.Alphanumeric

/-! # Patterns for values

    Which texts are regular expressions: alternatives of sequences, in which
    groups, classes and characters may be repeated.  How often can only be said
    by a sign, since a closing brace ends the field that a pattern stands for;
    neither can a pattern ask for the bounds of words or look around. -/

namespace MeshSync.LogFilter.Pattern

/-- What a character or an escape of a pattern stands for. -/
inductive Item where
  | one (c : Char)
  /-- Any one of several characters. -/
  | several
  /-- A place in the text. -/
  | place

/-! ## Escapes -/

/-- The character with a number of so many hexadecimal digits. -/
def numbered? (count : Nat) (cs : List Char) : Option (Item × List Char) := do
  let digits := cs.take count
  if digits.length < count then none
  let n := (← digits.mapM Net.hexDigit?).foldl (fun n d => n * 16 + d) 0
  if n < 0xD800 || (0xE000 ≤ n && n < 0x110000) then some (.one (Char.ofNat n), cs.drop count)
  else none

/-- The characters that letters stand for behind a backslash. -/
def letters : List (Char × Char) :=
  [('a', '\x07'), ('f', '\x0c'), ('t', '\t'), ('n', '\n'), ('r', '\r'), ('v', '\x0b')]

/-- What stands behind a backslash. -/
def escape? : List Char → Option (Item × List Char)
  | [] => none
  | 'x' :: rest => numbered? 2 rest
  | 'u' :: rest => numbered? 4 rest
  | 'U' :: rest => numbered? 8 rest
  | c :: rest =>
    if c = 'p' || c = 'P' then
      match rest with
      | category :: rest =>
        if "CLMNPSZclmnpsz".toList.contains category then some (.several, rest) else none
      | [] => none
    else if "dDsSwW".toList.contains c then some (.several, rest)
    else if c = 'A' || c = 'z' then some (.place, rest)
    else
      match letters.find? (·.1 = c) with
      | some (_, meant) => some (.one meant, rest)
      | none =>
        if c.toNat < 0x80 && !c.isAlphanum && c ≠ '<' && c ≠ '>' then some (.one c, rest) else none

/-! ## Classes -/

/-- A character or an escape inside a class; places have no room there. -/
def classItem? : List Char → Option (Item × List Char)
  | [] => none
  | '\\' :: rest =>
    match escape? rest with
    | some (.place, _) => none
    | found => found
  | c :: rest => some (.one c, rest)

/-- The names of classes that may stand in brackets and colons inside a class. -/
def classNames : List String :=
  ["alnum", "alpha", "ascii", "blank", "cntrl", "digit", "graph", "lower", "print", "punct",
   "space", "upper", "word", "xdigit"]

/-- What follows a class that is named, behind its opening bracket. -/
def afterNamed? (cs : List Char) : Option (List Char) := do
  let inner ← Text.afterChars? [':'] cs
  let inner := (Text.afterChars? ['^'] inner).getD inner
  classNames.findSome? fun name => Text.afterChars? (name.toList ++ [':', ']']) inner

/-- What follows the signs that may only stand at the beginning of a class,
    behind its opening bracket: one that reverses it, hyphens and, where there
    are none of these, a closing bracket that belongs to it. -/
def afterOpening (cs : List Char) : List Char :=
  let cs := (Text.afterChars? ['^'] cs).getD cs
  match cs with
  | '-' :: _ => cs.dropWhile (· = '-')
  | ']' :: rest => rest
  | _ => cs

/-- What follows classes of which so many are open, in at most so many steps. -/
def afterClasses? : Nat → Nat → List Char → Option (List Char)
  | _, 0, cs => some cs
  | 0, _ + 1, _ => none
  | _ + 1, _ + 1, [] => none
  | fuel + 1, depth + 1, '[' :: rest =>
    match afterNamed? rest with
    | some rest => afterClasses? fuel (depth + 1) rest
    | none => afterClasses? fuel (depth + 2) (afterOpening rest)
  | fuel + 1, depth + 1, ']' :: rest => afterClasses? fuel depth rest
  | fuel + 1, depth + 1, '&' :: '&' :: rest => afterClasses? fuel (depth + 1) rest
  | fuel + 1, depth + 1, '-' :: '-' :: rest => afterClasses? fuel (depth + 1) rest
  | fuel + 1, depth + 1, '~' :: '~' :: rest => afterClasses? fuel (depth + 1) rest
  | fuel + 1, depth + 1, cs =>
    match classItem? cs with
    | none => none
    | some (item, '-' :: last) =>
      match last with
      | ']' :: _ => afterClasses? fuel (depth + 1) ('-' :: last)
      | '-' :: _ => afterClasses? fuel (depth + 1) ('-' :: last)
      | _ =>
        match item, classItem? last with
        | .one first, some (.one last, rest) =>
          if first ≤ last then afterClasses? fuel (depth + 1) rest else none
        | _, _ => none
    | some (_, rest) => afterClasses? fuel (depth + 1) rest

/-! ## Groups -/

/-- Whether a character may stand in the name of a group. -/
def isNameChar (first : Bool) (c : Char) : Bool :=
  c = '_' || (Text.isAlphanumeric c && !(first && c.isDigit)) ||
    (!first && (c = '.' || c = '[' || c = ']'))

/-- What follows the name of a group. -/
def afterName? (cs : List Char) : Option (List Char) :=
  match Text.cut (· = '>') cs with
  | (first :: others, some rest) =>
    if isNameChar true first && others.all (isNameChar false) then some rest else none
  | _ => none

/-- Whether a text switches modes on, and behind a hyphen off, each but once. -/
def areModes (cs : List Char) : Bool :=
  cs.all ("imsUuxR-".toList.contains ·) && cs.Nodup && cs.getLast? ≠ some '-'

/-- What follows the opening of a group, and whether it is one: modes may also
    be switched for what follows. -/
def afterGroup? (cs : List Char) : Option (Bool × List Char) :=
  match cs with
  | '?' :: 'P' :: '<' :: rest => (afterName? rest).map (true, ·)
  | '?' :: '<' :: rest => (afterName? rest).map (true, ·)
  | '?' :: rest =>
    let modes := rest.takeWhile fun c => c ≠ ':' && c ≠ ')'
    match rest.drop modes.length with
    | ':' :: rest => if areModes modes then some (true, rest) else none
    | ')' :: rest => if areModes modes && !modes.isEmpty then some (false, rest) else none
    | _ => none
  | _ => some (true, cs)

/-! ## Patterns -/

/-- Whether a pattern goes on well where so many groups are open; `operand` says
    that there is something to repeat.  It has at most so many steps. -/
def goesOn : Nat → Nat → Bool → List Char → Bool
  | 0, _, _, _ => false
  | _ + 1, depth, _, [] => depth = 0
  | fuel + 1, depth, operand, c :: rest =>
    match c with
    | '(' =>
      match afterGroup? rest with
      | some (isGroup, rest) => goesOn fuel (if isGroup then depth + 1 else depth) false rest
      | none => false
    | ')' => 0 < depth && goesOn fuel (depth - 1) true rest
    | '|' => goesOn fuel depth false rest
    | '*' => operand && goesOn fuel depth true rest
    | '+' => operand && goesOn fuel depth true rest
    | '?' => operand && goesOn fuel depth true rest
    | '{' => false
    | '[' =>
      match afterClasses? (rest.length + 1) 1 (afterOpening rest) with
      | some rest => goesOn fuel depth true rest
      | none => false
    | '\\' =>
      match escape? rest with
      | some (_, rest) => goesOn fuel depth true rest
      | none => false
    | _ => goesOn fuel depth true rest

/-- Whether a text is a pattern. -/
def isPattern (cs : List Char) : Bool := goesOn (cs.length + 1) 0 false cs

end MeshSync.LogFilter.Pattern
