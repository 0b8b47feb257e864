import MeshSync.Net.Ip

/-! # Texts and keys of TOML

    A text stands between quotes, where a backslash escapes, or between
    apostrophes, where nothing does.  Three of either hold a text of several
    lines; at its end up to two more of them belong to the text. -/

namespace MeshSync.Toml

/-! ## Lines -/

/-- Whether a character separates words. -/
def isBlank (c : Char) : Bool := c = ' ' || c = '\t'

/-- Whether a character may stand in a text or a comment: no control character
    but the tab. -/
def isText (c : Char) : Bool := c = '\t' || (0x20 ≤ c.toNat && c.toNat ≠ 0x7F)

/-- What follows blanks. -/
def skipBlank (cs : List Char) : List Char := cs.dropWhile isBlank

/-- What follows the end of a line. -/
def newline? : List Char → Option (List Char)
  | '\n' :: rest => some rest
  | '\x0d' :: '\n' :: rest => some rest
  | _ => none

/-- What follows the end of a line, if one comes first. -/
def skipNewline (cs : List Char) : List Char := (newline? cs).getD cs

/-- What follows a line of which only blanks and a comment are left. -/
def lineEnd? (cs : List Char) : Option (List Char) :=
  let cs := match skipBlank cs with
    | '#' :: rest => rest.dropWhile isText
    | cs => cs
  if cs.isEmpty then some [] else newline? cs

/-- What follows blanks, line ends and comments that end with their lines; the
    flag tells whether a comment has begun. -/
def gap? : Bool → List Char → Option (List Char)
  | true, [] => none
  | _, '\n' :: rest => gap? false rest
  | _, '\x0d' :: '\n' :: rest => gap? false rest
  | true, c :: rest => if isText c then gap? true rest else none
  | false, '#' :: rest => gap? true rest
  | false, c :: rest => if isBlank c then gap? false rest else some (c :: rest)
  | false, [] => some []

/-! ## Escapes -/

/-- The character with a number, if there is one. -/
def scalar? (n : Nat) : Option Char :=
  if n < 0xD800 || (0xE000 ≤ n && n ≤ 0x10FFFF) then some (Char.ofNat n) else none

/-- The character that hexadecimal digits tell. -/
def ofHex? (digits : List Char) : Option Char :=
  ((digits.mapM Net.hexDigit?).map (·.foldl (fun n d => n * 16 + d) 0)).bind scalar?

/-- The character behind a backslash that stands for another. -/
def escaped? : Char → Option Char
  | 'b' => some '\x08'
  | 'f' => some '\x0c'
  | 'n' => some '\n'
  | 'r' => some '\x0d'
  | 't' => some '\t'
  | '\\' => some '\\'
  | '"' => some '"'
  | _ => none

/-! ## Texts -/

/-- A reading with a character in front. -/
def before (c : Char) (reading : Option (List Char × List Char)) :
    Option (List Char × List Char) :=
  reading.map fun (text, rest) => (c :: text, rest)

/-- A text in one line up to the quote that closes it, and what follows. -/
def quoted? : List Char → Option (List Char × List Char)
  | [] => none
  | '"' :: rest => some ([], rest)
  | '\\' :: 'u' :: a :: b :: c :: d :: rest =>
    (ofHex? [a, b, c, d]).bind fun x => before x (quoted? rest)
  | '\\' :: 'U' :: a :: b :: c :: d :: e :: f :: g :: h :: rest =>
    (ofHex? [a, b, c, d, e, f, g, h]).bind fun x => before x (quoted? rest)
  | '\\' :: c :: rest => (escaped? c).bind fun x => before x (quoted? rest)
  | c :: rest => if isText c && c ≠ '\\' then before c (quoted? rest) else none

/-- A text in one line up to the apostrophe that closes it, and what follows. -/
def literal? : List Char → Option (List Char × List Char)
  | [] => none
  | '\'' :: rest => some ([], rest)
  | c :: rest => if isText c then before c (literal? rest) else none

/-- A text of several lines up to the quotes that close it, and what follows.
    A backslash at the end of a line takes away the blanks and line ends behind
    it; the flag tells whether this is going on. -/
def quotedLines? : Bool → List Char → Option (List Char × List Char)
  | _, [] => none
  | true, '\n' :: rest => quotedLines? true rest
  | true, '\x0d' :: '\n' :: rest => quotedLines? true rest
  | true, ' ' :: rest => quotedLines? true rest
  | true, '\t' :: rest => quotedLines? true rest
  | _, '"' :: '"' :: '"' :: '"' :: '"' :: rest => some (['"', '"'], rest)
  | _, '"' :: '"' :: '"' :: '"' :: rest => some (['"'], rest)
  | _, '"' :: '"' :: '"' :: rest => some ([], rest)
  | _, '\\' :: 'u' :: a :: b :: c :: d :: rest =>
    (ofHex? [a, b, c, d]).bind fun x => before x (quotedLines? false rest)
  | _, '\\' :: 'U' :: a :: b :: c :: d :: e :: f :: g :: h :: rest =>
    (ofHex? [a, b, c, d, e, f, g, h]).bind fun x => before x (quotedLines? false rest)
  | _, '\\' :: c :: rest =>
    if (newline? (skipBlank (c :: rest))).isSome then quotedLines? true (c :: rest)
    else (escaped? c).bind fun x => before x (quotedLines? false rest)
  | _, '\x0d' :: '\n' :: rest => before '\n' (quotedLines? false rest)
  | _, c :: rest =>
    if (isText c && c ≠ '\\') || c = '\n' then before c (quotedLines? false rest) else none

/-- A text of several lines up to the apostrophes that close it, and what
    follows. -/
def literalLines? : List Char → Option (List Char × List Char)
  | [] => none
  | '\'' :: '\'' :: '\'' :: '\'' :: '\'' :: rest => some (['\'', '\''], rest)
  | '\'' :: '\'' :: '\'' :: '\'' :: rest => some (['\''], rest)
  | '\'' :: '\'' :: '\'' :: rest => some ([], rest)
  | '\x0d' :: '\n' :: rest => before '\n' (literalLines? rest)
  | c :: rest => if isText c || c = '\n' then before c (literalLines? rest) else none

/-- A text of any form, and what follows. -/
def text? (cs : List Char) : Option (String × List Char) :=
  let reading := match cs with
    | '"' :: '"' :: '"' :: rest => quotedLines? false (skipNewline rest)
    | '"' :: rest => quoted? rest
    | '\'' :: '\'' :: '\'' :: rest => literalLines? (skipNewline rest)
    | '\'' :: rest => literal? rest
    | _ => none
  reading.map fun (text, rest) => (String.ofList text, rest)

/-! ## Keys -/

/-- Whether a character may stand in a key without quotes. -/
def isKeyChar (c : Char) : Bool := c.isAlphanum || c = '_' || c = '-'

/-- A key of one part, and what follows. -/
def keyPart? (cs : List Char) : Option (String × List Char) :=
  match cs with
  | '"' :: rest => (quoted? rest).map fun (text, rest) => (String.ofList text, rest)
  | '\'' :: rest => (literal? rest).map fun (text, rest) => (String.ofList text, rest)
  | cs =>
    if (cs.takeWhile isKeyChar).isEmpty then none
    else some (String.ofList (cs.takeWhile isKeyChar), cs.dropWhile isKeyChar)

/-- The parts of a key, with blanks around each, and what follows, for a key of
    less than so many parts. -/
def keyParts? : Nat → List Char → Option (List String × List Char)
  | 0, _ => none
  | room + 1, cs =>
    match keyPart? (skipBlank cs) with
    | none => none
    | some (part, rest) =>
      match skipBlank rest with
      | '.' :: rest => (keyParts? room rest).map fun (parts, rest) => (part :: parts, rest)
      | rest => some ([part], rest)

end MeshSync.Toml
