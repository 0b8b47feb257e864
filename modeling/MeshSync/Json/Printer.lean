import MeshSync.Json.Source

/-! # Writing JSON

    Compact texts: no blanks between tokens, and inside strings an escape only
    where the grammar asks for one. -/

namespace MeshSync

namespace Source

/-- A hexadecimal digit, in lower case. -/
def hexDigit (n : Nat) : Char :=
  if n < 10 then Char.ofNat ('0'.toNat + n) else Char.ofNat ('a'.toNat + (n - 10))

/-- A character inside a string. -/
def escape (c : Char) : List Char :=
  match c with
  | '"' => ['\\', '"']
  | '\\' => ['\\', '\\']
  | '\n' => ['\\', 'n']
  | '\r' => ['\\', 'r']
  | '\t' => ['\\', 't']
  | '\x08' => ['\\', 'b']
  | '\x0c' => ['\\', 'f']
  | _ =>
    if c.toNat < 0x20 then
      ['\\', 'u', '0', '0', hexDigit (c.toNat / 16), hexDigit (c.toNat % 16)]
    else [c]

/-- A string with its quotes. -/
def quoted (s : String) : List Char := '"' :: (s.toList.flatMap escape ++ ['"'])

mutual

/-- A text, in front of what follows it. -/
def render : Source → List Char → List Char
  | .null, rest => 'n' :: 'u' :: 'l' :: 'l' :: rest
  | .bool true, rest => 't' :: 'r' :: 'u' :: 'e' :: rest
  | .bool false, rest => 'f' :: 'a' :: 'l' :: 's' :: 'e' :: rest
  | .number n, rest => n.chars ++ rest
  | .string s, rest => quoted (s.getD "") ++ rest
  | .array [], rest => '[' :: ']' :: rest
  | .array (s :: items), rest => '[' :: render s (renderItems items rest)
  | .object [], rest => '{' :: '}' :: rest
  | .object ((name, s) :: fields), rest =>
    '{' :: (quoted (name.getD "") ++ ':' :: render s (renderFields fields rest))

/-- The items after the first, and the closing bracket. -/
def renderItems : List Source → List Char → List Char
  | [], rest => ']' :: rest
  | s :: items, rest => ',' :: render s (renderItems items rest)

/-- The fields after the first, and the closing brace. -/
def renderFields : List (Option String × Source) → List Char → List Char
  | [], rest => '}' :: rest
  | (name, s) :: fields, rest =>
    ',' :: (quoted (name.getD "") ++ ':' :: render s (renderFields fields rest))

end

end Source

/-- The text of a value. -/
def Json.text (j : Json) : String := String.ofList (j.source.render [])

end MeshSync
