import MeshSync.Text.Mark
import MeshSync.Text.Unseen

/-! # Quoted texts

    A text as a message shows it: between double quotes, with an escape for
    what would not show on its own.  Letters of all scripts stand for
    themselves; controls, invisible characters, blanks other than the space
    and marks that attach to the character before them are given by number. -/

namespace MeshSync.Text

/-- A character between the quotes. -/
def quotedChar (c : Char) : List Char :=
  match c with
  | '"' => ['\\', '"']
  | '\\' => ['\\', '\\']
  | '\n' => ['\\', 'n']
  | '\r' => ['\\', 'r']
  | '\t' => ['\\', 't']
  | '\x00' => ['\\', '0']
  | _ =>
    if ' ' ≤ c && c ≤ '~' then [c]
    else if inRanges unseen c || inRanges attached c then
      '\\' :: 'u' :: '{' :: (Nat.toDigits 16 c.toNat ++ ['}'])
    else [c]

/-- A text between quotes. -/
def quoted (s : String) : String :=
  String.ofList ('"' :: (s.toList.flatMap quotedChar ++ ['"']))

end MeshSync.Text
