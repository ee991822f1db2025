import Phrasebook.Text.Printable

/-!
# Quoted text

A text between double quotes, as messages show it to a reader. A quote, a backslash and the
common controls have an escape of two characters, and any other character that is not printable
stands as its number in braces.
-/

namespace Phrasebook.Text

/-- The digits of a number in base 16, in lower case. -/
def hexDigits (n : Nat) : List Char := Nat.toDigits 16 n

/-- A character inside quotes. -/
def quotedChar (c : Char) : List Char :=
  match c with
  | '"' => ['\\', '"']
  | '\\' => ['\\', '\\']
  | '\t' => ['\\', 't']
  | '\r' => ['\\', 'r']
  | '\n' => ['\\', 'n']
  | '\x00' => ['\\', '0']
  | c =>
    if isPrintable c then [c]
    else ['\\', 'u', '\x7b'] ++ hexDigits c.toNat ++ ['\x7d']

/-- A text between quotes. -/
def quoted (s : String) : String :=
  String.ofList ('"' :: s.toList.flatMap quotedChar ++ ['"'])

/-- A set of texts, each between quotes, in braces. -/
def quotedSet (keys : List String) : String :=
  "\x7b" ++ ", ".intercalate (keys.map quoted) ++ "\x7d"

end Phrasebook.Text
