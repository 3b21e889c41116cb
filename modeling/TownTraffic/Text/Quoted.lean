import TownTraffic.Text.Unseen

/-!
# Text in quotation marks, for a reader

Messages quote foreign text between double quotes. Quotation marks and backslashes are escaped,
common controls have short escapes, and characters that leave no mark of their own are given by
their code point in braces.

* **`quoted`** — the quoted form of a text.
-/

namespace TownTraffic.Text

/-- The hexadecimal digits of a code point, in braces. -/
def codePoint (c : Char) : List Char :=
  ['\\', 'u', '{'] ++ Nat.toDigits 16 c.toNat ++ ['}']

/-- One character between quotation marks. -/
def quotedChar (c : Char) : List Char :=
  match c with
  | '"' => ['\\', '"']
  | '\\' => ['\\', '\\']
  | '\n' => ['\\', 'n']
  | '\r' => ['\\', 'r']
  | '\t' => ['\\', 't']
  | '\x00' => ['\\', '0']
  | c => if isUnseen c then codePoint c else [c]

/-- A text between quotation marks. -/
def quoted (s : String) : String :=
  .ofList ('"' :: s.toList.flatMap quotedChar ++ ['"'])

end TownTraffic.Text
