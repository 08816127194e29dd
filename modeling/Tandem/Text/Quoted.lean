import Tandem.Text.Class.Hidden

/-!
Texts in quotes for people to read: every hidden character shows as an escape.
-/

namespace Tandem.Text

def hex (n : Nat) : List Char := Nat.toDigits 16 n

/-- One character between quotes. -/
def reveal (c : Char) : List Char :=
  match c with
  | '"' => ['\\', '"']
  | '\\' => ['\\', '\\']
  | '\n' => ['\\', 'n']
  | '\r' => ['\\', 'r']
  | '\t' => ['\\', 't']
  | '\x00' => ['\\', '0']
  | c => if isHidden c then '\\' :: 'u' :: '\x7b' :: hex c.toNat ++ ['\x7d'] else [c]

/-- A text in quotes. -/
def quoted (s : String) : String :=
  String.ofList ('"' :: s.toList.flatMap reveal ++ ['"'])

end Tandem.Text
