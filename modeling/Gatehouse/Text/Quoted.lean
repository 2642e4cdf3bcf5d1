import Gatehouse.Text.Printable

/-!
# Quoted text

A text between double quotes with escapes, as messages and settings show it: on one line, and with
every character that cannot be seen spelled by its number.
-/

namespace Gatehouse.Text

/-- The digits of a number in base sixteen, in lower case. -/
def hexText (n : Nat) : String :=
  String.ofList (Nat.toDigits 16 n)

/-- The form of a character inside quotes. -/
def quotedChar (c : Char) : String :=
  match c with
  | '\x00' => "\\0"
  | '\t' => "\\t"
  | '\n' => "\\n"
  | '\r' => "\\r"
  | '"' => "\\\""
  | '\\' => "\\\\"
  | c =>
    if isShown c then String.singleton c else "\\u\x7b" ++ hexText c.toNat ++ "\x7d"

/-- The text between double quotes. -/
def quoted (text : String) : String :=
  "\"" ++ String.join (text.toList.map quotedChar) ++ "\""

end Gatehouse.Text
