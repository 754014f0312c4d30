import StructSync.Text.Numeral
import StructSync.Text.Printable

/-!
# Quoted text

Text between double quotes, with an escape for each character that would not show. Messages quote
text this way.
-/

namespace StructSync.Text

/-- A character as it stands inside quotes. -/
def quotedChar (c : Char) : String :=
  match c with
  | '\x00' => "\\0"
  | '\t' => "\\t"
  | '\r' => "\\r"
  | '\n' => "\\n"
  | '\\' => "\\\\"
  | '"' => "\\\""
  | c => if isPrintable c then String.singleton c else "\\u\x7b" ++ hexLower c.toNat ++ "\x7d"

/-- The text between quotes. -/
def quoted (s : String) : String := "\"" ++ String.join (s.toList.map quotedChar) ++ "\""

end StructSync.Text
