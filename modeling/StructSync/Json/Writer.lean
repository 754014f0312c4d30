import StructSync.Text.Numeral

/-!
# Writing JSON

A `Json` value is what this library writes: natural numbers, text, lists and objects whose keys
keep their order. It is written on one line, or spread over lines with two blanks per level.
-/

namespace StructSync

/-- A JSON value to be written. -/
inductive Json where
  | null
  | number (value : Nat)
  | string (text : String)
  | array (items : List Json)
  | object (fields : List (String × Json))

namespace Json

/-- A character as it stands in a JSON string. Only quotes, backslashes and control characters
have an escape. -/
def escapeChar (c : Char) : List Char :=
  match c with
  | '"' => ['\\', '"']
  | '\\' => ['\\', '\\']
  | '\x08' => ['\\', 'b']
  | '\x0c' => ['\\', 'f']
  | '\n' => ['\\', 'n']
  | '\r' => ['\\', 'r']
  | '\t' => ['\\', 't']
  | c =>
    if c.toNat < 0x20 then
      ['\\', 'u', '0', '0', Nat.digitChar (c.toNat / 16), Nat.digitChar (c.toNat % 16)]
    else [c]

/-- Text as a JSON string. -/
def stringText (s : String) : List Char := '"' :: s.toList.flatMap escapeChar ++ ['"']

/-- How values are set out. -/
inductive Style where
  /-- all on one line -/
  | compact
  /-- one element per line -/
  | pretty
deriving DecidableEq

namespace Style

/-- What stands before an element at that depth. -/
def newline : Style → Nat → List Char
  | compact, _ => []
  | pretty, depth => '\n' :: List.replicate (2 * depth) ' '

/-- What stands between a key and its value. -/
def colon : Style → List Char
  | compact => [':']
  | pretty => [':', ' ']

end Style

mutual

/-- The value as text, `depth` brackets deep. -/
def write (style : Style) (depth : Nat) : Json → List Char
  | null => ['n', 'u', 'l', 'l']
  | number value => Nat.toDigits 10 value
  | string text => stringText text
  | array [] => ['[', ']']
  | array (item :: items) =>
    '[' :: style.newline (depth + 1) ++ write style (depth + 1) item
      ++ writeItems style (depth + 1) items ++ style.newline depth ++ [']']
  | object [] => ['\x7b', '\x7d']
  | object ((key, value) :: fields) =>
    '\x7b' :: style.newline (depth + 1) ++ stringText key ++ style.colon
      ++ write style (depth + 1) value ++ writeFields style (depth + 1) fields
      ++ style.newline depth ++ ['\x7d']

/-- The elements behind the first of an array. -/
def writeItems (style : Style) (depth : Nat) : List Json → List Char
  | [] => []
  | item :: items =>
    ',' :: style.newline depth ++ write style depth item ++ writeItems style depth items

/-- The fields behind the first of an object. -/
def writeFields (style : Style) (depth : Nat) : List (String × Json) → List Char
  | [] => []
  | (key, value) :: fields =>
    ',' :: style.newline depth ++ stringText key ++ style.colon ++ write style depth value
      ++ writeFields style depth fields

end

/-- The value as text. -/
def text (style : Style) (json : Json) : String := String.ofList (json.write style 0)

end Json

end StructSync
