import StructSync.Text.Numeral
import StructSync.Text.Quoted

/-!
# Problems with a JSON text

Reading stops at the first problem in text order. A problem is either one of the text itself or a
mismatch between a value and the data that should stand there; both know how many bytes of the
text were left when they were met.
-/

namespace StructSync.Json

/-- A problem of the text itself. -/
inductive SyntaxFault where
  | endInArray | endInObject | endInString | endInValue
  | colonExpected | arrayCommaExpected | objectCommaExpected | identExpected | valueExpected
  | quoteExpected | invalidEscape | invalidNumber | numberRange | controlCharacter
  | keyNotString | keyNotNumber | loneSurrogate | hexEscapeEnd | trailingComma
  | trailingCharacters
deriving DecidableEq

def SyntaxFault.message : SyntaxFault → String
  | endInArray => "EOF while parsing a list"
  | endInObject => "EOF while parsing an object"
  | endInString => "EOF while parsing a string"
  | endInValue => "EOF while parsing a value"
  | colonExpected => "expected `:`"
  | arrayCommaExpected => "expected `,` or `]`"
  | objectCommaExpected => "expected `,` or `\x7d`"
  | identExpected => "expected ident"
  | valueExpected => "expected value"
  | quoteExpected => "expected `\"`"
  | invalidEscape => "invalid escape"
  | invalidNumber => "invalid number"
  | numberRange => "number out of range"
  | controlCharacter =>
    "control character (\\u0000-\\u001F) found while parsing a string"
  | keyNotString => "key must be a string"
  | keyNotNumber => "invalid value: expected key to be a number in quotes"
  | loneSurrogate => "lone leading surrogate in hex escape"
  | hexEscapeEnd => "unexpected end of hex escape"
  | trailingComma => "trailing comma"
  | trailingCharacters => "trailing characters"

/-- A value as a message names it. -/
inductive Found where
  | null
  | boolean (value : Bool)
  | integer (value : Int)
  | float (text : String)
  | string (text : String)
  | array
  | object
deriving DecidableEq

def Found.text : Found → String
  | null => "null"
  | boolean value => if value then "boolean `true`" else "boolean `false`"
  | integer value => "integer `" ++ toString value ++ "`"
  | float text => "floating point `" ++ text ++ "`"
  | string text => "string " ++ Text.quoted text
  | array => "sequence"
  | object => "map"

/-- A mismatch between a value and the data expected. -/
inductive DataFault where
  | invalidType (found : Found) (expected : String)
  | invalidValue (found : Found) (expected : String)
  | invalidLength (length : Nat) (expected : String)
  | missingField (key : String)
  | duplicateField (key : String)
  | unknownField (key : String) (known : List String)
  | unknownVariant (name : String) (known : List String)
deriving DecidableEq

/-- Names between backquotes, as alternatives. -/
def alternatives : List String → String
  | [] => ""
  | [a] => "`" ++ a ++ "`"
  | [a, b] => "`" ++ a ++ "` or `" ++ b ++ "`"
  | names => "one of " ++ ", ".intercalate (names.map fun name => "`" ++ name ++ "`")

def DataFault.message : DataFault → String
  | invalidType found expected => "invalid type: " ++ found.text ++ ", expected " ++ expected
  | invalidValue found expected => "invalid value: " ++ found.text ++ ", expected " ++ expected
  | invalidLength length expected =>
    "invalid length " ++ toString length ++ ", expected " ++ expected
  | missingField key => "missing field `" ++ key ++ "`"
  | duplicateField key => "duplicate field `" ++ key ++ "`"
  | unknownField key known => "unknown field `" ++ key ++ "`, expected " ++ alternatives known
  | unknownVariant name known =>
    "unknown variant `" ++ name ++ "`, expected " ++ alternatives known

inductive Fault where
  | text (fault : SyntaxFault)
  | data (fault : DataFault)
deriving DecidableEq

def Fault.message : Fault → String
  | text fault => fault.message
  | data fault => fault.message

/-- A fault and the number of bytes of the text behind it. -/
structure Problem where
  fault : Fault
  left : Nat
deriving DecidableEq

namespace Problem

/-- A fault of the text, right before the rest. -/
def before (fault : SyntaxFault) (rest : List Char) : Problem :=
  ⟨.text fault, Text.utf8Length rest⟩

/-- A fault of the text at the first character of the rest, or at the end of the text. -/
def under (fault : SyntaxFault) (rest : List Char) : Problem :=
  ⟨.text fault, Text.utf8Length rest - 1⟩

/-- A mismatch, noticed right before the rest. -/
def mismatch (fault : DataFault) (rest : List Char) : Problem :=
  ⟨.data fault, Text.utf8Length rest⟩

end Problem

/-- A fault with its line, counted from one, and the bytes before it on that line. -/
structure Error where
  fault : Fault
  line : Nat
  column : Nat
deriving DecidableEq

namespace Error

/-- The line and column that lie that many bytes on. -/
def advance (line column : Nat) : Nat → List Char → Nat × Nat
  | 0, _ => (line, column)
  | bytes, [] => (line, column + bytes)
  | bytes, c :: rest =>
    if bytes < c.utf8Size then (line, column + bytes)
    else if c = '\n' then advance (line + 1) 0 (bytes - c.utf8Size) rest
    else advance line (column + c.utf8Size) (bytes - c.utf8Size) rest

/-- The problem placed in the text it was found in. -/
def locate (text : List Char) (problem : Problem) : Error :=
  let (line, column) := advance 1 0 (Text.utf8Length text - problem.left) text
  ⟨problem.fault, line, column⟩

/-- The fault and its place. -/
def message (e : Error) : String :=
  e.fault.message ++ " at line " ++ toString e.line ++ " column " ++ toString e.column

/-- The fault in short: a mismatch in its own words, anything wrong with the text as such. -/
def summary (e : Error) : String :=
  match e.fault with
  | .text _ => "malformed JSON"
  | .data fault => fault.message

end Error

end StructSync.Json
