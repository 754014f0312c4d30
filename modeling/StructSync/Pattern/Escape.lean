import StructSync.Pattern.Cursor
import StructSync.Pattern.Tree

/-!
# Escapes

What a backslash starts: characters written by number, properties, short classes, assertions, and
signs that are to stand for themselves.
-/

namespace StructSync.Pattern

/-! ### Characters by number -/

/-- Is the character a hexadecimal digit? -/
def isHexDigit (c : Char) : Bool := (Text.hexValue? c).isSome

/-- The character whose code point the digits write. -/
def charOfHex? (digits : List Char) : Option Char :=
  let n := digits.foldl (fun n c => n * 16 + (Text.hexValue? c).getD 0) 0
  if n.isValidChar then some (Char.ofNat n) else none

/-- A fixed number of hexadecimal digits. -/
def hexDigits : Nat → Cursor → Except Problem (List Char × Cursor)
  | 0, c => .ok ([], c)
  | n + 1, c =>
    match c.rest with
    | [] => refuse .escapeUnfinished c.here
    | next :: _ =>
      if isHexDigit next then do
        let (digits, after) ← hexDigits n c.bumpSolid
        .ok (next :: digits, after)
      else refuse .hexDigit c.charSpan

/-- A character written with a fixed number of digits. The literal starts at a place before them. -/
def fixedHex (start : Position) (count : Nat) (c : Cursor) :
    Except Problem (Literal × Cursor) := do
  let (digits, after) ← hexDigits count c
  match charOfHex? digits with
  | some char => .ok (⟨after.spanFrom start, char, count == 2⟩, after)
  | none => refuse .hexInvalid (after.spanFrom c.position)

/-- A character written with digits in braces, from the opening brace on. -/
def bracedHex (start : Position) (c : Cursor) : Except Problem (Literal × Cursor) :=
  let (digits, close) := c.bumpSolid.collect isHexDigit
  match close.rest with
  | [] => refuse .escapeUnfinished (close.spanFrom c.position)
  | '\x7d' :: _ =>
    let after := close.bumpSolid
    if digits.isEmpty then refuse .hexEmpty (after.spanFrom c.position)
    else
      match charOfHex? digits with
      | some char => .ok (⟨after.spanFrom start, char, false⟩, after)
      | none => refuse .hexInvalid (close.spanFrom c.charSpan.stop)
  | _ => refuse .hexDigit close.charSpan

/-- A character written by number, from the letter behind the backslash on. -/
def hexLiteral (start : Position) (count : Nat) (c : Cursor) : Except Problem (Literal × Cursor) :=
  let c := c.bumpSolid
  match c.rest with
  | [] => refuse .escapeUnfinished c.here
  | '\x7b' :: _ => bracedHex start c
  | _ => fixedHex start count c

/-! ### Properties -/

/-- The text before and behind the first place where a sign stands. -/
def splitFirst? (sign text : String) : Option (String × String) :=
  match text.splitOn sign with
  | first :: second :: more => some (first, sign.intercalate (second :: more))
  | _ => none

/-- The query that the text between braces writes. -/
def queryOf (text : String) : PropertyQuery :=
  match splitFirst? "!=" text <|> splitFirst? ":" text <|> splitFirst? "=" text with
  | some (name, value) => .value name value
  | none => .name text

/-- A property, from the letter behind the backslash on. -/
def property (start : Position) (isNegated : Bool) (c : Cursor) :
    Except Problem (Primitive × Cursor) :=
  let c := c.bumpSolid
  match c.rest with
  | [] => refuse .escapeUnfinished c.here
  | '\x7b' :: _ =>
    let (name, close) := c.bumpSolid.collect (· != '\x7d')
    if close.isAtEnd then refuse .escapeUnfinished close.here
    else
      let after := close.bump
      .ok (.property (after.spanFrom start) isNegated (queryOf (String.ofList name)), after)
  | '\\' :: _ => refuse .propertyInvalid c.charSpan
  | letter :: _ =>
    let after := c.bumpSolid
    .ok (.property (after.spanFrom start) isNegated (.name (String.singleton letter)), after)

/-! ### Word boundaries -/

/-- May the character stand in the name of a word boundary? -/
def isBoundaryLetter (c : Char) : Bool := c.isAlpha || c == '-'

/-- A word boundary of a special kind, from the opening brace on. There is none if what follows
looks like a count. -/
def boundary? (start : Position) (c : Cursor) : Except Problem (Option (Assertion × Cursor)) :=
  let first := c.bumpSolid
  match first.rest with
  | [] => refuse .boundaryUnfinished (first.spanFrom start)
  | letter :: _ =>
    if !isBoundaryLetter letter then .ok none
    else
      let (name, close) := first.collect isBoundaryLetter
      match close.rest with
      | '\x7d' :: _ =>
        match String.ofList name with
        | "start" => .ok (some (.wordStart, close.bump))
        | "end" => .ok (some (.wordEnd, close.bump))
        | "start-half" => .ok (some (.wordStartHalf, close.bump))
        | "end-half" => .ok (some (.wordEndHalf, close.bump))
        | _ => refuse .boundaryUnknown (close.spanFrom first.position)
      | _ => refuse .boundaryUnclosed (close.spanFrom c.position)

/-- What follows `\b`. -/
def wordBoundary (start : Position) (c : Cursor) : Except Problem (Primitive × Cursor) := do
  match c.rest with
  | '\x7b' :: _ =>
    match ← boundary? start c with
    | some (kind, after) => .ok (.assertion (after.spanFrom start) kind, after)
    | none => .ok (.assertion (c.spanFrom start) .wordBoundary, c)
  | _ => .ok (.assertion (c.spanFrom start) .wordBoundary, c)

/-! ### All escapes -/

/-- The signs that have a meaning in a pattern. -/
def isMeaningful (c : Char) : Bool :=
  ['\\', '.', '+', '*', '?', '(', ')', '|', '[', ']', '\x7b', '\x7d', '^', '$', '#', '&', '-',
    '~'].contains c

/-- May a backslash stand before the character although that changes nothing? -/
def isEscapable (c : Char) : Bool :=
  isMeaningful c || (c.toNat < 0x80 && !c.isAlphanum && c != '<' && c != '>')

/-- The character that a letter behind a backslash stands for. -/
def charOfLetter? : Char → Option Char
  | 'a' => some '\x07'
  | 'f' => some '\x0c'
  | 't' => some '\t'
  | 'n' => some '\n'
  | 'r' => some '\r'
  | 'v' => some '\x0b'
  | _ => none

/-- The assertion that a character behind a backslash stands for. -/
def assertionOfLetter? : Char → Option Assertion
  | 'A' => some .textStart
  | 'z' => some .textEnd
  | 'B' => some .notWordBoundary
  | '<' => some .wordStart
  | '>' => some .wordEnd
  | _ => none

/-- The short class of a letter, and whether it is the class of all other characters. -/
def shortClass? : Char → Option (Bool × ShortClass)
  | 'd' => some (false, .digit)
  | 'D' => some (true, .digit)
  | 's' => some (false, .space)
  | 'S' => some (true, .space)
  | 'w' => some (false, .word)
  | 'W' => some (true, .word)
  | _ => none

/-- An escape of one character behind the backslash, read up to the cursor. -/
def shortEscape (start : Position) (letter : Char) (after : Cursor) :
    Except Problem (Primitive × Cursor) :=
  let span := after.spanFrom start
  if isEscapable letter then .ok (.literal ⟨span, letter, false⟩, after)
  else
    match charOfLetter? letter, assertionOfLetter? letter, shortClass? letter with
    | some char, _, _ => .ok (.literal ⟨span, char, false⟩, after)
    | _, some kind, _ => .ok (.assertion span kind, after)
    | _, _, some (isNegated, kind) => .ok (.short span isNegated kind, after)
    | none, none, none => refuse .escapeUnknown span

/-- An escape, from the backslash on. -/
def escape (c : Cursor) : Except Problem (Primitive × Cursor) := do
  let start := c.position
  let c := c.bump
  let literal (count : Nat) : Except Problem (Primitive × Cursor) := do
    let (l, after) ← hexLiteral start count c
    .ok (.literal l, after)
  match c.rest with
  | [] => refuse .escapeUnfinished (c.spanFrom start)
  | 'x' :: _ => literal 2
  | 'u' :: _ => literal 4
  | 'U' :: _ => literal 8
  | 'p' :: _ => property start false c
  | 'P' :: _ => property start true c
  | 'b' :: _ => wordBoundary start c.bump
  | letter :: _ =>
    if letter.isDigit then refuse .backreference ⟨start, c.charSpan.stop⟩
    else shortEscape start letter c.bump

end StructSync.Pattern
