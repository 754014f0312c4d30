import StructSync.Pattern.Position
import StructSync.Text.Numeral

/-!
# Mistakes in patterns

What can be wrong with a pattern, and how it is told: the pattern with carets under the part that
is wrong, and a line that says what the matter is.
-/

namespace StructSync.Pattern

inductive Fault where
  | backreference
  | boundaryUnclosed | boundaryUnfinished | boundaryUnknown
  | classUnclosed
  | countEmpty | countInvalid | countReversed | countUnclosed
  | escapeInClass | escapeUnfinished | escapeUnknown
  | flagDangling
  | flagDuplicate (first : Span)
  | flagNegatedTwice (first : Span)
  | flagUnfinished | flagUnknown
  | groupUnclosed | groupUnopened
  | hexDigit | hexEmpty | hexInvalid
  | lookAround
  | nameDuplicate (first : Span)
  | nameEmpty | nameInvalid | nameUnfinished
  | nesting
  | noText
  | noUnicode
  | propertyInvalid | propertyUnknown | propertyValueUnknown
  | rangeBoundary | rangeReversed
  | repetitionMissing
deriving DecidableEq

/-- How deep the parts of a pattern may lie in each other. -/
def depthLimit : Nat := 250

namespace Fault

def message : Fault → String
  | backreference => "backreferences are not supported"
  | boundaryUnclosed =>
    "special word boundary assertion is either unclosed or contains an invalid character"
  | boundaryUnfinished =>
    "found either the beginning of a special word boundary or a bounded repetition on a \\b "
      ++ "with an opening brace, but no closing brace"
  | boundaryUnknown =>
    "unrecognized special word boundary assertion, valid choices are: start, end, start-half "
      ++ "or end-half"
  | classUnclosed => "unclosed character class"
  | countEmpty => "repetition quantifier expects a valid decimal"
  | countInvalid => "decimal literal invalid"
  | countReversed => "invalid repetition count range, the start must be <= the end"
  | countUnclosed => "unclosed counted repetition"
  | escapeInClass => "invalid escape sequence found in character class"
  | escapeUnfinished => "incomplete escape sequence, reached end of pattern prematurely"
  | escapeUnknown => "unrecognized escape sequence"
  | flagDangling => "dangling flag negation operator"
  | flagDuplicate _ => "duplicate flag"
  | flagNegatedTwice _ => "flag negation operator repeated"
  | flagUnfinished => "expected flag but got end of regex"
  | flagUnknown => "unrecognized flag"
  | groupUnclosed => "unclosed group"
  | groupUnopened => "unopened group"
  | hexDigit => "invalid hexadecimal digit"
  | hexEmpty => "hexadecimal literal empty"
  | hexInvalid => "hexadecimal literal is not a Unicode scalar value"
  | lookAround => "look-around, including look-ahead and look-behind, is not supported"
  | nameDuplicate _ => "duplicate capture group name"
  | nameEmpty => "empty capture group name"
  | nameInvalid => "invalid capture group character"
  | nameUnfinished => "unclosed capture group name"
  | nesting =>
    "exceed the maximum number of nested parentheses/brackets (" ++ Text.decimal depthLimit ++ ")"
  | noText => "pattern can match invalid UTF-8"
  | noUnicode => "Unicode not allowed here"
  | propertyInvalid => "invalid Unicode character class"
  | propertyUnknown => "Unicode property not found"
  | propertyValueUnknown => "Unicode property value not found"
  | rangeBoundary => "invalid range boundary, must be a literal"
  | rangeReversed => "invalid character class range, the start must be <= the end"
  | repetitionMissing => "repetition operator missing expression"

/-- The part of the pattern that came first and makes the part at fault a mistake. -/
def first? : Fault → Option Span
  | flagDuplicate first | flagNegatedTwice first | nameDuplicate first => some first
  | _ => none

end Fault

/-- A mistake and the part of the pattern that it is about. -/
structure Problem where
  fault : Fault
  span : Span
deriving DecidableEq

namespace Problem

/-- The lines of a pattern without their ends. -/
def linesOf (pattern : String) : List String :=
  let isClosed := pattern.endsWith "\n"
  let parts := pattern.splitOn "\n"
  let closed := if isClosed then parts.dropLast else parts
  closed.mapIdx fun n line =>
    if (isClosed || n + 1 < closed.length) && line.endsWith "\r" then
      String.ofList line.toList.dropLast
    else line

/-- Carets under parts of one line. A part without characters has one caret too. -/
def carets (spans : List Span) : String :=
  String.ofList (spans.foldl (fun line span =>
    line ++ List.replicate (span.start.column - 1 - line.length) ' '
      ++ List.replicate (max 1 (span.stop.column - span.start.column)) '^') [])

/-- The parts to point at, in order. -/
def spans (p : Problem) : List Span :=
  match p.fault.first? with
  | none => [p.span]
  | some first => if first.isBefore p.span then [first, p.span] else [p.span, first]

/-- The pattern with carets below its lines. Where there are several lines they are numbered. -/
def marked (p : Problem) (pattern : String) : String :=
  let lines := linesOf pattern
  let count := if pattern.endsWith "\n" then lines.length + 1 else lines.length
  let width := if count ≤ 1 then 0 else (Text.decimal count).length
  let indent := if width = 0 then 4 else width + 2
  String.join (lines.mapIdx fun n line =>
    let label := if width = 0 then "    "
      else Text.padLeft width ' ' (Text.decimal (n + 1)) ++ ": "
    let below := p.spans.filter fun span => span.isOneLine && span.start.line == n + 1
    let notes := if below.isEmpty then ""
      else Text.padRight indent "" ++ carets below ++ "\n"
    label ++ line ++ "\n" ++ notes)

/-- Where a part of several lines lies. -/
def placeText (span : Span) : String :=
  "on line " ++ Text.decimal span.start.line ++ " (column " ++ Text.decimal span.start.column
    ++ ") through line " ++ Text.decimal span.stop.line ++ " (column "
    ++ Text.decimal (span.stop.column - 1) ++ ")\n"

/-- What is to be told about the mistake in a pattern. -/
def text (p : Problem) (pattern : String) : String :=
  let frame := if pattern.contains '\n' then String.ofList (List.replicate 79 '~') ++ "\n" else ""
  let places := (p.spans.filter fun span => !span.isOneLine).map placeText
  "regex parse error:\n" ++ frame ++ p.marked pattern ++ frame ++ String.join places
    ++ "error: " ++ p.fault.message

end Problem

end StructSync.Pattern
