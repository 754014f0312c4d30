import StructSync.Pattern.Position
import StructSync.Text.Property

/-!
# The parts of a pattern

A pattern as it is written: a tree whose parts know where they stand.
-/

namespace StructSync.Pattern

/-- A switch for the meaning of what follows. -/
inductive Flag where
  | caseless | multiline | dotAll | swapGreed | unicode | crlf | loose
deriving DecidableEq

namespace Flag

def ofLetter? : Char → Option Flag
  | 'i' => some caseless
  | 'm' => some multiline
  | 's' => some dotAll
  | 'U' => some swapGreed
  | 'u' => some unicode
  | 'R' => some crlf
  | 'x' => some loose
  | _ => none

end Flag

/-- Flags that are switched on or off. -/
abbrev FlagChanges := List (Flag × Bool)

/-- A character. One that is written with two hexadecimal digits is a byte where text is not taken
as Unicode. -/
structure Literal where
  span : Span
  char : Char
  isByte : Bool

/-- The classes of one letter behind a backslash. -/
inductive ShortClass where
  | digit | space | word
deriving DecidableEq

/-- The named classes of ASCII characters. -/
inductive AsciiClass where
  | alnum | alpha | ascii | blank | cntrl | digit | graph | lower | print | punct | space | upper
  | word | xdigit
deriving DecidableEq

/-- The named classes by name. -/
def AsciiClass.ofName? (name : String) : Option AsciiClass :=
  [("alnum", alnum), ("alpha", alpha), ("ascii", ascii), ("blank", blank), ("cntrl", cntrl),
    ("digit", digit), ("graph", graph), ("lower", lower), ("print", print), ("punct", punct),
    ("space", space), ("upper", upper), ("word", word), ("xdigit", xdigit)].lookup name

/-- What must hold at a place in the text. -/
inductive Assertion where
  | lineStart | lineEnd | textStart | textEnd
  | wordBoundary | notWordBoundary | wordStart | wordEnd | wordStartHalf | wordEndHalf
deriving DecidableEq

/-- The smallest parts of a pattern. -/
inductive Primitive where
  | literal (l : Literal)
  | dot (span : Span)
  | assertion (span : Span) (kind : Assertion)
  | short (span : Span) (isNegated : Bool) (kind : ShortClass)
  | property (span : Span) (isNegated : Bool) (query : PropertyQuery)

def Primitive.span : Primitive → Span
  | literal l => l.span
  | dot span | assertion span _ | short span _ _ | property span _ _ => span

inductive SetOperator where
  | intersection | difference | symmetricDifference
deriving DecidableEq

/-- What stands between brackets. -/
inductive ClassTree where
  | empty (span : Span)
  | literal (l : Literal)
  | range (span : Span) (low high : Literal)
  | ascii (span : Span) (isNegated : Bool) (kind : AsciiClass)
  | short (span : Span) (isNegated : Bool) (kind : ShortClass)
  | property (span : Span) (isNegated : Bool) (query : PropertyQuery)
  | brackets (span : Span) (isNegated : Bool) (inside : ClassTree)
  | union (span : Span) (items : List ClassTree)
  | operation (span : Span) (operator : SetOperator) (left right : ClassTree)

namespace ClassTree

def span : ClassTree → Span
  | literal l => l.span
  | empty span | range span _ _ | ascii span _ _ | short span _ _ | property span _ _
  | brackets span _ _ | union span _ | operation span _ _ _ => span

/-- All of the items, which start at a place if there are none. -/
def ofItems (place : Position) : List ClassTree → ClassTree
  | [] => empty (.point place)
  | [item] => item
  | first :: rest => union ⟨first.span.start, (rest.getLastD first).span.stop⟩ (first :: rest)

end ClassTree

/-- A pattern as it is written. -/
inductive Tree where
  | empty (span : Span)
  | flags (span : Span) (changes : FlagChanges)
  | primitive (p : Primitive)
  | brackets (span : Span) (isNegated : Bool) (inside : ClassTree)
  | repetition (span : Span) (least : Nat) (most : Option Nat) (body : Tree)
  | group (span : Span) (isCapturing : Bool) (changes : FlagChanges) (body : Tree)
  | alternation (span : Span) (branches : List Tree)
  | sequence (span : Span) (items : List Tree)

namespace Tree

def span : Tree → Span
  | primitive p => p.span
  | empty span | flags span _ | brackets span _ _ | repetition span _ _ _ | group span _ _ _
  | alternation span _ | sequence span _ => span

/-- Can the part be repeated? -/
def isOperand : Tree → Bool
  | empty _ | flags _ _ => false
  | _ => true

/-- The items one after the other, as the part that they stand in. -/
def ofItems (span : Span) : List Tree → Tree
  | [] => empty span
  | [item] => item
  | items => sequence span items

end Tree

end StructSync.Pattern
