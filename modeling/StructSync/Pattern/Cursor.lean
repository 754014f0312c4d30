import StructSync.Pattern.Problem
import StructSync.Text.Blank

/-!
# Reading a pattern

A cursor stands before the characters of a pattern that are still to be read. In loose mode blanks
and comments between the parts of a pattern do not count; a comment runs from `#` to the end of its
line.
-/

namespace StructSync.Pattern

/-- A place in a pattern, what follows it, and what was learned before it. -/
structure Cursor where
  position : Position
  rest : List Char
  isLoose : Bool
  /-- the names of groups, with where they were given -/
  names : List (String × Span)

namespace Cursor

def ofText (pattern : String) : Cursor := ⟨.origin, pattern.toList, false, []⟩

def isAtEnd (c : Cursor) : Bool := c.rest.isEmpty

/-- The part of no characters where the cursor stands. -/
def here (c : Cursor) : Span := .point c.position

/-- The part that the next character takes. -/
def charSpan (c : Cursor) : Span :=
  match c.rest with
  | [] => c.here
  | next :: _ => ⟨c.position, c.position.next next⟩

/-- The part from a place to where the cursor stands. -/
def spanFrom (c : Cursor) (start : Position) : Span := ⟨start, c.position⟩

/-- Passes one character. -/
def bump (c : Cursor) : Cursor :=
  match c.rest with
  | [] => c
  | next :: rest => { c with position := c.position.next next, rest }

/-- Passes a number of characters. -/
def bumpMany : Nat → Cursor → Cursor
  | 0, c => c
  | n + 1, c => bumpMany n c.bump

/-- The cursor behind a text that follows it. -/
def after? (c : Cursor) (text : String) : Option Cursor :=
  if text.toList.isPrefixOf c.rest then some (c.bumpMany text.length) else none

/-- What follows blanks and comments from a place on. -/
def skipFrom (place : Position) (inComment : Bool) : List Char → Position × List Char
  | [] => (place, [])
  | c :: rest =>
    if inComment then skipFrom (place.next c) (c != '\n') rest
    else if isBlank c then skipFrom (place.next c) false rest
    else if c = '#' then skipFrom (place.next c) true rest
    else (place, c :: rest)

/-- Passes what does not count in loose mode. -/
def skipSpace (c : Cursor) : Cursor :=
  if c.isLoose then
    let (position, rest) := skipFrom c.position false c.rest
    { c with position, rest }
  else c

/-- Passes one character and what does not count behind it. -/
def bumpSolid (c : Cursor) : Cursor := c.bump.skipSpace

/-- The character behind the next one. -/
def peek (c : Cursor) : Option Char := c.rest.tail.head?

/-- The character behind the next one that is no blank. Of a comment in between only the sign that
starts it is passed. -/
def peekSolid (c : Cursor) : Option Char :=
  if c.isLoose then
    let solid := match c.rest.tail.dropWhile isBlank with
      | '#' :: rest => rest.dropWhile isBlank
      | rest => rest
    solid.head? <|> c.peek
  else c.peek

/-- The characters that satisfy a test from here on, at most a number of them, without what does
not count behind each. -/
def collectMany (test : Char → Bool) : Nat → Cursor → List Char × Cursor
  | 0, c => ([], c)
  | n + 1, c =>
    match c.rest with
    | [] => ([], c)
    | next :: _ =>
      if test next then
        let (more, after) := collectMany test n c.bumpSolid
        (next :: more, after)
      else ([], c)

/-- The characters that satisfy a test from here on. -/
def collect (test : Char → Bool) (c : Cursor) : List Char × Cursor :=
  collectMany test c.rest.length c

/-- Passes blanks, in any mode. -/
def skipBlanks (c : Cursor) : Cursor :=
  c.bumpMany (c.rest.takeWhile isBlank).length

end Cursor

/-- Ends the reading with a mistake in a part of the pattern. -/
def refuse {α : Type} (fault : Fault) (span : Span) : Except Problem α := .error ⟨fault, span⟩

end StructSync.Pattern
