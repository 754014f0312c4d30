/-!
# Places in a pattern

Mistakes in a pattern are shown under the part of it that they are about, so every part knows where
it stands.
-/

namespace StructSync.Pattern

/-- A place between two characters. Lines and columns count from one. -/
structure Position where
  line : Nat
  column : Nat
deriving DecidableEq

namespace Position

/-- The place before the first character. -/
def origin : Position := ⟨1, 1⟩

/-- The place behind a character. -/
def next (p : Position) (c : Char) : Position :=
  if c = '\n' then ⟨p.line + 1, 1⟩ else ⟨p.line, p.column + 1⟩

/-- Does the place come before the other one? -/
def isBefore (p q : Position) : Bool :=
  p.line < q.line || (p.line == q.line && p.column < q.column)

end Position

/-- The part of a pattern between two places. -/
structure Span where
  start : Position
  stop : Position
deriving DecidableEq

namespace Span

/-- The part of no characters at a place. -/
def point (p : Position) : Span := ⟨p, p⟩

def isOneLine (s : Span) : Bool := s.start.line == s.stop.line

/-- Does the part start before the other one, or end before it where both start? -/
def isBefore (s t : Span) : Bool :=
  s.start.isBefore t.start || (s.start == t.start && s.stop.isBefore t.stop)

end Span

end StructSync.Pattern
