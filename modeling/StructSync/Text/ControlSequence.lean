/-!
# Control sequences

`withoutControls` is what is left of a text for a reader who knows no control sequences: the
sequences that an escape character starts are left out, and so are control characters other than
white space.

White space shows inside a sequence too. It does not end the sequence but puts it off: what follows
shows as well, up to the next control character, and from there the sequence goes on.
-/

namespace StructSync.Text

/-- A place in a text with control sequences. -/
inductive Place where
  /-- outside of all sequences -/
  | plain
  /-- behind an escape character -/
  | escape
  /-- behind an escape character and signs that go with it -/
  | escapeTail
  /-- among the parameters of a sequence that a letter ends -/
  | parameters
  /-- in a string that the bell ends -/
  | title
  /-- at the head of a string for a device -/
  | device
  /-- among the parameters in the head of a string for a device -/
  | deviceParameters
  /-- behind the parameters in the head of a string for a device -/
  | deviceTail
  /-- in a string that a byte of its own ends -/
  | body
deriving DecidableEq

/-- Tab, line feed, form feed and carriage return. -/
def isLayoutControl (n : Nat) : Bool := n == 9 || n == 10 || n == 12 || n == 13

/-- Does the text of the character hold the byte that ends a string? -/
def endsBody (c : Char) : Bool := (String.singleton c).toUTF8.toList.contains 0x9C

namespace Place

/-- The place behind an ASCII sign that is no control character. -/
def behindSign (p : Place) (n : Nat) : Place :=
  match p with
  | plain => plain
  | escape =>
    if n < 0x30 then escapeTail
    else if n = 0x50 then device
    else if n = 0x5B then parameters
    else if n = 0x5D then title
    else if n = 0x58 || n = 0x5E || n = 0x5F then body
    else plain
  | escapeTail => if n < 0x30 then escapeTail else plain
  | parameters => if n < 0x40 then parameters else plain
  | title => title
  | device => if n < 0x30 then deviceTail else if n < 0x40 then deviceParameters else body
  | deviceParameters =>
    if n < 0x30 then deviceTail else if n < 0x3C then deviceParameters else body
  | deviceTail => if n < 0x30 then deviceTail else body
  | body => body

/-- The place behind a character that is left out. -/
def next (p : Place) (c : Char) : Place :=
  let n := c.toNat
  if n = 0x1B then escape
  else if n = 0x18 || n = 0x1A then plain
  else if n < 0x20 then if p = title && n = 0x07 then plain else p
  else if n < 0x7F then p.behindSign n
  else if p = body && endsBody c then plain
  else p

/-- Does a control character for the layout show here? -/
def showsLayout : Place → Bool
  | plain | escape | escapeTail | parameters => true
  | title | device | deviceParameters | deviceTail | body => false

/-- Does the character show here, where the one before it does not? -/
def shows (p : Place) (c : Char) : Bool :=
  if c.toNat < 0x20 then isLayoutControl c.toNat && p.showsLayout
  else c.toNat != 0x7F && p = plain

/-- The place behind a character that shows. A sequence that was put off is forgotten at a character
that is not ASCII. -/
def behindShown (p : Place) (c : Char) : Place := if c.toNat < 0x80 then p else plain

end Place

/-- Does the character show where the one before it does? -/
def staysShown (c : Char) : Bool :=
  if c.toNat < 0x20 then isLayoutControl c.toNat else c.toNat != 0x7F

/-- The text from a place on without its control sequences and control characters; `isShown` tells
whether the character before it shows. -/
def dropControls (isShown : Bool) (p : Place) : List Char → List Char
  | [] => []
  | c :: rest =>
    if if isShown then staysShown c else p.shows c then
      c :: dropControls true (p.behindShown c) rest
    else dropControls false (p.next c) rest

theorem dropControls_sublist (isShown : Bool) (p : Place) (cs : List Char) :
    (dropControls isShown p cs).Sublist cs := by
  induction cs generalizing isShown p with
  | nil => exact List.Sublist.slnil
  | cons c rest ih =>
    rw [dropControls]
    generalize (if isShown then staysShown c else p.shows c) = shows
    cases shows with
    | false => exact (ih false (p.next c)).cons c
    | true => exact (ih true (p.behindShown c)).cons_cons c

/-- The text without control sequences and control characters. -/
def withoutControls (s : String) : String := String.ofList (dropControls false .plain s.toList)

end StructSync.Text
