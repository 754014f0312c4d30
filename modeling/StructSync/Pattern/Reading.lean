import StructSync.Pattern.Brackets

/-!
# Reading patterns

`Tree.ofText` reads a pattern as it is written, or tells the first mistake in it. Groups that are
still open are kept in a list, the innermost first.
-/

namespace StructSync.Pattern

/-- The start of a group. -/
structure Opening where
  /-- the opening parenthesis -/
  span : Span
  isCapturing : Bool
  changes : FlagChanges
  /-- the mode in which the group started -/
  wasLoose : Bool

/-- A group that is still open, or the pattern as a whole, which has no opening. -/
structure OpenGroup where
  opening? : Option Opening
  /-- where the first branch began -/
  start : Position
  /-- the branches that are complete, the last one first -/
  branches : List Tree
  /-- where the last branch began -/
  place : Position
  /-- the items of the last branch, the last one first -/
  items : List Tree

namespace OpenGroup

/-- A group of which nothing is read but its opening. -/
def ofOpening (opening? : Option Opening) (place : Position) : OpenGroup :=
  ⟨opening?, place, [], place, []⟩

def push (g : OpenGroup) (item : Tree) : OpenGroup := { g with items := item :: g.items }

/-- The last branch up to a place. -/
def branch (g : OpenGroup) (stop : Position) : Tree := .ofItems ⟨g.place, stop⟩ g.items.reverse

/-- Ends the last branch at a place and starts another behind it. -/
def split (g : OpenGroup) (stop next : Position) : OpenGroup :=
  { g with branches := g.branch stop :: g.branches, place := next, items := [] }

/-- All that was read, up to a place. -/
def tree (g : OpenGroup) (stop : Position) : Tree :=
  match g.branches with
  | [] => g.branch stop
  | branches => .alternation ⟨g.start, stop⟩ (g.branch stop :: branches).reverse

end OpenGroup

/-! ### Openings of groups -/

/-- Is a flag, or a negation for `none`, among those read, and where? -/
def flagSpan? (item : Option Flag) (items : List (Option Flag × Span)) : Option Span :=
  (items.find? fun (other, _) => other == item).map Prod.snd

/-- The flags up to the sign that ends them, the last one first, each with its place. A negation
has no flag. -/
def flagItems : Nat → List (Option Flag × Span) → Cursor →
    Except Problem (List (Option Flag × Span) × Cursor)
  | 0, _, c => refuse .flagUnfinished c.here
  | n + 1, items, c =>
    match c.rest with
    | [] => refuse .flagUnfinished c.here
    | ':' :: _ | ')' :: _ => .ok (items, c)
    | '-' :: _ =>
      match flagSpan? none items with
      | some first => refuse (.flagNegatedTwice first) c.charSpan
      | none => flagItems n ((none, c.charSpan) :: items) c.bump
    | letter :: _ =>
      match Flag.ofLetter? letter with
      | none => refuse .flagUnknown c.charSpan
      | some flag =>
        match flagSpan? (some flag) items with
        | some first => refuse (.flagDuplicate first) c.charSpan
        | none => flagItems n ((some flag, c.charSpan) :: items) c.bump

/-- What flags behind each other switch: those behind a negation off, the others on. -/
def changesOf (items : List (Option Flag)) : FlagChanges :=
  (items.takeWhile Option.isSome).reduceOption.map (·, true)
    ++ (items.dropWhile Option.isSome).reduceOption.map (·, false)

/-- The flags of a group. -/
def flags (c : Cursor) : Except Problem (FlagChanges × Cursor) := do
  let (items, after) ← flagItems (c.rest.length + 1) [] c
  match items with
  | (none, span) :: _ => refuse .flagDangling span
  | _ => .ok (changesOf (items.reverse.map Prod.fst), after)

/-- May the character stand in the name of a group? -/
def isNameChar (isFirst : Bool) (c : Char) : Bool :=
  c == '_' || CharSet.alphabetic.contains c
    || (!isFirst && (c == '.' || c == '[' || c == ']'
      || (CharSet.ofCategories ["nd", "nl", "no"]).contains c))

/-- The characters of a name up to the sign that ends it. -/
def nameChars : Nat → Bool → Cursor → Except Problem (List Char × Cursor)
  | 0, _, c => .ok ([], c)
  | n + 1, isFirst, c =>
    match c.rest with
    | [] | '>' :: _ => .ok ([], c)
    | next :: _ =>
      if isNameChar isFirst next then do
        let (more, after) ← nameChars n false c.bump
        .ok (next :: more, after)
      else refuse .nameInvalid c.charSpan

/-- The name of a group. No two groups have one name. -/
def groupName (c : Cursor) : Except Problem Cursor := do
  let (name, close) ← nameChars c.rest.length true c
  let name := String.ofList name
  let span := close.spanFrom c.position
  if close.isAtEnd then refuse .nameUnfinished close.here
  else if name.isEmpty then refuse .nameEmpty span
  else
    match c.names.lookup name with
    | some first => refuse (.nameDuplicate first) span
    | none =>
      let after := close.bump
      .ok { after with names := (name, span) :: after.names }

/-- What an opening parenthesis starts. -/
inductive Opened where
  /-- a group; the cursor stands in it -/
  | group (opening : Opening) (c : Cursor)
  /-- flags for what follows -/
  | flags (item : Tree) (c : Cursor)

/-- The mode that changes of flags leave. -/
def looseAfter (changes : FlagChanges) (isLoose : Bool) : Bool :=
  (changes.lookup .loose).getD isLoose

/-- What starts with a parenthesis and a question mark, from behind both on. -/
def openFlags (c : Cursor) (paren question : Span) : Except Problem Opened := do
  if c.isAtEnd then refuse .groupUnclosed paren
  let (changes, close) ← flags c
  let after := close.bump
  let inside := { after with isLoose := looseAfter changes c.isLoose }
  if close.rest.head? == some ':' then .ok (.group ⟨paren, false, changes, c.isLoose⟩ inside)
  else if changes.isEmpty then refuse .repetitionMissing question
  else .ok (.flags (.flags (after.spanFrom paren.start) changes) inside)

/-- The signs that would look around a place. -/
def lookAround? (c : Cursor) : Option Cursor :=
  c.after? "?=" <|> c.after? "?!" <|> c.after? "?<=" <|> c.after? "?<!"

/-- An opening parenthesis and what belongs to it. -/
def openGroup (c : Cursor) : Except Problem Opened := do
  let paren := c.charSpan
  let inside := c.bumpSolid
  match lookAround? inside with
  | some after => refuse .lookAround (after.spanFrom paren.start)
  | none =>
    match inside.after? "?P<" <|> inside.after? "?<" with
    | some name =>
      if name.isAtEnd then refuse .nameUnfinished name.here
      let after ← groupName name
      .ok (.group ⟨paren, true, [], c.isLoose⟩ after)
    | none =>
      match inside.after? "?" with
      | some after => openFlags after paren inside.here
      | none => .ok (.group ⟨paren, true, [], c.isLoose⟩ inside)

/-! ### Repetitions -/

/-- The part that a repetition is about, and the group without it. -/
def operand (g : OpenGroup) (c : Cursor) : Except Problem (Tree × OpenGroup) :=
  match g.items with
  | item :: items =>
    if item.isOperand then .ok (item, { g with items }) else refuse .repetitionMissing c.here
  | [] => refuse .repetitionMissing c.here

/-- Passes a sign that asks for few repetitions. It changes nothing about whether there is a
match. -/
def skipReluctance (c : Cursor) : Cursor := if c.rest.head? == some '?' then c.bump else c

/-- A repetition by one of the signs `?`, `*` and `+`. -/
def repeated (g : OpenGroup) (least : Nat) (most : Option Nat) (c : Cursor) :
    Except Problem (OpenGroup × Cursor) := do
  let (body, g) ← operand g c
  let after := skipReluctance c.bump
  .ok (g.push (.repetition ⟨body.span.start, after.position⟩ least most body), after)

/-- A number in a count. Blanks around it do not count in any mode. -/
def count (c : Cursor) : Except Problem Nat × Cursor :=
  let first := c.skipBlanks
  let (digits, last) := first.collect Char.isDigit
  let span := last.spanFrom first.position
  let n := digits.foldl (fun n d => n * 10 + (d.toNat - 48)) 0
  let number := if digits.isEmpty then refuse .countEmpty span
    else if n < UInt32.size then .ok n
    else refuse .countInvalid span
  (number, last.skipBlanks)

/-- The bounds of a count, from behind the opening brace on. -/
def bounds (brace : Position) (c : Cursor) : Except Problem (Nat × Option Nat × Cursor) := do
  let (least, c) := count c
  match c.rest with
  | [] => refuse .countUnclosed (c.spanFrom brace)
  | ',' :: _ =>
    let c := c.bumpSolid
    match c.rest with
    | [] => refuse .countUnclosed (c.spanFrom brace)
    | '\x7d' :: _ => .ok (← least, none, c)
    | _ =>
      let least ← least
      let (most, c) := count c
      .ok (least, some (← most), c)
  | _ =>
    let least ← least
    .ok (least, some least, c)

/-- A repetition with a count in braces. -/
def counted (g : OpenGroup) (c : Cursor) : Except Problem (OpenGroup × Cursor) := do
  let (body, g) ← operand g c
  let inside := c.bumpSolid
  if inside.isAtEnd then refuse .countUnclosed (inside.spanFrom c.position)
  let (least, most, close) ← bounds c.position inside
  if close.rest.head? != some '\x7d' then refuse .countUnclosed (close.spanFrom c.position)
  let after := skipReluctance close.bumpSolid
  if most.any (· < least) then refuse .countReversed (after.spanFrom c.position)
  .ok (g.push (.repetition ⟨body.span.start, after.position⟩ least most body), after)

/-! ### The whole pattern -/

/-- A part that is neither a group nor a class nor a repetition. -/
def primitive (next : Char) (c : Cursor) : Except Problem (Primitive × Cursor) :=
  match next with
  | '\\' => escape c
  | '.' => .ok (.dot c.charSpan, c.bump)
  | '^' => .ok (.assertion c.charSpan .lineStart, c.bump)
  | '$' => .ok (.assertion c.charSpan .lineEnd, c.bump)
  | _ => .ok (.literal ⟨c.charSpan, next, false⟩, c.bump)

/-- The rest of a pattern inside groups. Every step passes a character, which bounds their
number. -/
def closeGroups : Nat → OpenGroup → List OpenGroup → Cursor → Except Problem Tree
  | 0, g, _, c => .ok (g.tree c.position)
  | n + 1, g, outer, c => do
    let c := c.skipSpace
    match c.rest with
    | [] =>
      match g.opening? with
      | none => .ok (g.tree c.position)
      | some opening => refuse .groupUnclosed opening.span
    | '(' :: _ =>
      match ← openGroup c with
      | .flags item c => closeGroups n (g.push item) outer c
      | .group opening c => closeGroups n (.ofOpening (some opening) c.position) (g :: outer) c
    | ')' :: _ =>
      match g.opening?, outer with
      | some opening, next :: outer =>
        let after := { c.bump with isLoose := opening.wasLoose }
        let span := after.spanFrom opening.span.start
        let item : Tree := .group span opening.isCapturing opening.changes (g.tree c.position)
        closeGroups n (next.push item) outer after
      | _, _ => refuse .groupUnopened c.charSpan
    | '|' :: _ =>
      let after := c.bump
      closeGroups n (g.split c.position after.position) outer after
    | '[' :: _ =>
      let (item, c) ← brackets c
      closeGroups n (g.push item) outer c
    | '?' :: _ =>
      let (g, c) ← repeated g 0 (some 1) c
      closeGroups n g outer c
    | '*' :: _ =>
      let (g, c) ← repeated g 0 none c
      closeGroups n g outer c
    | '+' :: _ =>
      let (g, c) ← repeated g 1 none c
      closeGroups n g outer c
    | '\x7b' :: _ =>
      let (g, c) ← counted g c
      closeGroups n g outer c
    | next :: _ =>
      let (item, c) ← primitive next c
      closeGroups n (g.push (.primitive item)) outer c

/-! ### Depth -/

/-- The depth inside a part of the pattern. -/
def deeper (depth : Nat) (span : Span) : Except Problem Nat :=
  if depth < depthLimit then .ok (depth + 1) else refuse .nesting span

mutual

/-- Finds a part that lies too deep, in the order in which the parts are opened. -/
def ClassTree.checkDepth (depth : Nat) : ClassTree → Except Problem Unit
  | .brackets span _ inside => do inside.checkDepth (← deeper depth span)
  | .union span items => do ClassTree.checkDepths (← deeper depth span) items
  | .operation span _ left right => do
    let depth ← deeper depth span
    left.checkDepth depth
    right.checkDepth depth
  | _ => .ok ()

def ClassTree.checkDepths (depth : Nat) : List ClassTree → Except Problem Unit
  | [] => .ok ()
  | item :: items => do
    item.checkDepth depth
    ClassTree.checkDepths depth items

end

mutual

/-- Finds a part that lies too deep, in the order in which the parts are opened. -/
def Tree.checkDepth (depth : Nat) : Tree → Except Problem Unit
  | .brackets span _ inside => do inside.checkDepth (← deeper depth span)
  | .repetition span _ _ body | .group span _ _ body => do body.checkDepth (← deeper depth span)
  | .alternation span items | .sequence span items => do
    Tree.checkDepths (← deeper depth span) items
  | _ => .ok ()

def Tree.checkDepths (depth : Nat) : List Tree → Except Problem Unit
  | [] => .ok ()
  | item :: items => do
    item.checkDepth depth
    Tree.checkDepths depth items

end

/-- The pattern that a text writes. -/
def Tree.ofText (pattern : String) : Except Problem Tree := do
  let start := Cursor.ofText pattern
  let tree ← closeGroups (pattern.length + 1) (.ofOpening none start.position) [] start
  tree.checkDepth 0
  .ok tree

end StructSync.Pattern
