import StructSync.Pattern.Escape

/-!
# Classes in brackets

Characters, ranges and classes between brackets, sets of them within each other, and the operators
`&&`, `--` and `~~` between sets. All operators bind alike and from the left.
-/

namespace StructSync.Pattern

/-- Brackets that are still open. -/
structure OpenSet where
  /-- the opening, up to the first thing that does not belong to it -/
  span : Span
  isNegated : Bool
  /-- an operator and what stands before it -/
  pending : Option (SetOperator × ClassTree)
  /-- where the items began -/
  place : Position
  /-- the items behind the last operator, the last one first -/
  items : List ClassTree

namespace OpenSet

def push (set : OpenSet) (item : ClassTree) : OpenSet := { set with items := item :: set.items }

/-- All that was read between the brackets. -/
def tree (set : OpenSet) : ClassTree :=
  let right := ClassTree.ofItems set.place set.items.reverse
  match set.pending with
  | none => right
  | some (operator, left) => .operation ⟨left.span.start, right.span.stop⟩ operator left right

/-- Puts an operator behind all that was read. -/
def operate (set : OpenSet) (operator : SetOperator) (place : Position) : OpenSet :=
  { set with pending := some (operator, set.tree), place, items := [] }

end OpenSet

/-! ### The opening -/

/-- Hyphens right behind the opening, the last one first. They stand for themselves. -/
def leadingHyphens : Nat → List ClassTree → Cursor → List ClassTree × Cursor
  | 0, items, c => (items, c)
  | n + 1, items, c =>
    match c.rest with
    | '-' :: _ => leadingHyphens n (.literal ⟨c.charSpan, '-', false⟩ :: items) c.bumpSolid
    | _ => (items, c)

/-- An opening bracket with the signs that belong to it: a negation, hyphens, or a closing bracket
that stands for itself. -/
def openSet (c : Cursor) : Except Problem (OpenSet × Cursor) := do
  let start := c.position
  let inside := c.bumpSolid
  if inside.isAtEnd then refuse .classUnclosed (inside.spanFrom start)
  let isNegated := inside.rest.head? == some '^'
  let inside := if isNegated then inside.bumpSolid else inside
  if inside.isAtEnd then refuse .classUnclosed (inside.spanFrom start)
  let place := inside.position
  let (items, after) := leadingHyphens inside.rest.length [] inside
  match after.rest with
  | [] => refuse .classUnclosed (.point start)
  | ']' :: _ =>
    if items.isEmpty then
      let item : ClassTree := .literal ⟨after.charSpan, ']', false⟩
      let after := after.bumpSolid
      if after.isAtEnd then refuse .classUnclosed (after.spanFrom start)
      .ok (⟨after.spanFrom start, isNegated, none, place, [item]⟩, after)
    else .ok (⟨after.spanFrom start, isNegated, none, place, items⟩, after)
  | _ => .ok (⟨after.spanFrom start, isNegated, none, place, items⟩, after)

/-! ### Items -/

/-- A named class such as `[:alpha:]`, if there is one here. -/
def asciiClass? (c : Cursor) : Option (ClassTree × Cursor) := do
  let inside ← c.after? "[:"
  let isNegated := inside.rest.head? == some '^'
  let inside := if isNegated then inside.bump else inside
  let name := inside.rest.takeWhile (· != ':')
  let after ← (inside.bumpMany name.length).after? ":]"
  let kind ← AsciiClass.ofName? (String.ofList name)
  some (.ascii (after.spanFrom c.position) isNegated kind, after)

/-- A character or an escape. -/
def setItem (c : Cursor) : Except Problem (Primitive × Cursor) :=
  match c.rest with
  | '\\' :: _ => escape c
  | next :: _ => .ok (.literal ⟨c.charSpan, next, false⟩, c.bump)
  | [] => refuse .classUnclosed c.here

/-- The item by itself, if it stands for a set of characters. -/
def asItem : Primitive → Except Problem ClassTree
  | .literal l => .ok (.literal l)
  | .short span isNegated kind => .ok (.short span isNegated kind)
  | .property span isNegated query => .ok (.property span isNegated query)
  | .dot span | .assertion span _ => refuse .escapeInClass span

/-- The item as an end of a range. -/
def asBoundary : Primitive → Except Problem Literal
  | .literal l => .ok l
  | item => refuse .rangeBoundary item.span

/-- An item or a range of characters. A hyphen before a closing bracket or another hyphen makes no
range. -/
def setRange (set : OpenSet) (c : Cursor) : Except Problem (ClassTree × Cursor) := do
  let (first, c) ← setItem c
  let c := c.skipSpace
  match c.rest with
  | [] => refuse .classUnclosed set.span
  | next :: _ =>
    if next != '-' || c.peekSolid == some ']' || c.peekSolid == some '-' then
      .ok (← asItem first, c)
    else
      let c := c.bumpSolid
      if c.isAtEnd then refuse .classUnclosed set.span
      let (last, c) ← setItem c
      let span : Span := ⟨first.span.start, last.span.stop⟩
      let low ← asBoundary first
      let high ← asBoundary last
      if high.char < low.char then refuse .rangeReversed span
      .ok (.range span low high, c)

/-! ### The whole class -/

/-- The operator that stands here. -/
def operator? (c : Cursor) : Option (SetOperator × Cursor) :=
  match c.rest with
  | '&' :: '&' :: _ => some (.intersection, c.bumpMany 2)
  | '-' :: '-' :: _ => some (.difference, c.bumpMany 2)
  | '~' :: '~' :: _ => some (.symmetricDifference, c.bumpMany 2)
  | _ => none

/-- The rest of a class: the innermost open brackets, and those around them from the inside out.
Every step passes a character, which bounds their number. -/
def closeSets : Nat → OpenSet → List OpenSet → Cursor → Except Problem (Tree × Cursor)
  | 0, set, _, _ => refuse .classUnclosed set.span
  | n + 1, set, outer, c => do
    let c := c.skipSpace
    match c.rest with
    | [] => refuse .classUnclosed set.span
    | '[' :: _ =>
      match asciiClass? c with
      | some (item, c) => closeSets n (set.push item) outer c
      | none =>
        let (inner, c) ← openSet c
        closeSets n inner (set :: outer) c
    | ']' :: _ =>
      let c := c.bump
      let span := c.spanFrom set.span.start
      match outer with
      | [] => .ok (.brackets span set.isNegated set.tree, c)
      | next :: outer => closeSets n (next.push (.brackets span set.isNegated set.tree)) outer c
    | _ =>
      match operator? c with
      | some (operator, c) => closeSets n (set.operate operator c.position) outer c
      | none =>
        let (item, c) ← setRange set c
        closeSets n (set.push item) outer c

/-- A class in brackets, from the opening bracket on. -/
def brackets (c : Cursor) : Except Problem (Tree × Cursor) := do
  let (set, inside) ← openSet c
  closeSets (inside.rest.length + 1) set [] inside

end StructSync.Pattern
