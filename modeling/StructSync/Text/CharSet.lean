import StructSync.Text.Blank
import StructSync.Text.Numeral

/-!
# Sets of characters

A set of characters is kept as ranges of code points. The sets that standards define are written as
texts: code points in hexadecimal digits, ranges of them, and ranges of which every other code
point is left out, as in `41-5A D7 100-12E/2`.
-/

namespace StructSync

/-- A set of characters: closed ranges of code points in ascending order, none of which touch. -/
structure CharSet where
  ranges : List (Nat × Nat)
deriving DecidableEq

namespace CharSet

/-- The last code point. -/
def lastPoint : Nat := 0x10FFFF

def empty : CharSet := ⟨[]⟩

def full : CharSet := ⟨[(0, lastPoint)]⟩

def ascii : CharSet := ⟨[(0, 0x7F)]⟩

def isEmpty (set : CharSet) : Bool := set.ranges.isEmpty

/-- Is the code point in the set? -/
def holds (set : CharSet) (n : Nat) : Bool :=
  set.ranges.any fun (low, high) => low ≤ n && n ≤ high

/-- Is the character in the set? -/
def contains (set : CharSet) (c : Char) : Bool := set.holds c.toNat

/-- All code points of the set. -/
def members (set : CharSet) : List Nat :=
  set.ranges.flatMap fun (low, high) => List.range' low (high + 1 - low)

/-! ### Building sets -/

/-- Puts a range before ranges that do not start below it. -/
def absorb (range : Nat × Nat) : List (Nat × Nat) → List (Nat × Nat)
  | [] => [range]
  | next :: rest =>
    if range.2 + 1 < next.1 then range :: next :: rest
    else absorb (range.1, max range.2 next.2) rest

/-- The set of ranges in the order of their starts. -/
def ofSorted (ranges : List (Nat × Nat)) : CharSet := ⟨ranges.foldr absorb []⟩

/-- Does the range start no later than the other one? -/
def startsFirst (a b : Nat × Nat) : Bool := a.1 ≤ b.1

/-- The set of ranges in any order. -/
def ofList (ranges : List (Nat × Nat)) : CharSet := ofSorted (ranges.mergeSort startsFirst)

def singleton (c : Char) : CharSet := ⟨[(c.toNat, c.toNat)]⟩

/-- The characters from one to the other. -/
def range (low high : Char) : CharSet := ⟨[(low.toNat, high.toNat)]⟩

theorem contains_empty (c : Char) : empty.contains c = false := rfl

theorem contains_singleton (c d : Char) : (singleton c).contains d = true ↔ d = c := by
  simp only [contains, holds, singleton, List.any_cons, List.any_nil, Bool.or_false,
    Bool.and_eq_true, decide_eq_true_eq]
  constructor
  · rintro ⟨hle, hge⟩
    exact Char.toNat_inj.mp (Nat.le_antisymm hge hle)
  · rintro rfl
    exact ⟨Nat.le_refl _, Nat.le_refl _⟩

/-! ### Operations -/

def union (s t : CharSet) : CharSet := ofSorted (s.ranges.merge t.ranges startsFirst)

/-- All that is in one of the sets. -/
def ofAny (sets : List CharSet) : CharSet := sets.foldr union empty

/-- What lies between ranges from a code point on. -/
def gaps (start : Nat) : List (Nat × Nat) → List (Nat × Nat)
  | [] => if start ≤ lastPoint then [(start, lastPoint)] else []
  | (low, high) :: rest =>
    if start < low then (start, low - 1) :: gaps (high + 1) rest else gaps (high + 1) rest

def complement (set : CharSet) : CharSet := ⟨gaps 0 set.ranges⟩

def inter (s t : CharSet) : CharSet := (s.complement.union t.complement).complement

def difference (s t : CharSet) : CharSet := s.inter t.complement

def symmetricDifference (s t : CharSet) : CharSet := (s.union t).difference (s.inter t)

/-! ### Sets as texts -/

/-- The number that hexadecimal digits write. -/
def pointOf (digits : String) : Nat :=
  digits.toList.foldl (fun n c => n * 16 + (Text.hexValue? c).getD 0) 0

/-- The ranges that one word of a text writes. -/
def rangesOf (word : String) : List (Nat × Nat) :=
  match word.splitOn "-" with
  | [low, high] =>
    match high.splitOn "/" with
    | [high] => [(pointOf low, pointOf high)]
    | high :: _ =>
      (List.range ((pointOf high - pointOf low) / 2 + 1)).map fun k =>
        (pointOf low + 2 * k, pointOf low + 2 * k)
    | [] => []
  | _ => [(pointOf word, pointOf word)]

/-- The words of a text. -/
def wordsOf (text : String) : List String :=
  let spaced := String.ofList (text.toList.map fun c => if isBlank c then ' ' else c)
  (spaced.splitOn " ").filter fun word => !word.isEmpty

/-- The set that a text writes, in ascending order. -/
def ofText (text : String) : CharSet := ofSorted ((wordsOf text).flatMap rangesOf)

end CharSet

/-- A set of characters as a text, with the names by which it is known. A set without characters
stands for a name that is known to have none. -/
structure NamedSet where
  names : String
  ranges : String

namespace NamedSet

/-- Is the set known by one of those names? -/
def isNamed (entry : NamedSet) (names : String) : Bool :=
  (CharSet.wordsOf names).any fun name => (CharSet.wordsOf entry.names).contains name

/-- The first set that goes by the name. -/
def find? (table : List NamedSet) (name : String) : Option CharSet :=
  (table.find? fun entry => entry.isNamed name).map fun entry => CharSet.ofText entry.ranges

end NamedSet

end StructSync
