import StructSync.Text.Blank

/-!
# Resolved C types

A `CType` is what a declaration stands for: its size in bytes, its canonical name and its kind.
An array keeps the kind and the size of its elements, outermost dimension first.
-/

namespace StructSync

/-- What a C type is, apart from its name. -/
inductive Kind where
  | integer
  | float
  | pointer
  | aggregate
  | enumeration
  | array (element : Kind) (elementSize count : UInt64)
deriving DecidableEq

/-- A C type with a size. -/
structure CType where
  size : UInt64
  name : String
  kind : Kind
deriving DecidableEq

namespace Kind

def isArray : Kind → Bool
  | array .. => true
  | _ => false

def isPointer : Kind → Bool
  | pointer => true
  | _ => false

/-- The array dimensions, outermost first, each with its count and the size of one element. -/
def dimensions : Kind → List (UInt64 × UInt64)
  | array element elementSize count => (count, elementSize) :: element.dimensions
  | _ => []

/-- The kind of the innermost element. -/
def innermost : Kind → Kind
  | array element .. => element.innermost
  | kind => kind

/-- The kind with these dimensions around it, outermost first. -/
def withDimensions (base : Kind) : List (UInt64 × UInt64) → Kind
  | [] => base
  | (count, elementSize) :: rest => array (base.withDimensions rest) elementSize count

theorem withDimensions_innermost_dimensions (k : Kind) :
    k.innermost.withDimensions k.dimensions = k := by
  induction k with
  | array element elementSize count ih => simp [innermost, dimensions, withDimensions, ih]
  | _ => rfl

end Kind

/-- The keywords that introduce a struct-like type. -/
def aggregateKeywords : List String := ["struct", "union", "class"]

/-- Is the type spelled with one of the keywords `struct`, `union` and `class`? -/
def CType.isAggregateName (t : CType) : Bool :=
  aggregateKeywords.contains (String.ofList (Text.firstWord t.name.toList))

end StructSync
