import StructSync.CType.Builtin
import StructSync.CType.Declaration
import StructSync.CType.Integer
import StructSync.Word

/-!
# Resolving declarations

`Declaration.resolve` finds the type a declaration stands for: the base words name a built-in
type, an enum or a struct that the host knows, stars make a pointer of it, and dimensions are put
on from the inside out. A size of zero is allowed only behind a pointer.
-/

namespace StructSync

/-- Why a declaration stands for no type. -/
inductive DeclarationError where
  | empty
  | malformed
  | missingBase
  | keywordNeedsName (keyword : String)
  | unknownAggregate (keyword name : String)
  | unsized (name : String)
  | unknownType (name : String)
  | dimensionRange
  | zeroLength
  | sizeOverflow
  | noSize
deriving DecidableEq

namespace DeclarationError

def message : DeclarationError → String
  | empty => "empty declaration"
  | malformed => "malformed declaration"
  | missingBase => "missing base type"
  | keywordNeedsName keyword => s!"expected '{keyword} <name>'"
  | unknownAggregate keyword name => s!"unknown {keyword} '{name}'"
  | unsized name => s!"'{name}' has no size"
  | unknownType name => s!"unknown type '{name}'"
  | dimensionRange => "array dimension out of range"
  | zeroLength => "zero-length array"
  | sizeOverflow => "array size overflows"
  | noSize => "type has no size"

end DeclarationError

/-- What declarations are resolved against: the size of a pointer, and the sizes of the structs
that have a name. -/
structure TypeScope where
  pointerSize : UInt64
  structSize? : String → Option UInt64

/-- The words that say nothing about the layout. -/
def isQualifier (word : String) : Bool := word == "const" || word == "volatile"

namespace TypeScope

variable (scope : TypeScope)

/-- The type of `struct`, `union` or `class` with its name. Behind a pointer the name need not be
known. -/
def aggregate (keyword name : String) (behindPointer : Bool) : Except DeclarationError CType :=
  let named (size : UInt64) : CType := ⟨size, s!"{keyword} {name}", .aggregate⟩
  match scope.structSize? name with
  | some size => .ok (named size)
  | none => if behindPointer then .ok (named 0) else .error (.unknownAggregate keyword name)

/-- The type of words that start with no keyword. -/
def plain (words : List String) (behindPointer : Bool) : Except DeclarationError CType :=
  let spelling := " ".intercalate words
  let name := ((IntegerType.ofWords? words).map IntegerType.name).getD spelling
  match builtin? name with
  | some scalar =>
    if scalar.size scope.pointerSize = 0 && !behindPointer then .error (.unsized name)
    else .ok ⟨scalar.size scope.pointerSize, name, scalar.kind⟩
  | none =>
    match words with
    | [word] =>
      match scope.structSize? word with
      | some size => .ok ⟨size, name, .aggregate⟩
      | none => .error (.unknownType name)
    | _ => .error (.unknownType name)

/-- The type of the base words, qualifiers left out. -/
def base (words : List String) (behindPointer : Bool) : Except DeclarationError CType :=
  match words with
  | [] => .error .missingBase
  | first :: rest =>
    if aggregateKeywords.contains first then
      match rest with
      | [name] => scope.aggregate first name behindPointer
      | _ => .error (.keywordNeedsName first)
    else if first == "enum" then
      match rest with
      | [name] => .ok ⟨4, s!"enum {name}", .enumeration⟩
      | _ => .error (.keywordNeedsName first)
    else scope.plain words behindPointer

/-- A pointer of that many stars to the type. -/
def pointerTo (target : CType) : Nat → CType
  | 0 => target
  | stars + 1 =>
    ⟨scope.pointerSize, target.name ++ " " ++ String.ofList (List.replicate (stars + 1) '*'),
      .pointer⟩

end TypeScope

/-- The value of a dimension's digits, if it is a word. -/
def dimensionCount (digits : List Char) : Except DeclarationError UInt64 :=
  match wordOfNat? (Nat.ofDigitChars 10 digits 0) with
  | some count => .ok count
  | none => .error .dimensionRange

namespace CType

/-- Size and kind of an array of the element, dimensions outermost first. The innermost dimension
is put on first, so its fault is the one reported. -/
def arrayShape (element : CType) : List UInt64 → Except DeclarationError (UInt64 × Kind)
  | [] => .ok (element.size, element.kind)
  | count :: inner => do
    let (size, kind) ← arrayShape element inner
    if count = 0 then .error .zeroLength
    else
      match mulWord? size count with
      | some total => .ok (total, .array kind size count)
      | none => .error .sizeOverflow

/-- The text of the dimensions behind a type's name. -/
def dimensionSuffix (counts : List UInt64) : String :=
  String.join (counts.map fun count => "[" ++ toString count.toNat ++ "]")

/-- The array of the element with these dimensions; the element itself if there are none. -/
def arrayOf (element : CType) (counts : List UInt64) : Except DeclarationError CType := do
  let (size, kind) ← element.arrayShape counts
  .ok ⟨size, element.name ++ dimensionSuffix counts, kind⟩

end CType

/-- The type that the declaration stands for. -/
def Declaration.resolve (scope : TypeScope) (decl : Declaration) :
    Except DeclarationError CType := do
  let words := decl.words.filter (!isQualifier ·)
  let base ← scope.base words (decl.stars > 0)
  let counts ← decl.dimensions.mapM dimensionCount
  let type ← (scope.pointerTo base decl.stars).arrayOf counts
  if type.size = 0 then .error .noSize else .ok type

/-- The type that the text declares. -/
def parseDeclaration (scope : TypeScope) (text : String) : Except DeclarationError CType :=
  match Declaration.body text.toList with
  | [] => .error .empty
  | body =>
    match (scan body).bind Declaration.ofTokens? with
    | none => .error .malformed
    | some decl => decl.resolve scope

end StructSync
