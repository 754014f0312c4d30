import Mathlib
import StructSync.DataFlags
import StructSync.Proofs.CType.Dimensions

/-!
# Storage flags of arrays

The flags of an array are read off from the outside in, at the element size that each level records;
dimensions are put on from the inside out. Both meet at what stands before the dimensions, which
`CType.arrayShape` keeps as the innermost element (`DataFlags.ofKind_arrayShape`). Main statement
(`DataFlags.ofType_array`): dimensions behind a declaration change no flag, and the flags of any type
are the mark of data and the data type of the innermost element at its own size.
-/

namespace StructSync

/-- The size of the innermost element of an array, and of the type itself if it is none. -/
def CType.unitSize (type : CType) : UInt64 :=
  (type.kind.dimensions.getLast?.map Prod.snd).getD type.size

namespace DataFlags

/-! ### Data types and the mark of data -/

theorem ofKind_and_typeMask (kind : Kind) (size : UInt64) :
    ofKind kind size &&& typeMask = ofKind kind size := by
  induction kind generalizing size with
  | aggregate =>
    rw [ofKind]
    rfl
  | float =>
    unfold ofKind floatType
    split_ifs <;> rfl
  | array element elementSize count ih => exact ih elementSize
  | integer | pointer | enumeration =>
    unfold ofKind integerType
    split_ifs <;> rfl

theorem or_and_distrib (mark bits mask : UInt32) :
    (mark ||| bits) &&& mask = mark &&& mask ||| bits &&& mask :=
  UInt32.toBitVec_inj.1 BitVec.and_or_distrib_right

theorem ofType_dataType (type : CType) : (ofType type).dataType = ofKind type.kind type.size := by
  have hmark : data.bits &&& typeMask = 0 := rfl
  unfold dataType ofType
  rw [or_and_distrib, hmark, ofKind_and_typeMask, UInt32.zero_or]

theorem ofType_mark (type : CType) : (ofType type).bits &&& ~~~typeMask = data.bits := by
  have hmark : data.bits &&& ~~~typeMask = data.bits := rfl
  unfold ofType
  rw [or_and_distrib, hmark, ← ofKind_and_typeMask, UInt32.and_assoc, UInt32.and_not_self,
    UInt32.and_zero, UInt32.or_zero]

theorem ofKind_innermost (kind : Kind) (size : UInt64) :
    ofKind kind size =
      ofKind kind.innermost ((kind.dimensions.getLast?.map Prod.snd).getD size) := by
  induction kind generalizing size with
  | array element elementSize count ih =>
    rw [ofKind, ih, Kind.innermost, Kind.dimensions, List.getLast?_cons]
    cases element.dimensions.getLast? <;> rfl
  | _ => rfl

theorem isArray_innermost (kind : Kind) : kind.innermost.isArray = false := by
  induction kind with
  | array element elementSize count ih => exact ih
  | _ => rfl

/-! ### Dimensions -/

/-- An array has the data type of what its dimensions were put on. -/
theorem ofKind_arrayShape {element : CType} {counts : List UInt64} {size : UInt64} {kind : Kind}
    (h : element.arrayShape counts = .ok (size, kind)) :
    ofKind kind size = ofKind element.kind element.size := by
  induction counts generalizing size kind with
  | nil =>
    cases h
    rfl
  | cons count counts ih =>
    obtain ⟨innerSize, inner, hinner, -, -, rfl⟩ := CType.arrayShape_cons_eq_ok.1 h
    rw [ofKind, ih hinner]

theorem ofType_resolve {scope : TypeScope} {decl : Declaration} {type : CType}
    (h : decl.resolve scope = .ok type) :
    ∃ element, decl.element scope = .ok element ∧ ofType type = ofType element := by
  obtain ⟨base, counts, hbase, -, harray, -⟩ := Declaration.resolve_eq_ok.1 h
  obtain ⟨size, kind, hshape, rfl⟩ := CType.arrayOf_eq_ok.1 harray
  refine ⟨scope.pointerTo base decl.stars, bind_eq_ok.2 ⟨base, hbase, rfl⟩, ?_⟩
  unfold ofType
  rw [ofKind_arrayShape hshape]

/-- Dimensions behind the text of a declaration leave the flags of its type as they are. And the
flags of any type are the mark of data with a data type in the top four bits, which is that of the
innermost element, no array any more, at its own size. -/
theorem ofType_array :
    (∀ (scope : TypeScope) (text back : String) (dimensions : List (List Char))
      (type array : CType), Declaration.DimensionsText back.toList dimensions →
      parseDeclaration scope text = .ok type → parseDeclaration scope (text ++ back) = .ok array →
      ofType array = ofType type) ∧
    ∀ type : CType, (ofType type).bits &&& ~~~typeMask = data.bits ∧
      (ofType type).dataType = ofKind type.kind.innermost type.unitSize ∧
      type.kind.innermost.isArray = false := by
  constructor
  · intro scope text back dimensions type array hback htype harray
    obtain ⟨decl, hdecl, hresolve⟩ := parseDeclaration_eq_ok.1 htype
    obtain ⟨decl', hdecl', hresolve'⟩ := parseDeclaration_eq_ok.1 harray
    rw [Declaration.ofText?_eq_some] at hdecl hdecl'
    obtain rfl := hdecl.dimensions_behind hback hdecl'
    obtain ⟨element, helement, hflags⟩ := ofType_resolve hresolve
    obtain ⟨element', helement', hflags'⟩ := ofType_resolve hresolve'
    obtain rfl : element = element' := Except.ok.inj (helement.symm.trans helement')
    rw [hflags, hflags']
  · intro type
    exact ⟨ofType_mark type, (ofType_dataType type).trans (ofKind_innermost _ _),
      isArray_innermost _⟩

/-- An array of as many bytes as a word of 64 bits, and the bytes it is made of. -/
theorem ofType_array_bytes :
    Declaration.DimensionsText " [2][ 04]".toList [['2'], ['0', '4']] ∧
      parseDeclaration ⟨8, fun _ => none⟩ "unsigned char" = .ok ⟨1, "unsigned char", .integer⟩ ∧
      ∃ array, parseDeclaration ⟨8, fun _ => none⟩ ("unsigned char" ++ " [2][ 04]") = .ok array ∧
        array.size = 8 ∧ ofType array = ofType ⟨1, "unsigned char", .integer⟩ ∧
        array.unitSize = 1 ∧ (ofType array).dataType = 0 := by
  have hback : Declaration.DimensionsText " [2][ 04]".toList [['2'], ['0', '4']] := by
    have hspace : IsGap [' '] := by simp [IsGap, isBlank]
    have hfour : IsNumber ['0', '4'] := by simp [IsNumber]
    have htwo : IsNumber ['2'] := by simp [IsNumber]
    have htext : Declaration.DimensionsText
        ([' '] ++ '[' :: ([] ++ (['2'] ++ ([] ++ ']' ::
          ([] ++ '[' :: ([' '] ++ (['0', '4'] ++ ([] ++ [']']))))))))
        [['2'], ['0', '4']] :=
      .more hspace .nil htwo .nil (.more .nil hspace hfour .nil .none)
    simpa using htext
  have htype : parseDeclaration ⟨8, fun _ => none⟩ "unsigned char" =
      .ok ⟨1, "unsigned char", .integer⟩ := by
    decide +kernel
  have harray : parseDeclaration ⟨8, fun _ => none⟩ ("unsigned char" ++ " [2][ 04]") =
      .ok ⟨8, "unsigned char[2][4]", .array (.array .integer 1 4) 4 2⟩ := by
    decide +kernel
  have hflags := ofType_array.1 _ _ _ _ _ _ hback htype harray
  have hdata := (ofType_array.2 ⟨8, "unsigned char[2][4]", .array (.array .integer 1 4) 4 2⟩).2.1
  refine ⟨hback, htype, _, harray, rfl, hflags, rfl, hdata.trans ?_⟩
  decide +kernel

end DataFlags

end StructSync
