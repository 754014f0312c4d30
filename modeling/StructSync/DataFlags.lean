import StructSync.CType.Kind

/-!
# Storage flags

The flags a host member is created with: the bit that marks data, and in the top four bits the
data type. An array has the data type of its innermost element.
-/

namespace StructSync

/-- The storage flags of a member. -/
structure DataFlags where
  bits : UInt32
deriving DecidableEq

namespace DataFlags

/-- The mark of data. -/
def data : DataFlags := ⟨0x00000400⟩

/-- The bits that hold the data type. -/
def typeMask : UInt32 := 0xF0000000

/-- The data type of the flags. -/
def dataType (flags : DataFlags) : UInt32 := flags.bits &&& typeMask

/-- The data type of an integer of that size; sizes without one of their own are bytes. -/
def integerType (size : UInt64) : UInt32 :=
  if size = 2 then 0x10000000
  else if size = 4 then 0x20000000
  else if size = 8 then 0x30000000
  else if size = 16 then 0x70000000
  else if size = 32 then 0xE0000000
  else if size = 64 then 0xF0000000
  else 0

/-- The data type of a floating-point number of that size. -/
def floatType (size : UInt64) : UInt32 :=
  if size = 4 then 0x80000000
  else if size = 8 then 0x90000000
  else if size = 10 || size = 12 || size = 16 then 0x40000000
  else 0

/-- The data type of a struct. -/
def structType : UInt32 := 0x60000000

/-- The data type of a kind at a size. -/
def ofKind : Kind → UInt64 → UInt32
  | .aggregate, _ => structType
  | .float, size => floatType size
  | .array element elementSize _, _ => ofKind element elementSize
  | .integer, size | .pointer, size | .enumeration, size => integerType size

/-- The flags of a member of that type. -/
def ofType (type : CType) : DataFlags := ⟨data.bits ||| ofKind type.kind type.size⟩

end DataFlags

end StructSync
