import StructSync.CType.Kind

/-!
# Built-in types

The names every host knows, each with its size and kind. Some follow the pointer size.
-/

namespace StructSync

/-- How large a built-in type is. -/
inductive Scalar where
  /-- `void`: no size of its own, but it can stand behind a pointer. -/
  | void
  | integer (size : UInt64)
  | pointerSized
  | float (size : UInt64)
deriving DecidableEq

namespace Scalar

def size (pointerSize : UInt64) : Scalar → UInt64
  | void => 0
  | integer size => size
  | pointerSized => pointerSize
  | float size => size

def kind : Scalar → Kind
  | float _ => .float
  | _ => .integer

end Scalar

/-- The built-in type of that name. -/
def builtin? : String → Option Scalar
  | "void" => some .void
  | "bool" | "_Bool" | "char" | "signed char" | "unsigned char" | "int8_t" | "uint8_t" | "__int8"
  | "unsigned __int8" | "_BYTE" | "BYTE" | "_BOOL1" => some (.integer 1)
  | "short" | "unsigned short" | "int16_t" | "uint16_t" | "__int16" | "unsigned __int16"
  | "wchar_t" | "_WORD" | "WORD" | "_BOOL2" => some (.integer 2)
  | "int" | "unsigned int" | "long" | "unsigned long" | "int32_t" | "uint32_t" | "__int32"
  | "unsigned __int32" | "_DWORD" | "DWORD" | "_BOOL4" => some (.integer 4)
  | "long long" | "unsigned long long" | "int64_t" | "uint64_t" | "__int64"
  | "unsigned __int64" | "_QWORD" | "QWORD" | "_BOOL8" => some (.integer 8)
  | "__int128" | "unsigned __int128" | "_OWORD" => some (.integer 16)
  | "size_t" | "ssize_t" | "ptrdiff_t" | "intptr_t" | "uintptr_t" => some .pointerSized
  | "float" => some (.float 4)
  | "double" => some (.float 8)
  | "long double" | "_TBYTE" => some (.float 10)
  | _ => none

end StructSync
