import StructSync.Descriptor

/-!
# Layouts as C

The C declaration of a descriptor's layout: one line per member in order of the offsets, each with
its offset. The name of a member stands before the dimensions of an array and right behind the
stars of a pointer.
-/

namespace StructSync

/-- What is written before a member's name, and what behind it. -/
def CType.declarator (t : CType) : String × String :=
  let name := t.name.toList
  if t.kind.isArray && name.contains '[' then
    (String.ofList (name.takeWhile (· ≠ '[')) ++ " ", String.ofList (name.dropWhile (· ≠ '[')))
  else if t.kind.isPointer then (t.name, "")
  else (t.name ++ " ", "")

/-- The declaration of the member. -/
def Member.declaration (m : Member) : String :=
  let (before, after) := m.type.type.declarator
  before ++ m.name ++ after ++ ";"

/-- The line of the member, with its offset in at least two digits. -/
def Member.line (m : Member) : String :=
  "  /* 0x" ++ Text.padLeft 2 '0' (Text.hexUpper m.offset.toNat) ++ " */ " ++ m.declaration ++ "\n"

/-- The layout as the C declaration of a struct. -/
def Descriptor.declaration (d : Descriptor) : String :=
  "struct " ++ d.name ++ " // sizeof=0x" ++ Text.hexUpper d.size.toNat ++ "\n\x7b\n"
    ++ String.join (d.layout.byOffset.map Member.line) ++ "\x7d;\n"

end StructSync
