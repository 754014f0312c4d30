import StructSync.Json.Decoder

/-!
# Fields of records

How single fields are put into the parts of a record and taken out of them again.
-/

namespace StructSync.Json

/-- A field that must stand in the array form. -/
def Slot.field {π β : Type} (key : String) (get : π → Option β) (put : π → β → π)
    (decoder : Decoder β) : Slot π where
  key
  isFilled parts := (get parts).isSome
  read parts cs := do
    let (value, rest) ← decoder cs
    .ok (put parts value, rest)
  isRequired := true

/-- A field that the array form may leave out at its end. -/
def Slot.trailing {π : Type} (slot : Slot π) : Slot π := { slot with isRequired := false }

/-- The part under a key, which must be there. -/
def need {β : Type} (key : String) : Option β → Except String β
  | some value => .ok value
  | none => .error key

end StructSync.Json
