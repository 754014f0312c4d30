import StructSync.DeclaredType
import StructSync.Report
import StructSync.SyncError
import StructSync.Word

/-!
# Declared members

A member is a field of a schema made definite: it has a name, an offset and a type, and ends inside
the range of addresses. `Member.ofField` makes one from a field; `Member.mismatches` compares it
with what a host stores.
-/

namespace StructSync

/-- A member that a schema declares for a struct. -/
structure Member where
  struct : String
  name : String
  offset : UInt64
  type : DeclaredType
  fits : offset.toNat + type.size.toNat < UInt64.size
deriving DecidableEq

/-- The name that a field's member gets: its own, or one made of its offset. -/
def Field.memberName? (field : Field) : Option String :=
  field.name <|> field.offset.map fun offset => "field_" ++ Text.hexLower offset.toNat

namespace Member

def size (m : Member) : UInt64 := m.type.size

/-- The offset behind the last byte. -/
def stop (m : Member) : UInt64 := m.offset + m.size

theorem toNat_stop (m : Member) : m.stop.toNat = m.offset.toNat + m.size.toNat := by
  have := m.fits
  simp only [stop, size, DeclaredType.size, UInt64.toNat_add] at *
  have := word_size_eq
  omega

theorem offset_lt_stop (m : Member) : m.offset < m.stop := by
  have hsize : m.size.toNat ≠ 0 := fun h => m.type.sized (UInt64.toNat_inj.1 h)
  rw [UInt64.lt_iff_toNat_lt, toNat_stop]
  omega

/-- The name with the struct's before it. -/
def path (m : Member) : String := m.struct ++ "." ++ m.name

def text (m : Member) : String :=
  m.type.type.name ++ " " ++ m.name ++ " @ 0x" ++ Text.hexUpper m.offset.toNat

/-- The two members have different names and share no byte. -/
def Apart (a b : Member) : Prop := a.name ≠ b.name ∧ (a.stop ≤ b.offset ∨ b.stop ≤ a.offset)

/-- Do the members share a byte? -/
def overlaps (a b : Member) : Bool := b.offset < a.stop && a.offset < b.stop

theorem apart_of_not_overlaps {a b : Member} (hname : a.name ≠ b.name)
    (h : ¬a.overlaps b = true) : a.Apart b := by
  refine ⟨hname, ?_⟩
  simp only [overlaps, Bool.and_eq_true, decide_eq_true_eq, not_and, UInt64.not_lt] at h
  by_cases hlt : b.offset < a.stop
  · exact .inr (h hlt)
  · exact .inl (UInt64.not_lt.1 hlt)

/-- The member that a field declares: its number is used in messages, and the size of the struct
so far is its offset if it gives none. -/
def ofField {σ : Type} [Host σ] (host : σ) (struct : String) (index : Nat) (size : UInt64)
    (field : Field) : Logged (Except SyncError Member) := do
  Logged.note .debug .member
    ("[" ++ struct ++ "] field #" ++ toString index ++ " = " ++ field.description)
  let offset := field.offset.getD size
  match field.memberName? with
  | none => return .error (.missingName struct index)
  | some name =>
    if Text.isBlankText name then return .error (.emptyName struct index)
    else
      match field.type with
      | none => return .error (.missingType struct name)
      | some text =>
        match ← DeclaredType.resolve host text with
        | .error source => return .error (.unresolvedType (struct ++ "." ++ name) text source)
        | .ok type =>
          if fits : offset.toNat + type.size.toNat < UInt64.size then
            return .ok { struct, name, offset, type, fits }
          else return .error (.offsetOverflow struct name)

/-- How a stored member differs from the declared one. -/
def mismatches (m : Member) (stored : HostMember) : List Mismatch :=
  (if stored.name = m.name then [] else [.memberName m.name stored.name])
    ++ (if stored.start = m.offset then [] else [.memberOffset m.name m.offset stored.start])
    ++ (if stored.size = m.size then [] else [.memberSize m.name m.size stored.size])

/-- The differences, or a record that there are none. -/
def validate (m : Member) (stored : HostMember) : Logged (List Mismatch) := do
  let found := m.mismatches stored
  if found.isEmpty then
    Logged.note .debug .member ("validate: found match for '" ++ m.path ++ "'")
  return found

@[simp] theorem value_validate (m : Member) (stored : HostMember) :
    (m.validate stored).value = m.mismatches stored := by
  by_cases h : (m.mismatches stored).isEmpty = true <;> simp [validate, h]

end Member

end StructSync
