import StructSync.Logged
import StructSync.Text.Numeral

/-!
# Reports

A report lists how a stored struct differs from its declared layout. Each difference is logged as
it is found.
-/

namespace StructSync

/-- One way in which a stored struct differs from its declaration. -/
inductive Mismatch where
  | structSize (expected found : UInt64)
  | memberName (expected found : String)
  | memberOffset (member : String) (expected found : UInt64)
  | memberSize (member : String) (expected found : UInt64)
  | unexpectedMember (name : String) (offset : UInt64)
  | missingMember (name : String)
  | memberCount (expected found : Nat)
deriving DecidableEq

namespace Mismatch

/-- What was expected and what was found. -/
def contrast (expected found : String) : String :=
  "mismatch: expected " ++ expected ++ " but got " ++ found

def text : Mismatch → String
  | structSize expected found =>
    "size " ++ contrast (toString expected.toNat) (toString found.toNat)
  | memberName expected found =>
    "name " ++ contrast ("'" ++ expected ++ "'") ("'" ++ found ++ "'")
  | memberOffset member expected found =>
    "'" ++ member ++ "' offset " ++ contrast ("0x" ++ Text.hexUpper expected.toNat)
      ("0x" ++ Text.hexUpper found.toNat)
  | memberSize member expected found =>
    "'" ++ member ++ "' size " ++ contrast (toString expected.toNat) (toString found.toNat)
  | unexpectedMember name offset =>
    "unexpected member '" ++ name ++ "' @ 0x" ++ Text.hexUpper offset.toNat
  | missingMember name => "missing member '" ++ name ++ "'"
  | memberCount expected found =>
    "incorrect number of members: expected " ++ toString expected ++ " but got " ++ toString found

end Mismatch

/-- The differences of a stored struct, in the order in which they were found. -/
structure Report where
  struct : String
  mismatches : List Mismatch
deriving DecidableEq

namespace Report

def isMatch (r : Report) : Bool := r.mismatches.isEmpty

def text (r : Report) : String :=
  if r.isMatch then r.struct ++ ": matches"
  else
    r.struct ++ ": " ++ toString r.mismatches.length ++ " mismatch(es)\n"
      ++ "\n".intercalate (r.mismatches.map fun m => "  - " ++ m.text)

/-- The question whether the stored struct may be replaced, with the first three differences. -/
def overwritePrompt (r : Report) : String :=
  "A structure named '" ++ r.struct ++ "' already exists but does not match the needed format ("
    ++ "; ".intercalate ((r.mismatches.take 3).map Mismatch.text)
    ++ "). Do you wish to overwrite it?"

/-- The report with one more difference. -/
def push (r : Report) (m : Mismatch) : Logged Report := do
  Logged.note .warn .report ("validate '" ++ r.struct ++ "': " ++ m.text)
  return { r with mismatches := r.mismatches ++ [m] }

/-- The report with more differences. -/
def extend (r : Report) (mismatches : List Mismatch) : Logged Report :=
  mismatches.foldlM push r

@[simp] theorem value_push (r : Report) (m : Mismatch) :
    (r.push m).value = { r with mismatches := r.mismatches ++ [m] } := rfl

@[simp] theorem value_extend (r : Report) (ms : List Mismatch) :
    (r.extend ms).value = { r with mismatches := r.mismatches ++ ms } := by
  induction ms generalizing r with
  | nil => simp [extend]
  | cons m ms ih => simp [extend, List.foldlM_cons] at ih ⊢; simp [ih]

end Report

end StructSync
