import StructSync.Host
import StructSync.Logged

/-!
# Declared types

A declaration as it was given, with the type that a host resolved it to. The type always has a
size.
-/

namespace StructSync

/-- A declaration and its type. -/
structure DeclaredType where
  text : String
  type : CType
  sized : type.size ≠ 0
deriving DecidableEq

namespace DeclaredType

def size (t : DeclaredType) : UInt64 := t.type.size

def flags (t : DeclaredType) : DataFlags := .ofType t.type

/-- The declaration resolved by the host. -/
def resolve {σ : Type} [Host σ] (host : σ) (text : String) :
    Logged (Except HostError DeclaredType) := do
  match Host.parseType host text with
  | .error e => return .error e
  | .ok type =>
    if sized : type.size ≠ 0 then
      Logged.note .trace .ctype ("Resolved '" ++ text ++ "' to '" ++ type.name ++ "' ("
        ++ toString type.size.toNat ++ " bytes)")
      return .ok { text, type, sized }
    else return .error (.declaration text .noSize)

end DeclaredType

end StructSync
