import StructSync.CType.Resolve
import StructSync.DataFlags
import StructSync.Json.Problem

/-!
# Hosts

A host keeps struct definitions by id. `Host` lists what may be asked of one and what may be
changed, each change a request of its own that the host may refuse; `HostError` says why.
-/

namespace StructSync

/-- The id of a struct in a host. -/
structure StructId where
  value : UInt64
deriving DecidableEq

/-- The id of a member in a host. -/
structure MemberId where
  value : UInt64
deriving DecidableEq

def StructId.text (id : StructId) : String := "0x" ++ Text.hexLower id.value.toNat

def MemberId.text (id : MemberId) : String := "0x" ++ Text.hexLower id.value.toNat

/-- A member as its host reports it. Nothing is promised about the two offsets. -/
structure HostMember where
  id : MemberId
  name : String
  start : UInt64
  stop : UInt64
deriving DecidableEq

/-- The number of bytes from start to stop, none if it stops before it starts. -/
def HostMember.size (m : HostMember) : UInt64 := subClamped m.stop m.start

/-- Why a host does not take a member. -/
inductive MemberFault where
  | zeroSize
  | endOverflow
  | duplicateName
  | overlap (start stop : UInt64) (other : String)
  | refused
deriving DecidableEq

def MemberFault.message : MemberFault → String
  | zeroSize => "zero-sized member"
  | endOverflow => "member end overflows"
  | duplicateName => "duplicate member name"
  | overlap start stop other =>
    "range 0x" ++ Text.hexLower start.toNat ++ "..0x" ++ Text.hexLower stop.toNat
      ++ " overlaps '" ++ other ++ "'"
  | refused => "refused"

/-- Why a host does not give a member a type. -/
inductive TypeFault where
  | wrongOffset (stored given : UInt64)
  | wrongSize (type member : UInt64)
  | refused
deriving DecidableEq

def TypeFault.message : TypeFault → String
  | wrongOffset stored given =>
    "member lives at 0x" ++ Text.hexLower stored.toNat ++ ", not 0x" ++ Text.hexLower given.toNat
  | wrongSize type member =>
    "type is " ++ toString type.toNat ++ " bytes, member is " ++ toString member.toNat
  | refused => "refused"

/-- Why stored members cannot be what a host holds. -/
inductive Corruption where
  | range (struct member : String) (offset size : UInt64)
  | overlap (struct first second : String)
deriving DecidableEq

def Corruption.message : Corruption → String
  | range struct member offset size =>
    "member '" ++ struct ++ "." ++ member ++ "' has range 0x" ++ Text.hexUpper offset.toNat
      ++ "+0x" ++ Text.hexUpper size.toNat
  | overlap struct first second =>
    "members '" ++ first ++ "' and '" ++ second ++ "' of '" ++ struct ++ "' overlap"

/-- What an operating system says when a file cannot be used. -/
inductive FileFault where
  | notFound
  | notDirectory
  | isDirectory
  | nameTooLong
  | nulCharacter
  | notText
  | other (message : String)
deriving DecidableEq

def FileFault.message : FileFault → String
  | notFound => "No such file or directory (os error 2)"
  | notDirectory => "Not a directory (os error 20)"
  | isDirectory => "Is a directory (os error 21)"
  | nameTooLong => "File name too long (os error 36)"
  | nulCharacter => "file name contained an unexpected NUL byte"
  | notText => "stream did not contain valid UTF-8"
  | other message => message

/-- Why a host does not do what it is asked. -/
inductive HostError where
  | nameCollision (name : String)
  | unknownStruct (id : StructId)
  | unknownMember (id : MemberId)
  | memberRejected (name : String) (fault : MemberFault)
  | typeRejected (member : MemberId) (typeName : String) (fault : TypeFault)
  | declaration (text : String) (fault : DeclarationError)
  | corrupt (fault : Corruption)
  | file (fault : FileFault)
  | format (fault : Json.Error)
deriving DecidableEq

namespace HostError

def message : HostError → String
  | nameCollision name => "A structure named '" ++ name ++ "' already exists"
  | unknownStruct id => "Unknown structure id " ++ id.text
  | unknownMember id => "Unknown member id " ++ id.text
  | memberRejected name fault => "Member '" ++ name ++ "' rejected: " ++ fault.message
  | typeRejected member typeName fault =>
    "Type '" ++ typeName ++ "' rejected for member " ++ member.text ++ ": " ++ fault.message
  | declaration text fault => "Could not parse type '" ++ text ++ "': " ++ fault.message
  | corrupt fault => "Corrupt database: " ++ fault.message
  | file fault => "IO error: " ++ fault.message
  | format fault => "Serialization error: " ++ fault.message

/-- The message, and after it what lies behind it in short. -/
def chain (e : HostError) : List String :=
  match e with
  | file fault => [e.message, fault.message]
  | format fault => [e.message, fault.summary]
  | _ => [e.message]

end HostError

/-- A store of struct definitions. Questions leave it as it is; a request gives its answer and the
store after it, refused or not. -/
class Host (σ : Type) where
  findStruct? : σ → String → Option StructId
  structSize : σ → StructId → Except HostError UInt64
  /-- The members in the order the host keeps them. -/
  members : σ → StructId → Except HostError (List HostMember)
  parseType : σ → String → Except HostError CType
  createStruct : String → σ → Except HostError StructId × σ
  deleteStruct : StructId → σ → Except HostError Unit × σ
  createMember : StructId → String → UInt64 → UInt64 → DataFlags → σ →
    Except HostError MemberId × σ
  setMemberType : StructId → MemberId → UInt64 → CType → σ → Except HostError Unit × σ

end StructSync
