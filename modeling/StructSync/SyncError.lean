import StructSync.Schema

/-!
# What can go wrong

`SyncError` lists why a struct is not brought in step with its schema: a fault of the schema, a
step taken out of turn, a host that refuses, or an owner who does not want the change.
-/

namespace StructSync

/-- The steps that a descriptor takes once. -/
inductive Step where
  | parse
  | reconcile
deriving DecidableEq

def Step.name : Step → String
  | parse => "parse_schema"
  | reconcile => "reconcile"

inductive SyncError where
  | duplicateMember (struct member : String)
  | missingName (struct : String) (index : Nat)
  | missingType (struct member : String)
  | emptyName (struct : String) (index : Nat)
  | overlappingMember (struct member other : String)
  | offsetOverflow (struct member : String)
  | outOfTurn (struct : String) (step : Step)
  | notParsed (struct : String)
  | noPendingQuestion (struct : String)
  /-- The host does not know the type that a field declares. -/
  | unresolvedType (member declaration : String) (source : HostError)
  /-- The host does not take a member, or does not give it its type. -/
  | refusedMember (member : String) (source : HostError)
  | host (source : HostError)
  | declined (struct : String)
  | cancelled (struct : String)
  | schema (fault : SchemaError)
deriving DecidableEq

namespace SyncError

def message : SyncError → String
  | duplicateMember struct member =>
    "Member with name '" ++ member ++ "' already present in structure '" ++ struct ++ "'"
  | missingName struct index =>
    "Member #" ++ toString index ++ " of '" ++ struct ++ "' needs a 'name' or an 'offset'"
  | missingType struct member => "Member '" ++ member ++ "' of '" ++ struct ++ "' needs a 'ctype'"
  | emptyName struct index =>
    "Member #" ++ toString index ++ " of '" ++ struct ++ "' has an empty name"
  | overlappingMember struct member other =>
    "Member '" ++ member ++ "' of '" ++ struct ++ "' overlaps member '" ++ other ++ "'"
  | offsetOverflow struct member =>
    "Member '" ++ member ++ "' of '" ++ struct ++ "' ends past the addressable range"
  | outOfTurn struct step => "May not call " ++ step.name ++ " twice on '" ++ struct ++ "'"
  | notParsed struct => "Schema of '" ++ struct ++ "' has not been parsed"
  | noPendingQuestion struct => "'" ++ struct ++ "' is not waiting for an overwrite decision"
  | unresolvedType member declaration source =>
    "Could not parse type '" ++ declaration ++ "' for '" ++ member ++ "': " ++ source.message
  | refusedMember member source =>
    "Could not create struct member '" ++ member ++ "': " ++ source.message
  | host source => "Host error: " ++ source.message
  | declined struct => "User declined to overwrite structure '" ++ struct ++ "'"
  | cancelled struct => "User cancelled operation on structure '" ++ struct ++ "'"
  | schema fault => "Schema error: " ++ fault.message

/-- The host's error behind this one. -/
def source? : SyncError → Option HostError
  | unresolvedType _ _ source | refusedMember _ source | host source => some source
  | _ => none

/-- The message, and after it what lies behind it. -/
def chain (e : SyncError) : List String :=
  e.message :: (e.source?.map HostError.chain).getD []

/-- Does the fault lie in the schema or in the order of the steps? -/
def isConfiguration : SyncError → Bool
  | duplicateMember .. | missingName .. | missingType .. | emptyName .. | overlappingMember ..
  | offsetOverflow .. | outOfTurn .. | notParsed .. | noPendingQuestion .. => true
  | _ => false

/-- Did the owner stop the change? -/
def isUserAbort : SyncError → Bool
  | declined _ | cancelled _ => true
  | _ => false

end SyncError

end StructSync
