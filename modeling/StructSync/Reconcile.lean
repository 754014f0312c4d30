import StructSync.Confirmation
import StructSync.Descriptor

/-!
# Reconciling a descriptor with its host

A struct that is stored as declared is accepted. One that is not stored is created. One that
differs is deleted and created again, but only after its owner has said yes. A struct of which a
member is refused is deleted again.
-/

namespace StructSync

/-- How a descriptor and its host came together, or what keeps them apart. -/
inductive Outcome where
  | accepted (id : StructId)
  | created (id : StructId)
  | recreated (deleted recreation : StructId)
  | needsConfirmation (report : Report)
deriving DecidableEq

namespace Outcome

def structId? : Outcome → Option StructId
  | accepted id | created id | recreated _ id => some id
  | needsConfirmation _ => none

/-- Was the host changed? -/
def isMutation : Outcome → Bool
  | created _ | recreated .. => true
  | _ => false

def text : Outcome → String
  | accepted id => "accepted existing (" ++ id.text ++ ")"
  | created id => "created (" ++ id.text ++ ")"
  | recreated old new => "recreated (" ++ old.text ++ " -> " ++ new.text ++ ")"
  | needsConfirmation report =>
    "needs confirmation (" ++ toString report.mismatches.length ++ " mismatches)"

end Outcome

/-- Work that changes a host and leaves records. -/
abbrev Work (σ : Type) := StateT σ Logged

variable {σ : Type} [Host σ]

/-- Creates the member in the struct and gives it its type. -/
def Member.materialize (id : StructId) (m : Member) : Work σ (Except SyncError MemberId) := do
  match ← modifyGet (Host.createMember id m.name m.offset m.size m.type.flags) with
  | .error e => return .error (.refusedMember m.path e)
  | .ok member =>
    match ← modifyGet (Host.setMemberType id member m.offset m.type.type) with
    | .error e => return .error (.refusedMember m.path e)
    | .ok () =>
      Logged.note .info .member ("Created struct member '" ++ m.path ++ "' of size "
        ++ toString m.size.toNat ++ " at offset " ++ toString m.offset.toNat)
      return .ok member

/-- Creates the members in order, up to the first that is refused. -/
def createMembers (id : StructId) :
    List Member → Work σ (Except (Member × SyncError) Bindings)
  | [] => return .ok []
  | m :: rest => do
    match ← m.materialize id with
    | .error e => return .error (m, e)
    | .ok member =>
      match ← createMembers id rest with
      | .error failure => return .error failure
      | .ok bindings => return .ok ((m.name, member) :: bindings)

namespace Descriptor

/-- Creates the struct with all its members; if one is refused the struct is deleted again. -/
def create (d : Descriptor) : Work σ (Except SyncError StructId × Descriptor) := do
  match ← modifyGet (Host.createStruct d.name) with
  | .error e => return (.error (.host e), d)
  | .ok id =>
    match ← createMembers id d.layout.members with
    | .ok bindings =>
      Logged.note .info .descriptor
        ("Created struct '" ++ d.name ++ "' of size " ++ toString d.size.toNat)
      return (.ok id, { d with bindings, state := .materialized id })
    | .error (m, e) =>
      Logged.note .error .descriptor
        ("Failed to materialize '" ++ m.path ++ "', rolling back struct '" ++ d.name ++ "'")
      match ← modifyGet (Host.deleteStruct id) with
      | .ok () =>
        Logged.note .info .descriptor
          ("Deleted partial struct '" ++ d.name ++ "' (ID=" ++ id.text ++ ")")
      | .error e =>
        Logged.note .error .descriptor
          ("Could not delete partial struct '" ++ d.name ++ "': " ++ e.message)
      return (.error e, { d with bindings := [] })

/-- Accepts the stored struct of the descriptor's name if it is as declared, creates it if there is
none, and otherwise leaves it as it is until the question of `resolve` is answered. -/
def reconcile (d : Descriptor) : Work σ (Except SyncError Outcome × Descriptor) := do
  match d.state with
  | .uninitialized => return (.error (.notParsed d.name), d)
  | .awaitingConfirmation .. | .materialized _ =>
    return (.error (.outOfTurn d.name .reconcile), d)
  | .schemaParsed =>
    match Host.findStruct? (← get) d.name with
    | none =>
      let (result, d) ← d.create
      return (result.map .created, d)
    | some existing =>
      let (result, d) ← d.validate (← get) existing
      match result with
      | .error e => return (.error e, d)
      | .ok report =>
        if report.isMatch then
          Logged.note .info .descriptor
            ("Found struct '" ++ d.name ++ "' with ID " ++ existing.text)
          return (.ok (.accepted existing), { d with state := .materialized existing })
        else
          return (.ok (.needsConfirmation report),
            { d with state := .awaitingConfirmation existing report })

/-- Answers the question whether the stored struct may be replaced. -/
def resolve (decision : Decision) (d : Descriptor) :
    Work σ (Except SyncError Outcome × Descriptor) := do
  match d.state with
  | .awaitingConfirmation existing _ =>
    let d := { d with state := .schemaParsed }
    match decision with
    | .no => return (.error (.declined d.name), d)
    | .cancel => return (.error (.cancelled d.name), d)
    | .yes =>
      match ← modifyGet (Host.deleteStruct existing) with
      | .error e => return (.error (.host e), d)
      | .ok () =>
        Logged.note .info .descriptor
          ("Deleted struct '" ++ d.name ++ "' (ID=" ++ existing.text ++ ")")
        let (result, d) ← d.create
        return (result.map (.recreated existing), d)
  | _ => return (.error (.noPendingQuestion d.name), d)

variable {m : Type → Type} [Monad m]

/-- Reconciles, and asks if there is a question. -/
def materialize (confirm : Confirmer m) (d : Descriptor) (host : σ) :
    m (Logged ((Except SyncError Outcome × Descriptor) × σ)) := do
  let reconciled := d.reconcile.run host
  match reconciled.value with
  | ((.ok (.needsConfirmation report), d), host) =>
    let answer ← confirm report.overwritePrompt
    return do
      let _ ← reconciled
      let decision ← answer
      Logged.note .debug .descriptor ("Overwrite '" ++ d.name ++ "'? -> " ++ decision.name)
      (d.resolve decision).run host
  | _ => return reconciled

/-- A descriptor of that name, parsed and materialized in one go. -/
def build (confirm : Confirmer m) (name : String) (fields : List Field) (host : σ) :
    m (Logged (Except SyncError (Descriptor × Outcome) × σ)) := do
  let parsed := (ofName name).parse host fields
  match parsed.value with
  | (.error e, _) => return do
    let _ ← parsed
    return (.error e, host)
  | (.ok (), d) =>
    let materialized ← d.materialize confirm host
    return do
      let _ ← parsed
      let ((result, d), host) ← materialized
      return (result.map (d, ·), host)

end Descriptor

end StructSync
