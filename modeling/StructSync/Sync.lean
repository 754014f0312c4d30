import StructSync.Reconcile

/-!
# Schemas and hosts

What is done with the structs of a schema as a whole: bringing a host in step with them, checking
how far it is from that, and laying them out.
-/

namespace StructSync

/-- The structs of those names, in the order of the names, or the first name that has none; all
structs if there are no names. -/
def Schema.select (schema : Schema) (names : List String) :
    Except String (List StructSchema) :=
  if names.isEmpty then .ok schema.structs
  else
    names.mapM fun name =>
      match schema.get? name with
      | some s => .ok s
      | none => .error name

variable {m : Type → Type} [Monad m] {σ : Type} [Host σ]

/-- Brings the structs in step one after the other, up to the first that cannot be. `tell` is told
of each. -/
def syncAll (confirm : Confirmer m)
    (tell : StructSchema → Logged (Except SyncError (Descriptor × Outcome)) → m Unit) :
    List StructSchema → σ → m (Except SyncError Unit × σ)
  | [], host => return (.ok (), host)
  | entry :: rest, host => do
    let built ← Descriptor.build confirm entry.name entry.fields host
    let (result, host) := built.value
    tell entry ⟨result, built.log⟩
    match result with
    | .error e => return (.error e, host)
    | .ok _ => syncAll confirm tell rest host

/-- What a check finds for one struct. -/
inductive Finding where
  | absent (struct : String)
  | compared (report : Report)
deriving DecidableEq

namespace Finding

/-- Is the struct other than declared? -/
def isDrift : Finding → Bool
  | absent _ => true
  | compared report => !report.isMatch

def text : Finding → String
  | absent struct => struct ++ ": not present in database"
  | compared report => report.text

end Finding

/-- Compares the stored struct of the declared one's name with it. -/
def checkOne (host : σ) (entry : StructSchema) : Logged (Except SyncError Finding) := do
  let (parsed, d) ← (Descriptor.ofName entry.name).parse host entry.fields
  match parsed with
  | .error e => return .error e
  | .ok () =>
    match Host.findStruct? host d.name with
    | none => return .ok (.absent d.name)
    | some id =>
      let (result, _) ← d.validate host id
      return result.map .compared

/-- Checks the structs in order, up to the first that cannot be checked. -/
def checkAll (host : σ) : List StructSchema → Logged (List Finding × Except SyncError Unit)
  | [] => return ([], .ok ())
  | entry :: rest => do
    match ← checkOne host entry with
    | .error e => return ([], .error e)
    | .ok finding =>
      let (findings, result) ← checkAll host rest
      return (finding :: findings, result)

/-- Brings a host in step with the structs, whatever it holds, for the sake of their layouts: the
descriptors, up to the first struct that cannot be laid out. -/
def layOutAll : List StructSchema → σ → Logged (List Descriptor × Except SyncError Unit)
  | [], _ => return ([], .ok ())
  | entry :: rest, host => do
    match ← (Descriptor.build (Confirmer.fixed .yes) entry.name entry.fields host : Id _) with
    | (.error e, _) => return ([], .error e)
    | (.ok (d, _), host) =>
      let (descriptors, result) ← layOutAll rest host
      return (d :: descriptors, result)

end StructSync
