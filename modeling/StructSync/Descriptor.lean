import StructSync.Layout

/-!
# Descriptors

A descriptor stands for one struct that is to be kept in a host: its name, the layout its schema
declares, the ids its members have in the host, and how far it has come. `Descriptor.parse` lays
the fields of a schema out; `Descriptor.validate` compares the layout with a stored struct without
changing the host.
-/

namespace StructSync

/-- How far a descriptor has come. -/
inductive Descriptor.State where
  | uninitialized
  | schemaParsed
  /-- The stored struct differs, and its owner has not said whether it may be replaced. -/
  | awaitingConfirmation (existing : StructId) (report : Report)
  | materialized (id : StructId)
deriving DecidableEq

/-- The ids of members by name; of several under one name the first counts. -/
abbrev Bindings := List (String × MemberId)

structure Descriptor where
  name : String
  layout : Layout
  bindings : Bindings
  state : Descriptor.State
deriving DecidableEq

/-- The layout with the members of the fields behind its own. It stops at the first field that
makes no member; the members before it stay. -/
def Layout.addFields {σ : Type} [Host σ] (host : σ) (struct : String) :
    Nat → Layout → List Field → Logged (Except SyncError Unit × Layout)
  | _, l, [] => return (.ok (), l)
  | index, l, field :: fields => do
    match ← Member.ofField host struct index l.size field with
    | .error e => return (.error e, l)
    | .ok m =>
      match l.add m with
      | .error e => return (.error e, l)
      | .ok l => addFields host struct (index + 1) l fields

namespace Descriptor

/-- A descriptor whose schema has not been parsed. -/
def ofName (name : String) : Descriptor :=
  { name, layout := .empty, bindings := [], state := .uninitialized }

def size (d : Descriptor) : UInt64 := d.layout.size

/-- The id that the member of that name has in the host. -/
def memberId? (d : Descriptor) (name : String) : Option MemberId := d.bindings.lookup name

/-- The id of the struct in the host, once it is there as declared. -/
def structId? (d : Descriptor) : Option StructId :=
  match d.state with
  | .materialized id => some id
  | _ => none

def isMaterialized (d : Descriptor) : Bool := d.structId?.isSome

variable {σ : Type} [Host σ]

/-- Lays out the fields of the schema. -/
def parse (host : σ) (fields : List Field) (d : Descriptor) :
    Logged (Except SyncError Unit × Descriptor) := do
  if d.state ≠ .uninitialized then return (.error (.outOfTurn d.name .parse), d)
  else
    let (result, layout) ← d.layout.addFields host d.name 0 fields
    match result with
    | .error e => return (.error e, { d with layout })
    | .ok () =>
      Logged.note .debug .descriptor ("Parsed schema of '" ++ d.name ++ "': "
        ++ toString layout.members.length ++ " members, " ++ toString layout.size.toNat
        ++ " bytes")
      return (.ok (), { d with layout, state := .schemaParsed })

/-- Compares one stored member with the declared one of its name: the report so far with the
differences behind it, and the bindings so far with the stored id if there are none. -/
def compare (l : Layout) (found : Report × Bindings) (stored : HostMember) :
    Logged (Report × Bindings) := do
  let (report, bindings) := found
  match l.find? stored.name with
  | none => return (← report.push (.unexpectedMember stored.name stored.start), bindings)
  | some m =>
    let mismatches ← m.validate stored
    if mismatches.isEmpty then return (report, (m.name, stored.id) :: bindings)
    else
      Logged.note .warn .descriptor ("validate: field '" ++ m.path ++ "' failed validation")
      return (← report.extend mismatches, bindings)

/-- The declared members that no stored one has the name of. -/
def missing (l : Layout) (stored : List HostMember) : List Mismatch :=
  (l.members.filter fun m => !stored.any (·.name == m.name)).map (.missingMember ·.name)

/-- Compares the stored struct with the layout. If they agree the members are bound to the stored
ones, else to none. -/
def validate (host : σ) (id : StructId) (d : Descriptor) :
    Logged (Except SyncError Report × Descriptor) := do
  match Host.structSize host id with
  | .error e => return (.error (.host e), d)
  | .ok size =>
    let report : Report := ⟨d.name, []⟩
    let report ← report.extend (if size = d.size then [] else [.structSize d.size size])
    match Host.members host id with
    | .error e => return (.error (.host e), d)
    | .ok stored =>
      let (report, bindings) ← stored.foldlM (compare d.layout) (report, d.bindings)
      let declared := d.layout.members.length
      let report ← report.extend
        (if stored.length = declared then [] else [.memberCount declared stored.length])
      let report ← report.extend (missing d.layout stored)
      return (.ok report, { d with bindings := if report.isMatch then bindings else [] })

end Descriptor

end StructSync
