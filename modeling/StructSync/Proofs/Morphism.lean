import Mathlib
import StructSync.Proofs.Call

/-!
# Maps between hosts

A `Host.Morphism` is a map between hosts under which every answer that a call can ask for stays the
same. Descriptors cannot tell the two sides apart: every call commutes with the map. So what is
proved of databases that may fail (`FaultyDatabase`) holds of databases and of refusing hosts, of
which each is such a part.
-/

namespace StructSync

open Work

variable {σ τ : Type} [Host σ] [Host τ]

/-- An answer with the host behind it mapped. -/
def Host.carry {α : Type} (φ : σ → τ) (x : α × σ) : α × τ := (x.1, φ x.2)

/-- A map between hosts that keeps every answer. Nothing is said of declarations, since no call
resolves one. -/
structure Host.Morphism (φ : σ → τ) : Prop where
  findStruct : ∀ host name, Host.findStruct? (φ host) name = Host.findStruct? host name
  structSize : ∀ host id, Host.structSize (φ host) id = Host.structSize host id
  members : ∀ host id, Host.members (φ host) id = Host.members host id
  createStruct : ∀ name host,
    Host.createStruct name (φ host) = carry φ (Host.createStruct name host)
  deleteStruct : ∀ id host, Host.deleteStruct id (φ host) = carry φ (Host.deleteStruct id host)
  createMember : ∀ id name offset size flags host,
    Host.createMember id name offset size flags (φ host) =
      carry φ (Host.createMember id name offset size flags host)
  setMemberType : ∀ id member offset type host,
    Host.setMemberType id member offset type (φ host) =
      carry φ (Host.setMemberType id member offset type host)

namespace Host.Morphism

variable {φ : σ → τ}

theorem materializeMember (h : Morphism φ) (id : StructId) (m : Member) (host : σ) :
    value (m.materialize id) (φ host) = carry φ (value (m.materialize id) host) := by
  rw [Member.value_materialize, Member.value_materialize, h.createMember]
  rcases Host.createMember id m.name m.offset m.size m.type.flags host with ⟨e | member, host'⟩
  · rfl
  · simp only [carry, h.setMemberType]
    rcases Host.setMemberType id member m.offset m.type.type host' with ⟨e | _, host''⟩ <;> rfl

theorem createMembers (h : Morphism φ) (id : StructId) (members : List Member) (host : σ) :
    value (StructSync.createMembers id members) (φ host) =
      carry φ (value (StructSync.createMembers id members) host) := by
  induction members generalizing host with
  | nil => rfl
  | cons m rest ih =>
    rw [value_createMembers_cons, value_createMembers_cons, h.materializeMember]
    rcases value (m.materialize id) host with ⟨e | member, host'⟩
    · rfl
    · simp only [carry, ih]
      rcases value (StructSync.createMembers id rest) host' with ⟨e | bindings, host''⟩ <;> rfl

theorem create (h : Morphism φ) (d : Descriptor) (host : σ) :
    value d.create (φ host) = carry φ (value d.create host) := by
  rw [Descriptor.value_create, Descriptor.value_create, h.createStruct]
  rcases Host.createStruct d.name host with ⟨e | id, host'⟩
  · rfl
  · simp only [carry, h.createMembers]
    rcases value (StructSync.createMembers id d.layout.members) host' with
      ⟨⟨m, e⟩ | bindings, host''⟩
    · simp only [h.deleteStruct, carry]
    · rfl

theorem validate (h : Morphism φ) (host : σ) (id : StructId) (d : Descriptor) :
    (d.validate (φ host) id).value = (d.validate host id).value := by
  rw [Descriptor.value_validate, Descriptor.value_validate, h.structSize, h.members]

theorem reconcile (h : Morphism φ) (d : Descriptor) (host : σ) :
    value d.reconcile (φ host) = carry φ (value d.reconcile host) := by
  by_cases hd : d.state = .schemaParsed
  · rw [Descriptor.value_reconcile_schemaParsed hd, Descriptor.value_reconcile_schemaParsed hd,
      h.findStruct]
    cases Host.findStruct? host d.name with
    | none => simp only [h.create, carry]
    | some existing =>
      simp only [h.validate]
      rcases (d.validate host existing).value with ⟨e | report, d'⟩
      · rfl
      · dsimp only
        split <;> rfl
  · unfold Descriptor.reconcile
    cases hs : d.state with
    | schemaParsed => exact absurd hs hd
    | _ => rfl

theorem resolve (h : Morphism φ) (decision : Decision) (d : Descriptor) (host : σ) :
    value (d.resolve decision) (φ host) = carry φ (value (d.resolve decision) host) := by
  cases hs : d.state with
  | awaitingConfirmation existing report =>
    cases decision with
    | yes =>
      rw [Descriptor.value_resolve_yes hs, Descriptor.value_resolve_yes hs, h.deleteStruct]
      rcases Host.deleteStruct existing host with ⟨e | _, host'⟩
      · rfl
      · simp only [carry, h.create]
    | _ =>
      unfold Descriptor.resolve
      rw [hs]
      rfl
  | _ =>
    have hne : ∀ existing report, d.state ≠ .awaitingConfirmation existing report := by simp [hs]
    rw [Descriptor.value_resolve_of_ne hne, Descriptor.value_resolve_of_ne hne]
    rfl

/-- No call can tell the two hosts apart. -/
theorem run (h : Morphism φ) (c : Descriptor.Call) (d : Descriptor) (host : σ) :
    c.run d (φ host) = carry φ (c.run d host) := by
  cases c with
  | reconcile => exact h.reconcile d host
  | resolve decision => exact h.resolve decision d host
  | materialize confirm =>
    rw [Descriptor.Call.run_materialize, Descriptor.Call.run_materialize, h.reconcile]
    rcases value d.reconcile host with ⟨⟨e | (id | id | ⟨old, new⟩ | report), d'⟩, host'⟩ <;>
      first | rfl | exact h.resolve _ d' host'

theorem replaced? (h : Morphism φ) (c : Descriptor.Call) (d : Descriptor) (host : σ) :
    c.replaced? (φ host) d = c.replaced? host d := by
  cases c with
  | reconcile => rfl
  | resolve decision => rfl
  | materialize confirm =>
    rw [Descriptor.Call.replaced?, Descriptor.Call.replaced?, h.reconcile]
    rcases value d.reconcile host with ⟨⟨e | (id | id | ⟨old, new⟩ | report), d'⟩, host'⟩ <;> rfl

end Host.Morphism

/-- What fails, whatever a database itself would say: creating a member of such a name, giving a
member a type of such a name, deleting any struct. -/
structure Faults where
  member : String → Bool
  type : String → Bool
  delete : Bool

/-- Nothing fails. -/
def Faults.none : Faults := ⟨fun _ => false, fun _ => false, false⟩

/-- A database of which some requests fail. -/
structure FaultyDatabase where
  db : Database
  faults : Faults

namespace FaultyDatabase

instance : Host FaultyDatabase where
  findStruct? f := Host.findStruct? f.db
  structSize f := Host.structSize f.db
  members f := Host.members f.db
  parseType f := Host.parseType f.db
  createStruct name f := Host.carry (⟨·, f.faults⟩) (Host.createStruct name f.db)
  deleteStruct id f :=
    if f.faults.delete then (.error (.unknownStruct id), f)
    else Host.carry (⟨·, f.faults⟩) (Host.deleteStruct id f.db)
  createMember id name offset size flags f :=
    if f.faults.member name then (.error (.memberRejected name .refused), f)
    else Host.carry (⟨·, f.faults⟩) (Host.createMember id name offset size flags f.db)
  setMemberType id member offset type f :=
    if f.faults.type type.name then (.error (.typeRejected member type.name .refused), f)
    else Host.carry (⟨·, f.faults⟩) (Host.setMemberType id member offset type f.db)

/-- A database that never fails. -/
def ofDatabase (db : Database) : FaultyDatabase := ⟨db, .none⟩

theorem morphism_ofDatabase : Host.Morphism ofDatabase where
  findStruct _ _ := rfl
  structSize _ _ := rfl
  members _ _ := rfl
  createStruct _ _ := rfl
  deleteStruct _ _ := if_neg (by simp [ofDatabase, Faults.none])
  createMember _ _ _ _ _ _ := if_neg (by simp [ofDatabase, Faults.none])
  setMemberType _ _ _ _ _ := if_neg (by simp [ofDatabase, Faults.none])

theorem carry_ofDatabase_inj {α : Type} {x y : α × Database}
    (h : Host.carry ofDatabase x = Host.carry ofDatabase y) : x = y := by
  obtain ⟨hanswer, hdb⟩ := Prod.mk.inj h
  exact Prod.ext hanswer (congrArg db hdb)

/-- A database that refuses what is listed. -/
def ofRefusing (r : RefusingHost Database) : FaultyDatabase :=
  ⟨r.host, r.refusal.members.contains, r.refusal.types.contains, r.refusal.delete⟩

theorem morphism_ofRefusing : Host.Morphism ofRefusing where
  findStruct _ _ := rfl
  structSize _ _ := rfl
  members _ _ := rfl
  createStruct _ _ := rfl
  deleteStruct id r := by
    show (if r.refusal.delete = true then _ else _) =
      Host.carry ofRefusing (if r.refusal.delete = true then _ else _)
    split <;> rfl
  createMember id name offset size flags r := by
    show (if r.refusal.members.contains name = true then _ else _) =
      Host.carry ofRefusing (if r.refusal.members.contains name = true then _ else _)
    split <;> rfl
  setMemberType id member offset type r := by
    show (if r.refusal.types.contains type.name = true then _ else _) =
      Host.carry ofRefusing (if r.refusal.types.contains type.name = true then _ else _)
    split <;> rfl

end FaultyDatabase

end StructSync
