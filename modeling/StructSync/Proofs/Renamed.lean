import Mathlib
import StructSync.Proofs.Parallel

/-!
# Calls on renamed descriptors

Two databases may have the same under one name but for a renaming of ids (`Database.SameUnder`).
Main statement (`Descriptor.Call.run_renamed`): a call on the descriptor of that name in the one and
on the renamed descriptor in the other gets the same answer and leaves the same under the name, as
long as the renaming moves the ids that the one gives out to those that the other gives out.
-/

namespace StructSync

open Equiv (Perm)
open Work

namespace Database

variable {ρ : Perm UInt64} {δ : UInt64} {j j' : List HostCall} {name : String} {id : StructId}
  {db db' : Database}

/-- Two databases that have the same under one name but for a renaming of ids, and have recorded the
same behind two journals. -/
structure SameUnder (ρ : Perm UInt64) (δ : UInt64) (j j' : List HostCall) (name : String)
    (db db' : Database) : Prop where
  next : db'.nextId = db.nextId + δ
  lookup : db'.findByName? name = ρ • db.findByName? name
  recorded : Recorded ρ j j' db.journal db'.journal

theorem get?_smul (hsound : db.Sound) (hsound' : db'.Sound)
    (hlookup : ∀ s, db.get? id = some s ∨ db'.get? (ρ • id) = some s →
      db'.findByName? s.name = ρ • db.findByName? s.name) :
    db'.get? (ρ • id) = ρ • db.get? id := by
  cases hs : db.get? id with
  | some s =>
    have hfind := hlookup s (.inl hs)
    rw [hsound.findByName?_of_get? hs rfl] at hfind
    obtain ⟨hget, -⟩ := hsound'.findByName?_eq_some.1 hfind
    rwa [StoredStruct.id_smul, hsound.get?_id hs] at hget
  | none =>
    refine Option.eq_none_iff_forall_ne_some.2 fun s' hs' => ?_
    have hfind := hlookup s' (.inr hs')
    rw [hsound'.findByName?_of_get? hs' rfl] at hfind
    obtain ⟨s, hs₀, rfl⟩ := Option.map_eq_some_iff.1 hfind.symm
    obtain ⟨hget, -⟩ := hsound.findByName?_eq_some.1 hs₀
    have hid : ρ • s.id = ρ • id := hsound'.get?_id hs'
    rw [(smul_left_cancel_iff ρ).1 hid, hs] at hget
    cases hget

/-- If the struct under an id can have that name only, the databases have the same under the id. -/
theorem SameUnder.sameAt (h : SameUnder ρ δ j j' name db db') (hsound : db.Sound)
    (hsound' : db'.Sound) (hname : ∀ s, db.get? id = some s → s.name = name)
    (hname' : ∀ s, db'.get? (ρ • id) = some s → s.name = name) : SameAt ρ δ j j' id db db' := by
  refine ⟨h.next, get?_smul hsound hsound' fun s hs => ?_, h.recorded⟩
  rw [hs.elim (hname s) (hname' s)]
  exact h.lookup

/-- Structs of that name that are begun in both are the same but for their ids. -/
theorem SameUnder.begun (h : SameUnder ρ δ j j' name db db') {begun begun' : Database}
    (hcreate : db.createStruct name = .ok (⟨db.nextId⟩, begun))
    (hcreate' : db'.createStruct name = .ok (⟨db'.nextId⟩, begun'))
    (hid : ρ • (⟨db.nextId⟩ : StructId) = ⟨db'.nextId⟩) :
    SameAt ρ δ j j' ⟨db.nextId⟩ begun begun' := by
  obtain ⟨-, -, rfl⟩ := createStruct_eq_ok.1 hcreate
  obtain ⟨-, -, rfl⟩ := createStruct_eq_ok.1 hcreate'
  refine ⟨next_succ h.next, ?_, h.recorded.concat (.createStruct name)⟩
  rw [← hid]
  exact SameAt.insert_get? rfl

end Database

namespace Descriptor

variable {ρ : Perm UInt64} {δ hi : UInt64} {j j' : List HostCall} {db db' after : Database}
  {F : Faults} {d : Descriptor}

/-! ### Creating a struct -/

/-- What a creation does with the struct that it has begun. -/
def fill (d : Descriptor) (id : StructId) (f : FaultyDatabase) :
    (Except SyncError StructId × Descriptor) × FaultyDatabase :=
  match value (createMembers id d.layout.members) f with
  | (.ok bindings, g) => ((.ok id, { d with bindings, state := .materialized id }), g)
  | (.error (_, e), g) => ((.error e, { d with bindings := [] }), (Host.deleteStruct id g).2)

theorem value_create_free {begun : Database} {id : StructId}
    (hcreate : db.createStruct d.name = .ok (id, begun)) :
    value d.create (⟨db, F⟩ : FaultyDatabase) = d.fill id ⟨begun, F⟩ := by
  rw [value_create, FaultyDatabase.createStruct_eq_ok hcreate, fill]
  dsimp only
  rcases value (createMembers id d.layout.members) (⟨begun, F⟩ : FaultyDatabase) with
    ⟨⟨m, e⟩ | bindings, partly⟩ <;> rfl

theorem next_le_deleteStruct (id : StructId) (f : FaultyDatabase) :
    f.db.nextId ≤ (Host.deleteStruct id f).2.db.nextId :=
  FaultyDatabase.next_le_perform (.deleteStruct id) f.db.nextId.toNat_lt

theorem next_le_fill (id : StructId) {f : FaultyDatabase}
    (hspare : f.db.Spare d.layout.members.length) : f.db.nextId ≤ (d.fill id f).2.db.nextId := by
  have hle := FaultyDatabase.next_le_createMembers id hspare
  rw [fill]
  rcases hmembers : value (createMembers id d.layout.members) f with ⟨⟨m, e⟩ | bindings, partly⟩ <;>
    rw [hmembers] at hle
  · exact UInt64.le_trans hle (next_le_deleteStruct id partly)
  · exact hle

theorem fill_renamed {id : StructId} {f f' : FaultyDatabase}
    (h : FaultyDatabase.SameAt ρ δ j j' id f f') (hspare : f.db.Spare d.layout.members.length)
    (hmoves : Moves ρ δ f.db.nextId hi) (hhi : (d.fill id f).2.db.nextId ≤ hi) :
    ((ρ • d).fill (ρ • id) f').1 = ρ • (d.fill id f).1 ∧
      FaultyDatabase.SameAt ρ δ j j' id (d.fill id f).2 ((ρ • d).fill (ρ • id) f').2 := by
  unfold fill at hhi ⊢
  rw [layout_smul]
  rcases hmembers : value (createMembers id d.layout.members) f with ⟨⟨m, e⟩ | bindings, partly⟩ <;>
    rw [hmembers] at hhi
  · obtain ⟨partly', hmembers', hpartly⟩ := h.createMembers hmembers hspare hmoves
      (UInt64.le_trans (next_le_deleteStruct id partly) hhi)
    obtain ⟨g', hdelete', hg⟩ := hpartly.deleteStruct (Prod.mk.eta.symm : Host.deleteStruct id _ = _)
    rw [hmembers']
    dsimp only [Except.map, Except.mapError]
    rw [hdelete']
    exact ⟨rfl, hg⟩
  · obtain ⟨partly', hmembers', hpartly⟩ := h.createMembers hmembers hspare hmoves hhi
    rw [hmembers']
    exact ⟨rfl, hpartly⟩

theorem create_renamed (h : Database.SameUnder ρ δ j j' d.name db db') (hsound : db.Sound)
    (hsound' : db'.Sound) (hspare : db.Spare (d.layout.members.length + 1))
    (hspare' : db'.Spare (d.layout.members.length + 1))
    {answer : Except SyncError StructId × Descriptor}
    (hrun : value d.create (⟨db, F⟩ : FaultyDatabase) = (answer, ⟨after, F⟩))
    (hmoves : Moves ρ δ db.nextId hi) (hhi : after.nextId ≤ hi) :
    ∃ after', value (ρ • d).create (⟨db', F⟩ : FaultyDatabase) = (ρ • answer, ⟨after', F⟩) ∧
      Database.SameUnder ρ δ j j' d.name after after' := by
  have hlookup := h.lookup
  cases hname : db.findByName? d.name with
  | some taken =>
    rw [hname] at hlookup
    rw [create_taken hname] at hrun
    cases hrun
    exact ⟨db', create_taken hlookup, h⟩
  | none =>
    rw [hname] at hlookup
    have hspareOne : db.Spare 1 := hspare.mono (Nat.le_add_left _ _)
    obtain ⟨begun, hcreate, hgrown⟩ := createStruct_blank hsound hspareOne hname
    obtain ⟨begun', hcreate', -⟩ :=
      createStruct_blank (d := ρ • d) hsound' (hspare'.mono (Nat.le_add_left _ _)) hlookup
    have hbegunSpare : begun.Spare d.layout.members.length := hgrown.spare (by rwa [Nat.add_comm])
    have hleaves := create_leaves (F := F) hsound hspare
    have hleaves' := create_leaves (d := ρ • d) (F := F) hsound' hspare'
    rw [hrun] at hleaves
    rw [value_create_free hcreate'] at hleaves' ⊢
    rw [value_create_free hcreate] at hrun
    have hafter := next_le_fill (d := d) ⟨db.nextId⟩ (f := ⟨begun, F⟩) hbegunSpare
    rw [hrun] at hafter
    have hid : ρ • (⟨db.nextId⟩ : StructId) = ⟨db'.nextId⟩ := by
      refine congrArg StructId.mk (Database.next_of_moves hmoves h.next hspareOne ?_).symm
      rw [(Database.createStruct_eq_ok.1 hcreate).2.2] at hafter
      exact UInt64.le_trans hafter hhi
    have hstart : FaultyDatabase.SameAt ρ δ j j' ⟨db.nextId⟩ ⟨begun, F⟩ ⟨begun', F⟩ :=
      ⟨rfl, h.begun hcreate hcreate' hid⟩
    obtain ⟨hanswer, hsame⟩ := fill_renamed hstart hbegunSpare
      (hmoves.mono (UInt64.le_iff_toNat_le.2 hgrown.le_next) (UInt64.le_refl _))
      (by rw [hrun]; exact hhi)
    rw [hrun, hid] at hanswer hsame
    -- what is under the name afterwards is what has become of the struct that was begun
    obtain ⟨left, hleft, -, hview⟩ := hleaves
    obtain ⟨after', hafter', -, hview'⟩ := hleaves'
    obtain rfl : after = left := congrArg FaultyDatabase.db hleft
    rw [hafter'] at hsame
    refine ⟨after', Prod.ext hanswer hafter', hsame.db.next, ?_, hsame.db.recorded⟩
    rw [hview hname, ← @name_smul ρ d, hview' hlookup, ← hid]
    exact hsame.db.get?

/-! ### The calls -/

theorem validate_renamed (hsound : db.Sound) (hsound' : db'.Sound) {s : StoredStruct}
    (hs : db.findByName? d.name = some s) (hs' : db'.findByName? d.name = some (ρ • s)) :
    ((ρ • d).validate (⟨db', F⟩ : FaultyDatabase) (ρ • s.id)).value =
      ρ • (d.validate (⟨db, F⟩ : FaultyDatabase) s.id).value := by
  obtain ⟨hget, -⟩ := hsound.findByName?_eq_some.1 hs
  obtain ⟨hget', -⟩ := hsound'.findByName?_eq_some.1 hs'
  have hsize : db.structSize s.id = .ok s.size := Database.structSize_eq_ok.2 ⟨s, hget, rfl⟩
  have hmembers : db.members s.id = .ok (Database.reported s) :=
    Database.members_eq_ok.2 ⟨s, hget, rfl⟩
  have hsize' : db'.structSize (ρ • s.id) = .ok (ρ • s).size :=
    Database.structSize_eq_ok.2 ⟨ρ • s, hget', rfl⟩
  have hmembers' : db'.members (ρ • s.id) = .ok (Database.reported (ρ • s)) :=
    Database.members_eq_ok.2 ⟨ρ • s, hget', rfl⟩
  rw [value_validate, value_validate]
  simp only [FaultyDatabase.structSize_eq, FaultyDatabase.members_eq, hsize, hmembers, hsize',
    hmembers']
  rw [StoredStruct.size_smul, Database.reported_smul, differences_smul, bound_smul]
  rfl

/-- A stored struct is judged as the renamed one is, and neither database changes. -/
theorem reconcile_found_renamed (hsound : db.Sound) (hsound' : db'.Sound)
    (hstate : d.state = .schemaParsed) {s : StoredStruct} (hs : db.findByName? d.name = some s)
    (hs' : db'.findByName? d.name = some (ρ • s)) :
    ∃ answer, value d.reconcile (⟨db, F⟩ : FaultyDatabase) = (answer, ⟨db, F⟩) ∧
      value (ρ • d).reconcile (⟨db', F⟩ : FaultyDatabase) = (ρ • answer, ⟨db', F⟩) := by
  have hstate' : (ρ • d).state = .schemaParsed := by
    rw [state_smul, hstate]
    rfl
  rw [value_reconcile_schemaParsed hstate, value_reconcile_schemaParsed hstate', name_smul]
  simp only [FaultyDatabase.findStruct?_eq, hs, hs', Option.map_some, StoredStruct.id_smul]
  rw [validate_renamed hsound hsound' hs hs']
  rcases (d.validate (⟨db, F⟩ : FaultyDatabase) s.id).value with ⟨e | report, d₁⟩
  · exact ⟨_, rfl, rfl⟩
  · simp only [Prod.smul_mk, Except.smul_ok, show ρ • report = report from rfl]
    by_cases hmatch : report.isMatch = true
    · exact ⟨_, if_pos hmatch, if_pos hmatch⟩
    · exact ⟨_, if_neg hmatch, if_neg hmatch⟩

theorem reconcile_renamed (h : Database.SameUnder ρ δ j j' d.name db db') (hsound : db.Sound)
    (hsound' : db'.Sound) (hspare : db.Spare (d.layout.members.length + 1))
    (hspare' : db'.Spare (d.layout.members.length + 1))
    {answer : Except SyncError Outcome × Descriptor}
    (hrun : value d.reconcile (⟨db, F⟩ : FaultyDatabase) = (answer, ⟨after, F⟩))
    (hmoves : Moves ρ δ db.nextId hi) (hhi : after.nextId ≤ hi) :
    ∃ after', value (ρ • d).reconcile (⟨db', F⟩ : FaultyDatabase) = (ρ • answer, ⟨after', F⟩) ∧
      Database.SameUnder ρ δ j j' d.name after after' := by
  by_cases hstate : d.state = .schemaParsed
  · have hlookup := h.lookup
    cases hname : db.findByName? d.name with
    | none =>
      rw [hname] at hlookup
      have hstate' : (ρ • d).state = .schemaParsed := by
        rw [state_smul, hstate]
        rfl
      rw [value_reconcile_schemaParsed hstate] at hrun
      rw [value_reconcile_schemaParsed hstate', name_smul]
      simp only [FaultyDatabase.findStruct?_eq, hname, Option.map_none] at hrun
      rw [FaultyDatabase.findStruct?_eq, hlookup]
      dsimp only [Option.smul_none, Option.map_none]
      rcases hcreate : value d.create (⟨db, F⟩ : FaultyDatabase) with ⟨⟨result, d₁⟩, g⟩
      rw [hcreate] at hrun
      cases hrun
      obtain ⟨after', hcreate', hsame⟩ :=
        create_renamed h hsound hsound' hspare hspare' hcreate hmoves hhi
      rw [hcreate']
      refine ⟨after', ?_, hsame⟩
      cases result <;> rfl
    | some s =>
      rw [hname] at hlookup
      obtain ⟨judged, hjudged, hjudged'⟩ :=
        reconcile_found_renamed (F := F) hsound hsound' hstate hname hlookup
      cases hjudged.symm.trans hrun
      exact ⟨db', hjudged', h⟩
  · unfold reconcile at hrun ⊢
    rw [state_smul]
    cases hs : d.state with
    | schemaParsed => exact absurd hs hstate
    | _ =>
      rw [hs] at hrun
      cases hrun
      exact ⟨db', rfl, h⟩

theorem AskedOf.freed (hasked : d.AskedOf db) (hsound : db.Sound) {id : StructId} {report : Report}
    (hstate : d.state = .awaitingConfirmation id report) {freed : Database}
    (hdb : db.deleteStruct id = .ok freed) : freed.findByName? d.name = none := by
  obtain ⟨s, hs⟩ := Option.isSome_iff_exists.1 (Database.deleteStruct_eq_ok.1 hdb).1
  have hfree := hsound.name_free_of_deleteStruct hs hdb
  rwa [hasked.name_eq hstate hs] at hfree

/-- A consent deletes the struct asked about in both databases or in neither, and creates anew what
was declared. -/
theorem resolve_yes_renamed (h : Database.SameUnder ρ δ j j' d.name db db') (hsound : db.Sound)
    (hsound' : db'.Sound) (hspare : db.Spare (d.layout.members.length + 1))
    (hspare' : db'.Spare (d.layout.members.length + 1)) (hasked : d.AskedOf db)
    (hasked' : (ρ • d).AskedOf db') {existing : StructId} {report : Report}
    (hstate : d.state = .awaitingConfirmation existing report)
    {answer : Except SyncError Outcome × Descriptor}
    (hrun : value (d.resolve .yes) (⟨db, F⟩ : FaultyDatabase) = (answer, ⟨after, F⟩))
    (hmoves : Moves ρ δ db.nextId hi) (hhi : after.nextId ≤ hi) :
    ∃ after', value ((ρ • d).resolve .yes) (⟨db', F⟩ : FaultyDatabase) =
        (ρ • answer, ⟨after', F⟩) ∧ Database.SameUnder ρ δ j j' d.name after after' := by
  have hstate' : (ρ • d).state = .awaitingConfirmation (ρ • existing) report := by
    rw [state_smul, hstate]
    rfl
  have hsame : FaultyDatabase.SameAt ρ δ j j' existing ⟨db, F⟩ ⟨db', F⟩ :=
    ⟨rfl, h.sameAt hsound hsound' (fun s hs => hasked.name_eq hstate hs)
      fun s hs => hasked'.name_eq hstate' hs⟩
  rw [value_resolve_yes hstate] at hrun
  rw [value_resolve_yes hstate']
  rcases hdelete : Host.deleteStruct existing (⟨db, F⟩ : FaultyDatabase) with ⟨deleted, g⟩
  obtain ⟨g', hdelete', hsame'⟩ := hsame.deleteStruct hdelete
  rw [hdelete] at hrun
  rw [hdelete']
  rcases deleted with e | _
  · cases hrun
    obtain ⟨hafter, -⟩ := deleteStruct_error hdelete
    obtain ⟨rfl, -⟩ := deleteStruct_error hdelete'
    obtain rfl : after = db := congrArg FaultyDatabase.db hafter
    exact ⟨db', rfl, h⟩
  · obtain ⟨-, freed, hdb, rfl⟩ := deleteStruct_ok hdelete
    obtain ⟨-, freed', hdb', rfl⟩ := deleteStruct_ok hdelete'
    have hnext : freed.nextId = db.nextId := by rw [(Database.deleteStruct_eq_ok.1 hdb).2]
    have hnext' : freed'.nextId = db'.nextId := by rw [(Database.deleteStruct_eq_ok.1 hdb').2]
    have hfreed : Database.SameUnder ρ δ j j' d.name freed freed' := by
      refine ⟨hsame'.db.next, ?_, hsame'.db.recorded⟩
      rw [hasked.freed hsound hstate hdb, ← @name_smul ρ d, hasked'.freed hsound' hstate' hdb']
      rfl
    dsimp only [Except.smul_ok] at hrun ⊢
    rcases hcreate : value { d with state := .schemaParsed }.create (⟨freed, F⟩ : FaultyDatabase)
      with ⟨⟨result, d₁⟩, g⟩
    rw [hcreate] at hrun
    cases hrun
    obtain ⟨after', hcreate', hunder⟩ :=
      create_renamed (d := { d with state := .schemaParsed }) hfreed (hsound.deleteStruct hdb)
        (hsound'.deleteStruct hdb') (hspare.of_next_eq hnext) (hspare'.of_next_eq hnext') hcreate
        (hnext ▸ hmoves) hhi
    refine ⟨after', ?_, hunder⟩
    rw [show ({ ρ • d with state := .schemaParsed } : Descriptor) =
      ρ • { d with state := .schemaParsed } from rfl, hcreate']
    cases result <;> rfl

theorem resolve_renamed (h : Database.SameUnder ρ δ j j' d.name db db') (hsound : db.Sound)
    (hsound' : db'.Sound) (hspare : db.Spare (d.layout.members.length + 1))
    (hspare' : db'.Spare (d.layout.members.length + 1)) (hasked : d.AskedOf db)
    (hasked' : (ρ • d).AskedOf db') {decision : Decision}
    {answer : Except SyncError Outcome × Descriptor}
    (hrun : value (d.resolve decision) (⟨db, F⟩ : FaultyDatabase) = (answer, ⟨after, F⟩))
    (hmoves : Moves ρ δ db.nextId hi) (hhi : after.nextId ≤ hi) :
    ∃ after', value ((ρ • d).resolve decision) (⟨db', F⟩ : FaultyDatabase) =
        (ρ • answer, ⟨after', F⟩) ∧ Database.SameUnder ρ δ j j' d.name after after' := by
  cases hstate : d.state with
  | awaitingConfirmation existing report =>
    cases decision with
    | yes =>
      exact resolve_yes_renamed h hsound hsound' hspare hspare' hasked hasked' hstate hrun hmoves hhi
    | _ =>
      unfold resolve at hrun ⊢
      rw [state_smul, hstate]
      rw [hstate] at hrun
      cases hrun
      exact ⟨db', rfl, h⟩
  | _ =>
    unfold resolve at hrun ⊢
    rw [state_smul, hstate]
    rw [hstate] at hrun
    cases hrun
    exact ⟨db', rfl, h⟩

/-- A call on a renamed descriptor, with a database that has the same under the name, goes as the
call on the descriptor itself goes, but for a renaming of ids. -/
theorem Call.run_renamed (c : Call) (h : Database.SameUnder ρ δ j j' d.name db db')
    (hdb : db.Reachable) (hdb' : db'.Reachable) (hspare : db.Spare (d.layout.members.length + 1))
    (hspare' : db'.Spare (d.layout.members.length + 1)) (hasked : d.AskedOf db)
    (hasked' : (ρ • d).AskedOf db') {answer : Except SyncError Outcome × Descriptor}
    (hrun : c.run d (⟨db, F⟩ : FaultyDatabase) = (answer, ⟨after, F⟩))
    (hmoves : Moves ρ δ db.nextId after.nextId) :
    ∃ after', c.run (ρ • d) (⟨db', F⟩ : FaultyDatabase) = (ρ • answer, ⟨after', F⟩) ∧
      Database.SameUnder ρ δ j j' d.name after after' := by
  cases c with
  | reconcile =>
    exact reconcile_renamed h hdb.sound hdb'.sound hspare hspare' hrun hmoves (UInt64.le_refl _)
  | resolve decision =>
    exact resolve_renamed h hdb.sound hdb'.sound hspare hspare' hasked hasked' hrun hmoves
      (UInt64.le_refl _)
  | materialize confirm =>
    rw [run_materialize] at hrun ⊢
    rcases hr : value d.reconcile (⟨db, F⟩ : FaultyDatabase) with
      ⟨⟨e | (id | id | ⟨old, new⟩ | report), d₁⟩, g⟩ <;> rw [hr] at hrun
    case ok.needsConfirmation =>
      -- a question changes neither database, so the answer meets what the question met
      have hasks : Call.reconcile.run d (⟨db, F⟩ : FaultyDatabase) = _ := hr
      have halike := reconcile_alike d (⟨db, F⟩ : FaultyDatabase)
      obtain ⟨-, -, -, -, -, -, hsame⟩ := run_needsConfirmation (congrArg (·.1.1) hasks)
      rw [hasks] at hsame
      obtain rfl : g = ⟨db, F⟩ := hsame
      rw [hr] at halike
      obtain ⟨after', hr', h'⟩ := reconcile_renamed h hdb.sound hdb'.sound hspare hspare' hr
        (fun x hle hlt => absurd hle (UInt64.not_le.2 hlt) : Moves ρ δ db.nextId db.nextId)
        (UInt64.le_refl _)
      have hasks' : Call.reconcile.run (ρ • d) (⟨db', F⟩ : FaultyDatabase) = _ := hr'
      obtain ⟨-, -, -, -, -, -, hsame'⟩ := run_needsConfirmation (congrArg (·.1.1) hasks')
      rw [hasks'] at hsame'
      obtain rfl : after' = db' := congrArg FaultyDatabase.db hsame'
      rw [hr']
      rw [← halike.1] at h' ⊢
      rw [← halike.2] at hspare hspare'
      exact resolve_renamed h' hdb.sound hdb'.sound hspare hspare' (AskedOf.of_asks hdb hasks)
        (AskedOf.of_asks hdb' hasks') hrun hmoves (UInt64.le_refl _)
    all_goals
      cases hrun
      obtain ⟨after', hr', h'⟩ :=
        reconcile_renamed h hdb.sound hdb'.sound hspare hspare' hr hmoves (UInt64.le_refl _)
      rw [hr']
      exact ⟨after', rfl, h'⟩

end Descriptor

end StructSync
