import Mathlib
import StructSync.Proofs.Declared

/-!
# What a failed call leaves behind

Whatever a faulty database fails at, a call that ends in an error has changed next to nothing. Main
statement (`Descriptor.Call.failed_undone`): if structs can be deleted, the stored structs are those
from before the call, without the one that the call was allowed to replace. If they cannot, all
structs are still there, and the only other one can be the partial struct of the descriptor. If the
struct was begun, the error names the first member that fails.
-/

namespace StructSync

open Work

namespace Descriptor

/-- What a failed call that may replace a struct leaves of a database. -/
structure Undone (d : Descriptor) (db : Database) (F : Faults) (replaced : Option StructId)
    (e : SyncError) (d' : Descriptor) (after : FaultyDatabase) : Prop where
  faults : after.faults = F
  gone : F.delete = false →
    after.db.structs = replaced.elim db.structs (db.structs.erase ·.value)
  left : F.delete = true → after.db.structs = db.structs ∨
    ∃ part, part.name = d.name ∧ db.get? part.id = none ∧
      after.db.structs = db.structs.insert part.id.value part
  journal : ∃ calls, after.db.journal = db.journal ++ calls ∧
    (.createStruct d.name ∈ calls → ∃ m source, d.layout.members.find? F.fails = some m ∧
      e = .refusedMember m.path source ∧ d'.state = .schemaParsed ∧ d'.bindings = [])

variable {db : Database} {F : Faults} {d d' : Descriptor} {e : SyncError} {after : FaultyDatabase}

theorem Undone.refl (d d' : Descriptor) (e : SyncError) : Undone d db F none e d' ⟨db, F⟩ :=
  ⟨rfl, fun _ => rfl, fun _ => .inl rfl, [], by simp⟩

theorem Undone.alike {c : Descriptor} {replaced : Option StructId} (hcd : Call.Alike c d)
    (h : Undone c db F replaced e d' after) : Undone d db F replaced e d' after := by
  refine ⟨h.faults, h.gone, hcd.1 ▸ h.left, ?_⟩
  rw [← hcd.1, ← hcd.2]
  exact h.journal

theorem create_error (h : db.Sound) (hspare : db.Spare (d.layout.members.length + 1))
    (hstate : d.state = .schemaParsed)
    (hcreate : value d.create (⟨db, F⟩ : FaultyDatabase) = ((.error e, d'), after)) :
    Undone d db F none e d' after := by
  cases hname : db.findByName? d.name with
  | some taken =>
    rw [create_taken hname] at hcreate
    cases hcreate
    exact .refl d d _
  | none =>
    cases hF : d.layout.members.find? F.fails with
    | none =>
      have hnone : ∀ m ∈ d.layout.members, F.fails m = false := by simpa using hF
      obtain ⟨bindings, after', t, hvalue, -, -⟩ := create_complete h hspare hname hnone
      rw [hvalue] at hcreate
      cases hcreate
    | some m =>
      obtain ⟨source, after', hvalue, ⟨calls, hcalls⟩, hgone, hleft⟩ :=
        create_undone h hspare hname hF
      rw [hvalue] at hcreate
      cases hcreate
      refine ⟨rfl, hgone, fun hdelete => .inr ?_, calls, hcalls.symm, fun _ =>
        ⟨m, source, hF, rfl, hstate, rfl⟩⟩
      obtain ⟨t, htname, htid, hstructs⟩ := hleft hdelete
      exact ⟨t, htname, by rw [htid]; exact h.get?_next, by rw [htid]; exact hstructs⟩

theorem reconcile_error (h : db.Sound) (hspare : db.Spare (d.layout.members.length + 1))
    (hr : value d.reconcile (⟨db, F⟩ : FaultyDatabase) = ((.error e, d'), after)) :
    Undone d db F none e d' after := by
  have hcases := reconciliation d (⟨db, F⟩ : FaultyDatabase)
  rw [hr] at hcases
  generalize hresult : ((Except.error e, d'), after) = r at hcases
  cases hcases with
  | creates result d'' after' hstate hfind hcreate =>
    cases result with
    | ok id => cases hresult
    | error e' =>
      cases hresult
      exact create_error h hspare hstate hcreate
  | outOfTurn e' hstate =>
    cases hresult
    exact .refl d d _
  | unreadable e' existing hstate hfind =>
    cases hresult
    exact .refl d d _
  | accepts => cases hresult
  | asks => cases hresult

/-- A deletion that fails leaves the database as it is: no struct has the id, or none can be
deleted. -/
theorem deleteStruct_error {id : StructId} {e : HostError}
    (hdelete : Host.deleteStruct id (⟨db, F⟩ : FaultyDatabase) = (.error e, after)) :
    after = ⟨db, F⟩ ∧ (F.delete = false → db.get? id = none) := by
  cases hF : F.delete with
  | true =>
    rw [FaultyDatabase.deleteStruct_of_fault hF] at hdelete
    cases hdelete
    exact ⟨rfl, nofun⟩
  | false =>
    cases hdb : db.deleteStruct id with
    | ok freed =>
      rw [FaultyDatabase.deleteStruct_eq_ok hF hdb] at hdelete
      cases hdelete
    | error e' =>
      rw [FaultyDatabase.deleteStruct_eq_error hF hdb] at hdelete
      cases hdelete
      exact ⟨rfl, fun _ => (Database.deleteStruct_eq_error hdb).1⟩

theorem deleteStruct_ok {id : StructId}
    (hdelete : Host.deleteStruct id (⟨db, F⟩ : FaultyDatabase) = (.ok (), after)) :
    F.delete = false ∧ ∃ freed, db.deleteStruct id = .ok freed ∧ after = ⟨freed, F⟩ := by
  cases hF : F.delete with
  | true =>
    rw [FaultyDatabase.deleteStruct_of_fault hF] at hdelete
    cases hdelete
  | false =>
    cases hdb : db.deleteStruct id with
    | ok freed =>
      rw [FaultyDatabase.deleteStruct_eq_ok hF hdb] at hdelete
      cases hdelete
      exact ⟨rfl, freed, rfl, rfl⟩
    | error e =>
      rw [FaultyDatabase.deleteStruct_eq_error hF hdb] at hdelete
      cases hdelete

theorem resolve_error (h : db.Sound) (hspare : db.Spare (d.layout.members.length + 1))
    {decision : Decision}
    (hr : value (d.resolve decision) (⟨db, F⟩ : FaultyDatabase) = ((.error e, d'), after)) :
    Undone d db F (if decision = .yes then d.awaited? else none) e d' after := by
  have hcases := resolution decision d (⟨db, F⟩ : FaultyDatabase)
  rw [hr] at hcases
  generalize hresult : ((Except.error e, d'), after) = r at hcases
  cases hcases with
  | notAsked hstate =>
    have hawaited : d.awaited? = none := by
      unfold awaited?
      split
      · exact absurd ‹_› (hstate _ _)
      · rfl
    cases hresult
    rw [hawaited, ite_self]
    exact .refl d d _
  | stopped e' existing report hstate hdecision =>
    cases hresult
    rw [if_neg hdecision]
    exact .refl d _ _
  | kept e' existing report after' hstate hdecision hdelete =>
    have hawaited : d.awaited? = some existing := by rw [awaited?, hstate]
    obtain ⟨rfl, habsent⟩ := deleteStruct_error hdelete
    cases hresult
    rw [if_pos hdecision, hawaited]
    refine ⟨rfl, fun hF => ?_, fun _ => .inl rfl, [], by simp⟩
    exact (WordMap.erase_eq_self (habsent hF)).symm
  | replaces existing report freed result d'' after' hstate hdecision hdelete hcreate =>
    have hawaited : d.awaited? = some existing := by rw [awaited?, hstate]
    obtain ⟨hF, freed, hdb, rfl⟩ := deleteStruct_ok hdelete
    cases result with
    | ok id => cases hresult
    | error e' =>
      cases hresult
      have hsound := h.deleteStruct hdb
      obtain ⟨-, rfl⟩ := Database.deleteStruct_eq_ok.1 hdb
      have hundone :=
        create_error (d := { d with state := .schemaParsed }) hsound hspare rfl hcreate
      obtain ⟨calls, hcalls, hnamed⟩ := hundone.journal
      rw [if_pos hdecision, hawaited]
      refine ⟨hundone.faults, fun _ => hundone.gone hF, fun hno => by simp [hF] at hno,
        .deleteStruct existing :: calls, by simpa using hcalls, fun hmem => hnamed ?_⟩
      simpa using hmem

theorem Call.run_error (h : db.Sound) (hspare : db.Spare (d.layout.members.length + 1)) (c : Call)
    (hrun : c.run d (⟨db, F⟩ : FaultyDatabase) = ((.error e, d'), after)) :
    Undone d db F (c.replaced? (⟨db, F⟩ : FaultyDatabase) d) e d' after := by
  cases c with
  | reconcile => exact reconcile_error h hspare hrun
  | resolve decision => exact resolve_error h hspare hrun
  | materialize confirm =>
    rcases run_materialize_cases confirm d (⟨db, F⟩ : FaultyDatabase) with
      hsame | ⟨report, asked, hasks, hsame⟩
    · have hr : value d.reconcile (⟨db, F⟩ : FaultyDatabase) = ((.error e, d'), after) :=
        hsame.symm.trans hrun
      rw [Call.replaced?, hr]
      exact reconcile_error h hspare hr
    · have hr : value d.reconcile (⟨db, F⟩ : FaultyDatabase) =
          ((.ok (.needsConfirmation report), asked), ⟨db, F⟩) := hasks
      have halike := reconcile_alike d (⟨db, F⟩ : FaultyDatabase)
      rw [hr] at halike
      rw [Call.replaced?, hr]
      exact (resolve_error h (by rw [halike.2]; exact hspare) (hsame.symm.trans hrun)).alike halike

/-- A call that ends in an error has left everything as it was, or without the struct it may replace
if structs can be deleted. If none can, all are still there, and the only other one is the partial
struct of the descriptor. If the struct was begun the error names the first member that fails, and
the descriptor has no ids and can be reconciled again. -/
theorem Call.failed_undone (hdb : db.Reachable) (hspare : db.Spare (d.layout.members.length + 1))
    (c : Call) (hrun : c.run d (⟨db, F⟩ : FaultyDatabase) = ((.error e, d'), after)) :
    after.faults = F ∧
    (F.delete = false → after.db.structs =
      (c.replaced? (⟨db, F⟩ : FaultyDatabase) d).elim db.structs (db.structs.erase ·.value)) ∧
    (F.delete = true → after.db.structs = db.structs ∨
      ∃ part, part.name = d.name ∧ db.get? part.id = none ∧
        after.db.structs = db.structs.insert part.id.value part) ∧
    ∃ calls, after.db.journal = db.journal ++ calls ∧
      (.createStruct d.name ∈ calls → ∃ m source, d.layout.members.find? F.fails = some m ∧
        e = .refusedMember m.path source ∧ d'.state = .schemaParsed ∧ d'.bindings = []) := by
  have h := c.run_error hdb.sound hspare hrun
  exact ⟨h.faults, h.gone, h.left, h.journal⟩

/-- A pair of integers that is to replace a struct without members, when its first member cannot be
created: the old struct is gone, and the error names the member. -/
theorem Call.pair_failed_undone :
    let db : Database := Request.perform (.createStruct "pair") (Database.empty 8)
    let F : Faults := { member := (· == "first"), type := fun _ => false, delete := false }
    let result := (materialize (.fixed .yes)).run pair (⟨db, F⟩ : FaultyDatabase)
    result.1.1 = .error (.refusedMember "pair.first" (.memberRejected "first" .refused)) ∧
      result.2.db.structs = db.structs.erase Database.firstId := by
  intro db F result
  have herror : result.1.1 =
      .error (.refusedMember "pair.first" (.memberRejected "first" .refused)) := by decide
  have hdb : db.Reachable :=
    .perform (.createStruct "pair") (.empty 8) (by unfold Database.Spare; decide)
  have hundone := failed_undone (F := F) (d := pair) hdb (by unfold Database.Spare; decide)
    (materialize (.fixed .yes)) (Prod.ext (Prod.ext herror rfl) rfl : result = ((_, _), _))
  exact ⟨herror, hundone.2.1 rfl⟩

end Descriptor

end StructSync
