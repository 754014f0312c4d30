import Mathlib
import StructSync.Proofs.Creation

/-!
# Databases that fail

A database that fails at some requests is a guarded database (`FaultyDatabase.morphism_guarded`), so
a creation in it goes as far as in one. Main statements: if no member fails the struct is stored as
declared (`create_complete`); if one does the error names the first, and the partial struct is gone,
or is the only thing left if deleting fails too (`create_undone`).
-/

namespace StructSync

open Work

/-- The errors that a failing database answers with. -/
def Faults.fault? (F : Faults) : Request → Option HostError
  | .createStruct _ => .none
  | .deleteStruct id => if F.delete then some (.unknownStruct id) else .none
  | .createMember _ name _ _ _ =>
    if F.member name then some (.memberRejected name .refused) else .none
  | .setMemberType _ member _ type =>
    if F.type type.name then some (.typeRejected member type.name .refused) else .none

theorem Faults.fault?_injective : Function.Injective Faults.fault? := by
  intro F G h
  have hmember : F.member = G.member := funext fun name => by
    have := congrFun h (.createMember ⟨0⟩ name 0 0 ⟨0⟩)
    cases hF : F.member name <;> cases hG : G.member name <;> simp [fault?, hF, hG] at this ⊢
  have htype : F.type = G.type := funext fun name => by
    have := congrFun h (.setMemberType ⟨0⟩ ⟨0⟩ 0 ⟨0, name, .integer⟩)
    cases hF : F.type name <;> cases hG : G.type name <;> simp [fault?, hF, hG] at this ⊢
  have hdelete : F.delete = G.delete := by
    have := congrFun h (.deleteStruct ⟨0⟩)
    cases hF : F.delete <;> cases hG : G.delete <;> simp [fault?, hF, hG] at this ⊢
  cases F
  cases G
  simp_all

namespace FaultyDatabase

/-- The database behind a guard that answers what fails. -/
def guarded (f : FaultyDatabase) : Guarded Database := ⟨f.db, f.faults.fault?⟩

theorem pass_ite {α : Type} {request : Request} {change : Database → Except HostError α × Database}
    {f : FaultyDatabase} {fails : Bool} {e : HostError}
    (h : f.faults.fault? request = if fails then some e else none) :
    Guarded.pass request change f.guarded = Host.carry guarded
      (if fails then (.error e, f) else Host.carry (⟨·, f.faults⟩) (change f.db)) := by
  cases fails with
  | true => exact Guarded.pass_of_fault h
  | false => exact Guarded.pass_of_none h rfl

theorem morphism_guarded : Host.Morphism guarded where
  findStruct _ _ := rfl
  structSize _ _ := rfl
  members _ _ := rfl
  createStruct _ _ := rfl
  deleteStruct _ _ := pass_ite rfl
  createMember _ _ _ _ _ _ := pass_ite rfl
  setMemberType _ _ _ _ _ := pass_ite rfl

variable {db db' : Database} {F : Faults} {id : StructId}

theorem carry_guarded_inj {α : Type} {x y : α × FaultyDatabase}
    (h : Host.carry guarded x = Host.carry guarded y) : x = y := by
  obtain ⟨hanswer, hguarded⟩ := Prod.mk.inj h
  obtain ⟨hdb, hfault⟩ := Guarded.mk.inj hguarded
  have hfaults : x.2.faults = y.2.faults := Faults.fault?_injective hfault
  refine Prod.ext hanswer ?_
  cases hx : x.2
  cases hy : y.2
  simp_all

theorem createStruct_eq_ok {name : String} (hdb : db.createStruct name = .ok (id, db')) :
    Host.createStruct name (⟨db, F⟩ : FaultyDatabase) = (.ok id, ⟨db', F⟩) := by
  show Host.carry _ (db.settle (db.createStruct name)) = _
  rw [hdb]
  rfl

theorem createStruct_eq_error {name : String} {e : HostError}
    (hdb : db.createStruct name = .error e) :
    Host.createStruct name (⟨db, F⟩ : FaultyDatabase) = (.error e, ⟨db, F⟩) := by
  show Host.carry _ (db.settle (db.createStruct name)) = _
  rw [hdb]
  rfl

theorem deleteStruct_of_fault (hF : F.delete = true) :
    Host.deleteStruct id (⟨db, F⟩ : FaultyDatabase) = (.error (.unknownStruct id), ⟨db, F⟩) :=
  if_pos hF

theorem deleteStruct_passed (hF : F.delete = false) :
    Host.deleteStruct id (⟨db, F⟩ : FaultyDatabase) =
      Host.carry (⟨·, F⟩) (db.settle ((db.deleteStruct id).map ((), ·))) :=
  if_neg (by simp [hF])

theorem deleteStruct_eq_ok (hF : F.delete = false) (hdb : db.deleteStruct id = .ok db') :
    Host.deleteStruct id (⟨db, F⟩ : FaultyDatabase) = (.ok (), ⟨db', F⟩) := by
  rw [deleteStruct_passed hF, hdb]
  rfl

theorem deleteStruct_eq_error {e : HostError} (hF : F.delete = false)
    (hdb : db.deleteStruct id = .error e) :
    Host.deleteStruct id (⟨db, F⟩ : FaultyDatabase) = (.error e, ⟨db, F⟩) := by
  rw [deleteStruct_passed hF, hdb]
  rfl

@[simp] theorem findStruct?_eq (name : String) :
    Host.findStruct? (⟨db, F⟩ : FaultyDatabase) name = (db.findByName? name).map (·.id) := rfl

@[simp] theorem structSize_eq : Host.structSize (⟨db, F⟩ : FaultyDatabase) id = db.structSize id :=
  rfl

@[simp] theorem members_eq : Host.members (⟨db, F⟩ : FaultyDatabase) id = db.members id := rfl

end FaultyDatabase

/-! ### Creating a struct -/

/-- Does the member fail, at its creation or at its type? -/
def Faults.fails (F : Faults) (m : Member) : Bool := F.member m.name || F.type m.type.type.name

theorem Member.refused_faults (F : Faults) (id : StructId) (m : Member) (member : MemberId) :
    m.refused F.fault? id member = F.fails m := by
  cases hmember : F.member m.name <;> cases htype : F.type m.type.type.name <;>
    simp [refused, requests, Faults.fault?, Faults.fails, hmember, htype]

/-- The first member that fails is the first that is refused, whatever ids the members get. -/
theorem find?_refused_faults {F : Faults} {members : List Member} {failing : Member}
    (hF : members.find? F.fails = some failing) (id : StructId) (next : UInt64) :
    ∃ member, (numbered next members).find? (fun x => x.1.refused F.fault? id x.2) =
      some (failing, member) := by
  have hnumbered : ((numbered next members).map Prod.fst).find? F.fails = some failing := by
    rw [map_fst_numbered]
    exact hF
  rw [List.find?_map] at hnumbered
  obtain ⟨⟨m, member⟩, hfind, rfl⟩ := Option.map_eq_some_iff.1 hnumbered
  refine ⟨member, ?_⟩
  simp only [Member.refused_faults]
  exact hfind

theorem createMembers_failed {db : Database} {F : Faults} {id : StructId} {s : StoredStruct}
    {members : List Member} (h : db.Sound) (hspare : db.Spare members.length)
    (hs : db.get? id = some s) (hroom : ∀ m ∈ members, s.HasRoom m.name m.offset m.size)
    (hapart : members.Pairwise Member.Apart) {failing : Member}
    (hF : members.find? F.fails = some failing) :
    ∃ source after t, value (createMembers id members) (⟨db, F⟩ : FaultyDatabase) =
        (.error (failing, .refusedMember failing.path source), ⟨after, F⟩) ∧
      db.Grown id s members.length after t := by
  obtain ⟨member, hrefused⟩ := find?_refused_faults hF id db.nextId
  obtain ⟨-, -, -, source, after, t, -, -, -, -, hvalue, hgrown, -⟩ :=
    createMembers_refused h hspare hs hroom hapart hrefused
  refine ⟨source, after, t, FaultyDatabase.carry_guarded_inj ?_, hgrown⟩
  rw [← FaultyDatabase.morphism_guarded.createMembers]
  exact hvalue

theorem StoredMember.offset_content (m : StoredMember) : m.content.2.1 = m.offset := rfl

theorem Member.offset_content (m : Member) : m.content.2.1 = m.offset := rfl

namespace Descriptor

variable {db : Database} {F : Faults} {d : Descriptor}

theorem create_taken {s : StoredStruct} (htaken : db.findByName? d.name = some s) :
    value d.create (⟨db, F⟩ : FaultyDatabase) =
      ((.error (.host (.nameCollision d.name)), d), ⟨db, F⟩) := by
  have hdb : db.createStruct d.name = .error (.nameCollision d.name) := by
    rw [Database.createStruct, htaken]
    rfl
  rw [value_create, FaultyDatabase.createStruct_eq_error hdb]

/-- If no member fails the struct is stored as declared. -/
theorem create_complete (h : db.Sound) (hspare : db.Spare (d.layout.members.length + 1))
    (hfree : db.findByName? d.name = none) (hF : ∀ m ∈ d.layout.members, F.fails m = false) :
    ∃ bindings after t, value d.create (⟨db, F⟩ : FaultyDatabase) =
        ((.ok ⟨db.nextId⟩, { d with bindings, state := .materialized ⟨db.nextId⟩ }), ⟨after, F⟩) ∧
      db.Grown ⟨db.nextId⟩ (d.blank db) (d.layout.members.length + 1) after t ∧
      t.members.map StoredMember.content = d.layout.byOffset.map Member.content := by
  have hpass : ∀ r ∈ d.creationRequests db.nextId, F.fault? r = none := by
    refine List.forall_mem_cons.2 ⟨rfl, forall_memberRequests.2 fun x hx => ?_⟩
    rw [Member.refused_faults]
    refine hF x.1 ?_
    rw [← map_fst_numbered (db.nextId + 1) d.layout.members]
    exact List.mem_map_of_mem hx
  obtain ⟨after, t, hvalue, hgrown, hperm, -⟩ := create_passed h hspare hfree hpass
  refine ⟨(numbered (db.nextId + 1) d.layout.members).map fun x => (x.1.name, x.2), after, t,
    FaultyDatabase.carry_guarded_inj ?_, hgrown, ?_⟩
  · rw [← FaultyDatabase.morphism_guarded.create]
    exact hvalue
  · have hsound : t.Sound := hgrown.sound.members hgrown.get?
    have hperm' : (t.members.map StoredMember.content).Perm
        (d.layout.members.map Member.content) := by
      have hmap := hperm.map StoredMember.content
      rw [List.map_map] at hmap
      rw [← map_fst_numbered (db.nextId + 1) d.layout.members, List.map_map]
      exact hmap
    exact hsound.eq_map_byOffset (fun c => c.2.1.toNat)
      (fun m => by rw [m.offset_content]) (fun m => by rw [m.offset_content]) hperm'

/-- If a member fails the error names the first that does, and the partial struct is deleted,
unless deleting fails. -/
theorem create_undone (h : db.Sound) (hspare : db.Spare (d.layout.members.length + 1))
    (hfree : db.findByName? d.name = none) {failing : Member}
    (hF : d.layout.members.find? F.fails = some failing) :
    ∃ source after, value d.create (⟨db, F⟩ : FaultyDatabase) =
        ((.error (.refusedMember failing.path source), { d with bindings := [] }), ⟨after, F⟩) ∧
      db.journal <+: after.journal ∧ (F.delete = false → after.structs = db.structs) ∧
      (F.delete = true → ∃ t, t.name = d.name ∧ t.id = ⟨db.nextId⟩ ∧
        after.structs = db.structs.insert db.nextId t) := by
  obtain ⟨member, hrefused⟩ := find?_refused_faults hF ⟨db.nextId⟩ (db.nextId + 1)
  obtain ⟨before, -, -, source, after, t, -, -, -, -, hvalue, hjournal, htid, htname, hstructs⟩ :=
    create_refused h hspare hfree rfl hrefused
  refine ⟨source, after, FaultyDatabase.carry_guarded_inj ?_, ?_, fun hF => ?_, fun hF => ?_⟩
  · rw [← FaultyDatabase.morphism_guarded.create]
    exact hvalue
  · rw [hjournal, List.append_assoc]
    exact List.prefix_append _ _
  · rw [hstructs, if_pos (by simp [Faults.fault?, hF])]
  · refine ⟨t, htname, htid, ?_⟩
    rw [hstructs, if_neg (by simp [Faults.fault?, hF])]

theorem create_stored (h : db.Sound) (hspare : db.Spare (d.layout.members.length + 1))
    (hfree : db.findByName? d.name = none) :
    ∃ bindings after t, value d.create db =
        ((.ok ⟨db.nextId⟩, { d with bindings, state := .materialized ⟨db.nextId⟩ }), after) ∧
      db.Grown ⟨db.nextId⟩ (d.blank db) (d.layout.members.length + 1) after t ∧
      t.members.map StoredMember.content = d.layout.byOffset.map Member.content := by
  obtain ⟨bindings, after, t, hvalue, hgrown, hcontent⟩ :=
    create_complete (F := .none) h hspare hfree fun _ _ => rfl
  refine ⟨bindings, after, t, FaultyDatabase.carry_ofDatabase_inj ?_, hgrown, hcontent⟩
  rw [← FaultyDatabase.morphism_ofDatabase.create]
  exact hvalue

end Descriptor

end StructSync
