import Mathlib
import StructSync.Proofs.Exchange
import StructSync.Proofs.Renaming
import StructSync.Proofs.Untouched

/-!
# The same requests to two databases

Two databases may have the same under one id but for a renaming of ids (`Database.SameAt`), whatever
else they hold, and their counters may be apart. As long as the renaming moves the ids that the one
gives out to those that the other gives out, requests about that id get the same answers and leave
the same under it. Main statement (`FaultyDatabase.SameAt.createMembers`): so do all members of a
struct, also when one of them fails.
-/

namespace StructSync

open Equiv (Perm)
open Work

/-- Behind two journals the same calls were recorded, but for a renaming of ids. -/
def Recorded (ρ : Perm UInt64) (j j' l l' : List HostCall) : Prop :=
  ∃ calls, l = j ++ calls ∧ l' = j' ++ calls.map (ρ • ·)

theorem Recorded.concat {ρ : Perm UInt64} {j j' l l' : List HostCall} (h : Recorded ρ j j' l l')
    (call : HostCall) : Recorded ρ j j' (l ++ [call]) (l' ++ [ρ • call]) := by
  obtain ⟨calls, rfl, rfl⟩ := h
  exact ⟨calls ++ [call], List.append_assoc .., by rw [List.append_assoc, List.map_append]; rfl⟩

namespace Database

variable {ρ : Perm UInt64} {δ hi : UInt64} {j j' : List HostCall} {id : StructId}
  {db db' : Database}

/-- Two databases that have the same under one id but for a renaming of ids, and have recorded the
same behind two journals. -/
structure SameAt (ρ : Perm UInt64) (δ : UInt64) (j j' : List HostCall) (id : StructId)
    (db db' : Database) : Prop where
  next : db'.nextId = db.nextId + δ
  get? : db'.get? (ρ • id) = ρ • db.get? id
  recorded : Recorded ρ j j' db.journal db'.journal

theorem next_of_moves (hmoves : Moves ρ δ db.nextId hi) (hnext : db'.nextId = db.nextId + δ)
    (hspare : db.Spare 1) (hhi : db.nextId + 1 ≤ hi) : db'.nextId = ρ db.nextId := by
  rw [hnext, hmoves _ (UInt64.le_refl _)]
  refine UInt64.lt_of_lt_of_le (UInt64.lt_iff_toNat_lt.2 ?_) hhi
  rw [hspare.toNat_next]
  exact Nat.lt_succ_self _

theorem next_succ (hnext : db'.nextId = db.nextId + δ) :
    db'.nextId + 1 = db.nextId + 1 + δ := by
  rw [hnext]
  ac_rfl

namespace SameAt

theorem insert_get? {s s' : StoredStruct} (hs : s' = ρ • s) :
    (db'.structs.insert (ρ • id).value s').get? (ρ • id).value =
      ρ • (db.structs.insert id.value s).get? id.value := by
  rw [WordMap.get?_insert_self, WordMap.get?_insert_self, hs]
  rfl

theorem createMember (h : SameAt ρ δ j j' id db db') (name : String) (offset size : UInt64)
    (flags : DataFlags) (hspare : db.Spare 1) (hmoves : Moves ρ δ db.nextId hi)
    (hhi : (Host.createMember id name offset size flags db).2.nextId ≤ hi) :
    (Host.createMember (ρ • id) name offset size flags db').1 =
        ρ • (Host.createMember id name offset size flags db).1 ∧
      SameAt ρ δ j j' id (Host.createMember id name offset size flags db).2
        (Host.createMember (ρ • id) name offset size flags db').2 := by
  change (db.settle (db.createMember id name offset size flags)).2.nextId ≤ hi at hhi
  show (db'.settle (db'.createMember (ρ • id) name offset size flags)).1 =
      ρ • (db.settle (db.createMember id name offset size flags)).1 ∧
    SameAt ρ δ j j' id (db.settle (db.createMember id name offset size flags)).2
      (db'.settle (db'.createMember (ρ • id) name offset size flags)).2
  unfold Database.createMember Database.get at *
  -- every check comes out the same, and only behind the last one an id is given out
  by_cases hsize : size = 0
  · simp only [if_pos hsize]
    exact ⟨rfl, h⟩
  simp only [if_neg hsize] at hhi ⊢
  cases hstop : addWord? offset size with
  | none => exact ⟨rfl, h⟩
  | some stop =>
    rw [hstop] at hhi
    rw [h.get?]
    cases hs : db.get? id with
    | none => exact ⟨rfl, h⟩
    | some s =>
      rw [hs] at hhi
      rw [Option.smul_some]
      simp only [bind, Except.bind] at hhi ⊢
      have hnames : (ρ • s).members.any (·.name == name) = s.members.any (·.name == name) :=
        List.any_map ..
      have hoverlap : ((ρ • s).members.find? fun m => offset < m.stop && m.offset < stop) =
          (s.members.find? fun m => offset < m.stop && m.offset < stop).map (ρ • ·) :=
        List.find?_map ..
      rw [hnames, hoverlap]
      by_cases hname : s.members.any (·.name == name) = true
      · simp only [if_pos hname]
        exact ⟨rfl, h⟩
      simp only [if_neg hname] at hhi ⊢
      cases hfind : s.members.find? fun m => offset < m.stop && m.offset < stop with
      | some other => exact ⟨rfl, h⟩
      | none =>
        rw [hfind] at hhi
        have hnext := next_of_moves hmoves h.next hspare hhi
        let m : StoredMember :=
          { id := ⟨db.nextId⟩, name, offset, size, flags, typeName := none }
        have hm : ρ • m = { id := ⟨db'.nextId⟩, name, offset, size, flags, typeName := none } :=
          congrArg (fun v => StoredMember.mk ⟨v⟩ name offset size flags none) hnext.symm
        have hput : StoredStruct.mk (ρ • s.id) s.name (insertMember (ρ • m) (ρ • s).members) =
            ρ • { s with members := insertMember m s.members } :=
          congrArg (StoredStruct.mk _ _) (insertMember_map (ρ • ·) (fun _ => rfl) m s.members)
        rw [hm] at hput
        exact ⟨congrArg (fun v => Except.ok (MemberId.mk v)) hnext, next_succ h.next,
          insert_get? hput, h.recorded.concat (.createMember id name offset size)⟩

theorem setMemberType (h : SameAt ρ δ j j' id db db') (member : MemberId) (offset : UInt64)
    (type : CType) :
    (Host.setMemberType (ρ • id) (ρ • member) offset type db').1 =
        ρ • (Host.setMemberType id member offset type db).1 ∧
      SameAt ρ δ j j' id (Host.setMemberType id member offset type db).2
        (Host.setMemberType (ρ • id) (ρ • member) offset type db').2 := by
  show (db'.settle ((db'.setMemberType (ρ • id) (ρ • member) offset type).map ((), ·))).1 =
      ρ • (db.settle ((db.setMemberType id member offset type).map ((), ·))).1 ∧
    SameAt ρ δ j j' id (db.settle ((db.setMemberType id member offset type).map ((), ·))).2
      (db'.settle ((db'.setMemberType (ρ • id) (ρ • member) offset type).map ((), ·))).2
  unfold Database.setMemberType Database.get
  rw [h.get?]
  cases hs : db.get? id with
  | none => exact ⟨rfl, h⟩
  | some s =>
    rw [Option.smul_some]
    simp only [bind, Except.bind]
    rw [StoredStruct.members_smul, find?_smul]
    cases hm : s.members.find? (·.id == member) with
    | none => exact ⟨rfl, h⟩
    | some m =>
      rw [Option.smul_some]
      dsimp only
      rw [show (ρ • m).offset = m.offset from rfl, show (ρ • m).size = m.size from rfl]
      by_cases hoffset : m.offset = offset
      · by_cases hsize : m.size = type.size
        · simp only [hoffset, hsize, ne_eq, not_true_eq_false, ↓reduceIte]
          have hput : StoredStruct.mk (ρ • s.id) s.name
              (putTypeName (ρ • member) type.name (s.members.map (ρ • ·))) =
              ρ • { s with members := putTypeName member type.name s.members } :=
            congrArg (StoredStruct.mk _ _) (putTypeName_map (ρ • ·)
              (fun _ => smul_left_cancel_iff ρ) (fun _ _ => rfl) type.name s.members)
          exact ⟨rfl, h.next, insert_get? hput,
            h.recorded.concat (.setMemberType id member type.name)⟩
        · simp only [hoffset, hsize, ne_eq, not_true_eq_false, not_false_eq_true, ↓reduceIte]
          exact ⟨rfl, h⟩
      · simp only [hoffset, ne_eq, not_false_eq_true, ↓reduceIte]
        exact ⟨rfl, h⟩

theorem deleteStruct (h : SameAt ρ δ j j' id db db') :
    (Host.deleteStruct (ρ • id) db').1 = ρ • (Host.deleteStruct id db).1 ∧
      SameAt ρ δ j j' id (Host.deleteStruct id db).2 (Host.deleteStruct (ρ • id) db').2 := by
  show (db'.settle ((db'.deleteStruct (ρ • id)).map ((), ·))).1 =
      ρ • (db.settle ((db.deleteStruct id).map ((), ·))).1 ∧
    SameAt ρ δ j j' id (db.settle ((db.deleteStruct id).map ((), ·))).2
      (db'.settle ((db'.deleteStruct (ρ • id)).map ((), ·))).2
  unfold Database.deleteStruct Database.get
  rw [h.get?]
  cases hs : db.get? id with
  | none => exact ⟨rfl, h⟩
  | some s =>
    refine ⟨rfl, h.next, ?_, h.recorded.concat (.deleteStruct id)⟩
    show (db'.structs.erase (ρ • id).value).get? (ρ • id).value =
      ρ • (db.structs.erase id.value).get? id.value
    rw [WordMap.get?_erase_self, WordMap.get?_erase_self]
    rfl

end SameAt

end Database

/-! ### With faults -/

namespace FaultyDatabase

variable {ρ : Perm UInt64} {δ hi : UInt64} {j j' : List HostCall} {id : StructId}
  {f f' g : FaultyDatabase}

theorem next_le_perform (r : Request) (hspare : f.db.Spare r.ids) :
    f.db.nextId ≤ (r.perform f).db.nextId :=
  UInt64.le_iff_toNat_le.2 (later_perform r hspare).next_le

theorem next_le_materialize (id : StructId) (m : Member) {n : Nat} (hspare : f.db.Spare (n + 1)) :
    f.db.nextId ≤ (value (m.materialize id) f).2.db.nextId ∧
      (value (m.materialize id) f).2.db.Spare n := by
  obtain ⟨requests, hrequests, hids, -⟩ := Descriptor.Call.member_requests id m f
  rw [hrequests]
  refine ⟨next_le_performAll (hspare.mono (hids.trans (Nat.le_add_left 1 n))), ?_⟩
  refine spare_performAll (hspare.mono ?_)
  rw [Nat.add_comm]
  exact Nat.add_le_add_left hids n

theorem next_le_createMembers (id : StructId) {members : List Member}
    (hspare : f.db.Spare members.length) :
    f.db.nextId ≤ (value (StructSync.createMembers id members) f).2.db.nextId := by
  obtain ⟨requests, hrequests, hids, -⟩ := Descriptor.Call.members_requests id members f
  rw [hrequests]
  exact next_le_performAll (hspare.mono hids)

/-- Databases with the same under one id, of which the same requests fail. -/
structure SameAt (ρ : Perm UInt64) (δ : UInt64) (j j' : List HostCall) (id : StructId)
    (f f' : FaultyDatabase) : Prop where
  faults : f'.faults = f.faults
  db : Database.SameAt ρ δ j j' id f.db f'.db

namespace SameAt

theorem createMember (h : SameAt ρ δ j j' id f f') {name : String} {offset size : UInt64}
    {flags : DataFlags} {answer : Except HostError MemberId}
    (hrun : Host.createMember id name offset size flags f = (answer, g)) (hspare : f.db.Spare 1)
    (hmoves : Moves ρ δ f.db.nextId hi) (hhi : g.db.nextId ≤ hi) :
    ∃ g', Host.createMember (ρ • id) name offset size flags f' = (ρ • answer, g') ∧
      SameAt ρ δ j j' id g g' := by
  by_cases hF : f.faults.member name = true
  · obtain ⟨rfl, rfl⟩ := Prod.mk.inj ((if_pos hF).symm.trans hrun)
    exact ⟨f', if_pos (h.faults ▸ hF), h⟩
  · obtain ⟨rfl, rfl⟩ := Prod.mk.inj ((if_neg hF).symm.trans hrun)
    obtain ⟨hanswer, hdb⟩ := h.db.createMember name offset size flags hspare hmoves hhi
    exact ⟨_, (if_neg (h.faults ▸ hF)).trans (Prod.ext hanswer rfl), h.faults, hdb⟩

theorem setMemberType (h : SameAt ρ δ j j' id f f') {member : MemberId} {offset : UInt64}
    {type : CType} {answer : Except HostError Unit}
    (hrun : Host.setMemberType id member offset type f = (answer, g)) :
    ∃ g', Host.setMemberType (ρ • id) (ρ • member) offset type f' = (ρ • answer, g') ∧
      SameAt ρ δ j j' id g g' := by
  by_cases hF : f.faults.type type.name = true
  · obtain ⟨rfl, rfl⟩ := Prod.mk.inj ((if_pos hF).symm.trans hrun)
    exact ⟨f', if_pos (h.faults ▸ hF), h⟩
  · obtain ⟨rfl, rfl⟩ := Prod.mk.inj ((if_neg hF).symm.trans hrun)
    obtain ⟨hanswer, hdb⟩ := h.db.setMemberType member offset type
    exact ⟨_, (if_neg (h.faults ▸ hF)).trans (Prod.ext hanswer rfl), h.faults, hdb⟩

theorem deleteStruct (h : SameAt ρ δ j j' id f f') {answer : Except HostError Unit}
    (hrun : Host.deleteStruct id f = (answer, g)) :
    ∃ g', Host.deleteStruct (ρ • id) f' = (ρ • answer, g') ∧ SameAt ρ δ j j' id g g' := by
  by_cases hF : f.faults.delete = true
  · obtain ⟨rfl, rfl⟩ := Prod.mk.inj ((if_pos hF).symm.trans hrun)
    exact ⟨f', if_pos (h.faults ▸ hF), h⟩
  · obtain ⟨rfl, rfl⟩ := Prod.mk.inj ((if_neg hF).symm.trans hrun)
    obtain ⟨hanswer, hdb⟩ := h.db.deleteStruct
    exact ⟨_, (if_neg (h.faults ▸ hF)).trans (Prod.ext hanswer rfl), h.faults, hdb⟩

theorem materialize (h : SameAt ρ δ j j' id f f') {m : Member} {answer : Except SyncError MemberId}
    (hrun : value (m.materialize id) f = (answer, g)) (hspare : f.db.Spare 1)
    (hmoves : Moves ρ δ f.db.nextId hi) (hhi : g.db.nextId ≤ hi) :
    ∃ g', value (m.materialize (ρ • id)) f' = (ρ • answer, g') ∧ SameAt ρ δ j j' id g g' := by
  rw [Member.value_materialize] at hrun ⊢
  rcases hcreate : Host.createMember id m.name m.offset m.size m.type.flags f with ⟨e | member, mid⟩
  · rw [hcreate] at hrun
    cases hrun
    obtain ⟨g', hcreate', hg⟩ := h.createMember hcreate hspare hmoves hhi
    rw [hcreate']
    exact ⟨g', rfl, hg⟩
  · rw [hcreate] at hrun
    dsimp only at hrun
    rcases htype : Host.setMemberType id member m.offset m.type.type mid with ⟨typed, last⟩
    rw [htype] at hrun
    have hle : mid.db.nextId ≤ last.db.nextId := by
      have hle := next_le_perform (f := mid) (.setMemberType id member m.offset m.type.type)
        mid.db.nextId.toNat_lt
      rwa [Request.perform, htype] at hle
    have hlast : g = last := by cases typed <;> cases hrun <;> rfl
    subst hlast
    obtain ⟨mid', hcreate', hmid⟩ := h.createMember hcreate hspare hmoves (UInt64.le_trans hle hhi)
    obtain ⟨g', htype', hg⟩ := hmid.setMemberType htype
    rw [hcreate']
    dsimp only [Except.smul_ok]
    rw [htype']
    rcases typed with e | _ <;> cases hrun <;> exact ⟨g', rfl, hg⟩

theorem createMembers (h : SameAt ρ δ j j' id f f') {members : List Member}
    {answer : Except (Member × SyncError) Bindings}
    (hrun : value (StructSync.createMembers id members) f = (answer, g))
    (hspare : f.db.Spare members.length) (hmoves : Moves ρ δ f.db.nextId hi)
    (hhi : g.db.nextId ≤ hi) :
    ∃ g', value (StructSync.createMembers (ρ • id) members) f' =
        ((answer.map (ρ • ·)).mapError fun failure => (failure.1, ρ • failure.2), g') ∧
      SameAt ρ δ j j' id g g' := by
  induction members generalizing f f' g answer with
  | nil =>
    cases hrun
    exact ⟨f', rfl, h⟩
  | cons m rest ih =>
    rw [value_createMembers_cons] at hrun ⊢
    have hspareOne : f.db.Spare 1 := hspare.mono (Nat.succ_le_succ (Nat.zero_le _))
    obtain ⟨hlo, hmid⟩ := next_le_materialize id m hspare
    rcases hm : value (m.materialize id) f with ⟨e | member, mid⟩ <;> rw [hm] at hrun hlo hmid
    · cases hrun
      obtain ⟨g', hm', hg⟩ := h.materialize hm hspareOne hmoves hhi
      rw [hm']
      exact ⟨g', rfl, hg⟩
    · dsimp only at hrun
      have hle := next_le_createMembers id hmid
      rcases hrest : value (StructSync.createMembers id rest) mid with ⟨answer', last⟩
      rw [hrest] at hrun hle
      have hlast : g = last := by cases answer' <;> cases hrun <;> rfl
      subst hlast
      obtain ⟨mid', hm', hmid'⟩ := h.materialize hm hspareOne hmoves (UInt64.le_trans hle hhi)
      obtain ⟨g', hrest', hg⟩ := ih hmid' hrest hmid (hmoves.mono hlo (UInt64.le_refl _)) hhi
      rw [hm']
      dsimp only [Except.smul_ok]
      rw [hrest']
      rcases answer' with ⟨m', e⟩ | bindings <;> cases hrun <;> exact ⟨g', rfl, hg⟩

end SameAt

end FaultyDatabase

end StructSync
