import Mathlib
import StructSync.Proofs.Database.Members
import StructSync.Proofs.WordMap

/-!
# When a request succeeds

For each request on a database: exactly when it succeeds, and the database it leaves then.
-/

namespace StructSync

/-- A member of that name and range can be put into the struct. -/
structure StoredStruct.HasRoom (s : StoredStruct) (name : String) (offset size : UInt64) :
    Prop where
  sized : size ≠ 0
  fits : offset.toNat + size.toNat < UInt64.size
  name : ∀ m ∈ s.members, m.name ≠ name
  free : ∀ m ∈ s.members,
    m.stop.toNat ≤ offset.toNat ∨ offset.toNat + size.toNat ≤ m.offset.toNat

namespace StoredStruct.HasRoom

variable {s : StoredStruct} {m : StoredMember}

theorem member_fits (h : s.HasRoom m.name m.offset m.size) : m.Fits := ⟨h.sized, h.fits⟩

theorem insertMember (h : s.HasRoom m.name m.offset m.size) (hs : s.Ranged) :
    Ranged { s with members := Database.insertMember m s.members } :=
  hs.insertMember h.member_fits fun x hx => (hs.fits x hx).toNat_stop ▸ h.free x hx

end StoredStruct.HasRoom

namespace Database

variable {db db' : Database} {name : String} {id : StructId} {member : MemberId}
  {offset size : UInt64} {flags : DataFlags} {type : CType} {s : StoredStruct}

theorem createStruct_eq_ok :
    db.createStruct name = .ok (id, db') ↔
      db.findByName? name = none ∧ id = ⟨db.nextId⟩ ∧
        db' = { db with
          nextId := db.nextId + 1
          structs := db.structs.insert id.value { id, name, members := [] }
          journal := db.journal ++ [.createStruct name] } := by
  unfold createStruct
  cases db.findByName? name with
  | some _ => simp
  | none =>
    simp only [Option.isSome_none, Bool.false_eq_true, ↓reduceIte, Except.ok.injEq, Prod.mk.injEq,
      true_and]
    constructor
    · rintro ⟨rfl, rfl⟩
      exact ⟨rfl, rfl⟩
    · rintro ⟨rfl, rfl⟩
      exact ⟨rfl, rfl⟩

theorem deleteStruct_eq_ok :
    db.deleteStruct id = .ok db' ↔
      (db.get? id).isSome ∧
        db' = { db with
          structs := db.structs.erase id.value
          journal := db.journal ++ [.deleteStruct id] } := by
  unfold deleteStruct get
  cases db.get? id with
  | none => simp [bind, Except.bind]
  | some s => simpa [bind, Except.bind, record] using eq_comm

theorem deleteStruct_eq_error {e : HostError} (h : db.deleteStruct id = .error e) :
    db.get? id = none ∧ e = .unknownStruct id := by
  unfold deleteStruct get at h
  cases hs : db.get? id with
  | none =>
    simp only [hs, bind, Except.bind, Except.error.injEq] at h
    exact ⟨rfl, h.symm⟩
  | some s => simp [hs, bind, Except.bind] at h

theorem host_deleteStruct_eq_ok :
    Host.deleteStruct id db = (.ok (), db') ↔ db.deleteStruct id = .ok db' := by
  show db.settle ((db.deleteStruct id).map ((), ·)) = _ ↔ _
  cases db.deleteStruct id <;> simp [Except.map, settle]

theorem structSize_eq_ok {n : UInt64} :
    db.structSize id = .ok n ↔ ∃ s, db.get? id = some s ∧ s.size = n := by
  unfold structSize get
  cases db.get? id <;> simp [bind, Except.bind]

/-- The members of a stored struct as a host reports them. -/
def reported (s : StoredStruct) : List HostMember :=
  s.members.map fun m => { id := m.id, name := m.name, start := m.offset, stop := m.stop }

theorem members_eq_ok {found : List HostMember} :
    db.members id = .ok found ↔ ∃ s, db.get? id = some s ∧ reported s = found := by
  unfold members get reported
  cases db.get? id <;> simp [bind, Except.bind]

/-- No member is found in the way of a range exactly if the range is free. -/
theorem find?_overlapping_eq_none {members : List StoredMember} {stop : UInt64}
    (hstop : addWord? offset size = some stop) :
    (members.find? fun m => offset < m.stop && m.offset < stop) = none ↔
      ∀ m ∈ members, m.stop.toNat ≤ offset.toNat ∨ offset.toNat + size.toNat ≤ m.offset.toNat := by
  rw [List.find?_eq_none, ← addWord?_eq_some.1 hstop]
  refine forall₂_congr fun m _ => ?_
  simp only [Bool.and_eq_true, decide_eq_true_eq, UInt64.lt_iff_toNat_lt]
  omega

theorem createMember_eq_ok :
    db.createMember id name offset size flags = .ok (member, db') ↔
      ∃ s, db.get? id = some s ∧ s.HasRoom name offset size ∧ member = ⟨db.nextId⟩ ∧
        db' = { db with
          nextId := db.nextId + 1
          structs := db.structs.insert id.value { s with
            members := insertMember
              { id := member, name, offset, size, flags, typeName := none } s.members }
          journal := db.journal ++ [.createMember id name offset size] } := by
  unfold createMember
  by_cases hsize : size = 0
  · simp only [hsize, ↓reduceIte, reduceCtorEq, false_iff]
    rintro ⟨s, -, hroom, -⟩
    exact hroom.sized rfl
  rw [if_neg hsize]
  cases hstop : addWord? offset size with
  | none =>
    have hover := addWord?_eq_none.1 hstop
    simp only [reduceCtorEq, false_iff]
    rintro ⟨s, -, hroom, -⟩
    exact absurd hroom.fits (Nat.not_lt.2 hover)
  | some stop =>
    have hfits : offset.toNat + size.toNat < UInt64.size :=
      addWord?_eq_some.1 hstop ▸ stop.toNat_lt
    unfold get
    cases hs : db.get? id with
    | none => simp [bind, Except.bind]
    | some s =>
      -- the two checks that are left are the two parts of room that are
      have hroom : s.HasRoom name offset size ↔ s.members.any (·.name == name) = false ∧
          (s.members.find? fun m => offset < m.stop && m.offset < stop) = none := by
        rw [find?_overlapping_eq_none hstop, List.any_eq_false]
        simp only [beq_iff_eq]
        exact ⟨fun h => ⟨h.name, h.free⟩, fun h => ⟨hsize, hfits, h.1, h.2⟩⟩
      simp only [bind, Except.bind, Option.some.injEq, exists_eq_left', hroom]
      cases s.members.any (·.name == name) with
      | true => simp
      | false =>
        cases s.members.find? fun m => offset < m.stop && m.offset < stop with
        | some other => simp
        | none =>
          simp only [Bool.false_eq_true, ↓reduceIte, Except.ok.injEq, Prod.mk.injEq, true_and]
          constructor
          · rintro ⟨rfl, rfl⟩
            exact ⟨rfl, rfl⟩
          · rintro ⟨rfl, rfl⟩
            exact ⟨rfl, rfl⟩

theorem setMemberType_eq_ok :
    db.setMemberType id member offset type = .ok db' ↔
      ∃ s m, db.get? id = some s ∧ s.members.find? (·.id == member) = some m ∧
        m.offset = offset ∧ m.size = type.size ∧
        db' = { db with
          structs := db.structs.insert id.value
            { s with members := putTypeName member type.name s.members }
          journal := db.journal ++ [.setMemberType id member type.name] } := by
  unfold setMemberType get
  cases hs : db.get? id with
  | none => simp [bind, Except.bind]
  | some s =>
    simp only [bind, Except.bind, Option.some.injEq, exists_eq_left', exists_and_left]
    cases hm : s.members.find? (·.id == member) with
    | none => simp
    | some m =>
      simp only [Option.some.injEq, exists_eq_left']
      by_cases hoffset : m.offset = offset
      · by_cases hsize : m.size = type.size
        · simpa [hoffset, hsize, record] using eq_comm
        · simp [hoffset, hsize]
      · simp [hoffset]

end Database

end StructSync
