import Mathlib
import StructSync.Proofs.Database.Reachable

/-!
# Journals made again

`HostCall.again` makes a call of a journal once more. The journal keeps neither the flags of a new
member nor the kind of a type, so both may be others the second time (`Unrecorded`). Main statement
(`Database.Retraced.performAll`): whatever requests are made, refused ones included, the calls that
they leave in the journal lead from any copy of the database before to a copy of the database after,
but for the flags, and none of them is refused.
-/

namespace StructSync

/-- The member without its flags. -/
def StoredMember.unflagged (m : StoredMember) : StoredMember := { m with flags := ⟨0⟩ }

/-- The struct without the flags of its members. -/
def StoredStruct.unflagged (s : StoredStruct) : StoredStruct :=
  { s with members := s.members.map StoredMember.unflagged }

/-- What a journal does not keep of a call. -/
structure Unrecorded where
  flags : DataFlags
  kind : Kind

/-- Makes the call once more. Where a typed member starts and how large it is stands in the
database. -/
def HostCall.again (u : Unrecorded) : HostCall → Database → Except HostError Database
  | .createStruct name, db => (db.createStruct name).map Prod.snd
  | .deleteStruct id, db => db.deleteStruct id
  | .createMember id name offset size, db =>
    (db.createMember id name offset size u.flags).map Prod.snd
  | .setMemberType id member typeName, db => do
    let s ← db.get id
    match s.members.find? (·.id == member) with
    | none => .error (.unknownMember member)
    | some m => db.setMemberType id member m.offset ⟨m.size, typeName, u.kind⟩

/-- Makes the calls once more, in order, up to the first that is refused. -/
def Database.replay (calls : List (HostCall × Unrecorded)) (db : Database) :
    Except HostError Database :=
  calls.foldlM (fun db call => call.1.again call.2 db) db

/-! ### Flags play no part -/

namespace StoredStruct

variable {s t : StoredStruct}

theorem unflagged_eq_iff : s.unflagged = t.unflagged ↔
    s.id = t.id ∧ s.name = t.name ∧
      s.members.map StoredMember.unflagged = t.members.map StoredMember.unflagged := by
  rw [unflagged, unflagged, mk.injEq]

theorem map_eq_of_unflagged {α : Type} (h : s.unflagged = t.unflagged) (f : StoredMember → α)
    (hf : ∀ m : StoredMember, f m.unflagged = f m) : s.members.map f = t.members.map f := by
  have hmembers := congrArg (List.map f) (unflagged_eq_iff.1 h).2.2
  rw [List.map_map, List.map_map] at hmembers
  have hsame (l : List StoredMember) : l.map (f ∘ StoredMember.unflagged) = l.map f :=
    List.map_congr_left fun m _ => hf m
  rwa [hsame, hsame] at hmembers

theorem HasRoom.of_unflagged {name : String} {offset size : UInt64}
    (h : s.HasRoom name offset size) (hst : s.unflagged = t.unflagged) :
    t.HasRoom name offset size := by
  have hmembers := map_eq_of_unflagged hst (fun m => (m.name, m.offset, m.stop)) fun _ => rfl
  have hof : ∀ m ∈ t.members, ∃ x ∈ s.members,
      x.name = m.name ∧ x.offset = m.offset ∧ x.stop = m.stop := by
    intro m hm
    have hmem : (m.name, m.offset, m.stop) ∈ s.members.map fun m => (m.name, m.offset, m.stop) :=
      hmembers ▸ List.mem_map_of_mem hm
    obtain ⟨x, hx, hxm⟩ := List.mem_map.1 hmem
    simp only [Prod.mk.injEq] at hxm
    exact ⟨x, hx, hxm⟩
  refine ⟨h.sized, h.fits, fun m hm => ?_, fun m hm => ?_⟩
  · obtain ⟨x, hx, hname, -⟩ := hof m hm
    exact hname ▸ h.name x hx
  · obtain ⟨x, hx, -, hoffset, hstop⟩ := hof m hm
    exact hoffset ▸ hstop ▸ h.free x hx

end StoredStruct

namespace Database

/-- The two are the same but for the journal and the flags of members. -/
structure Copies (db copy : Database) : Prop where
  pointerSize : copy.pointerSize = db.pointerSize
  nextId : copy.nextId = db.nextId
  structs : copy.structs.map StoredStruct.unflagged = db.structs.map StoredStruct.unflagged

namespace Copies

variable {db copy : Database} {id : StructId} {name : String} {s : StoredStruct}

theorem refl (db : Database) : db.Copies db := ⟨rfl, rfl, rfl⟩

theorem map_get? (h : db.Copies copy) (k : UInt64) :
    (copy.structs.get? k).map StoredStruct.unflagged =
      (db.structs.get? k).map StoredStruct.unflagged := by
  rw [← WordMap.get?_map, ← WordMap.get?_map, h.structs]

theorem get? (h : db.Copies copy) (hs : db.get? id = some s) :
    ∃ t, copy.get? id = some t ∧ t.unflagged = s.unflagged := by
  have hmap := h.map_get? id.value
  rw [show db.structs.get? id.value = some s from hs] at hmap
  exact Option.map_eq_some_iff.1 hmap

theorem findByName?_eq_none (h : db.Copies copy) (hdb : db.findByName? name = none) :
    copy.findByName? name = none := by
  refine Database.findByName?_eq_none.2 fun k t ht hname => ?_
  have hmap := h.map_get? k
  rw [ht, Option.map_some] at hmap
  obtain ⟨s, hs, hst⟩ := Option.map_eq_some_iff.1 hmap.symm
  have hsname : s.name = name := (StoredStruct.unflagged_eq_iff.1 hst).2.1.trans hname
  exact Database.findByName?_eq_none.1 hdb k s hs hsname

theorem insert {db' copy' : Database} {t : StoredStruct} (h : db.Copies copy) (k : UInt64)
    (hst : t.unflagged = s.unflagged) (hpointer : copy'.pointerSize = copy.pointerSize)
    (hpointer' : db'.pointerSize = db.pointerSize) (hnext : copy'.nextId = db'.nextId)
    (hcopy : copy'.structs = copy.structs.insert k t)
    (hdb : db'.structs = db.structs.insert k s) : db'.Copies copy' := by
  refine ⟨by rw [hpointer, hpointer', h.pointerSize], hnext, WordMap.ext_get? fun l => ?_⟩
  rw [hcopy, hdb, WordMap.get?_map, WordMap.get?_map, WordMap.get?_insert, WordMap.get?_insert]
  split
  · exact congrArg some hst
  · exact h.map_get? l

end Copies

/-! ### One request -/

/-- What stands in the journal of the one behind that of the other leads from any copy of the other
to a copy of the one, and no call of it is refused. -/
def Retraced (db after : Database) : Prop :=
  ∃ calls, after.journal = db.journal ++ calls ∧
    ∀ copy, db.Copies copy → ∀ again : List (HostCall × Unrecorded), again.map Prod.fst = calls →
      ∃ copy', copy.replay again = .ok copy' ∧ after.Copies copy'

namespace Retraced

variable {db middle after : Database}

theorem refl (db : Database) : db.Retraced db := by
  refine ⟨[], (List.append_nil _).symm, fun copy h again hagain => ⟨copy, ?_, h⟩⟩
  rw [List.map_eq_nil_iff.1 hagain]
  rfl

theorem trans (h : db.Retraced middle) (h' : middle.Retraced after) : db.Retraced after := by
  obtain ⟨first, hfirst, hcopy⟩ := h
  obtain ⟨second, hsecond, hcopy'⟩ := h'
  refine ⟨first ++ second, by rw [hsecond, hfirst, List.append_assoc], fun copy h again hagain => ?_⟩
  obtain ⟨front, back, rfl, hfront, hback⟩ := List.map_eq_append_iff.1 hagain
  obtain ⟨reached, hreached, hmiddle⟩ := hcopy copy h front hfront
  obtain ⟨copy', hend, hafter⟩ := hcopy' reached hmiddle back hback
  refine ⟨copy', ?_, hafter⟩
  rw [replay, List.foldlM_append]
  show (copy.replay front >>= replay back) = _
  rw [hreached]
  exact hend

theorem of_call {call : HostCall} (hjournal : after.journal = db.journal ++ [call])
    (hcopy : ∀ copy, db.Copies copy → ∀ u,
      ∃ copy', call.again u copy = .ok copy' ∧ after.Copies copy') : db.Retraced after := by
  refine ⟨[call], hjournal, fun copy h again hagain => ?_⟩
  obtain ⟨⟨first, u⟩, rfl, rfl⟩ := List.map_eq_singleton_iff.1 hagain
  obtain ⟨copy', hagain, hafter⟩ := hcopy copy h u
  exact ⟨copy', by simp [replay, hagain], hafter⟩

theorem createStruct {name : String} {id : StructId}
    (hdb : db.createStruct name = .ok (id, after)) : db.Retraced after := by
  obtain ⟨hname, rfl, rfl⟩ := createStruct_eq_ok.1 hdb
  refine .of_call rfl fun copy h u => ?_
  have hcopy : copy.createStruct name = .ok (⟨copy.nextId⟩, _) :=
    createStruct_eq_ok.2 ⟨h.findByName?_eq_none hname, rfl, rfl⟩
  refine ⟨_, congrArg (Except.map Prod.snd) hcopy, ?_⟩
  rw [h.nextId]
  exact h.insert db.nextId rfl rfl rfl rfl rfl rfl

theorem deleteStruct {id : StructId} (hdb : db.deleteStruct id = .ok after) :
    db.Retraced after := by
  obtain ⟨hs, rfl⟩ := deleteStruct_eq_ok.1 hdb
  refine .of_call rfl fun copy h u => ?_
  obtain ⟨s, hs⟩ := Option.isSome_iff_exists.1 hs
  obtain ⟨t, ht, -⟩ := h.get? hs
  refine ⟨_, deleteStruct_eq_ok.2 ⟨Option.isSome_of_eq_some ht, rfl⟩, h.pointerSize, h.nextId,
    WordMap.ext_get? fun k => ?_⟩
  rw [WordMap.get?_map, WordMap.get?_map, WordMap.get?_erase, WordMap.get?_erase]
  split
  · rfl
  · exact h.map_get? k

theorem createMember {id : StructId} {name : String} {offset size : UInt64} {flags : DataFlags}
    {member : MemberId} (hdb : db.createMember id name offset size flags = .ok (member, after)) :
    db.Retraced after := by
  obtain ⟨s, hs, hroom, rfl, rfl⟩ := createMember_eq_ok.1 hdb
  refine .of_call rfl fun copy h u => ?_
  obtain ⟨t, ht, hts⟩ := h.get? hs
  have hcopy : copy.createMember id name offset size u.flags = .ok (⟨copy.nextId⟩, _) :=
    createMember_eq_ok.2 ⟨t, ht, hroom.of_unflagged hts.symm, rfl, rfl⟩
  refine ⟨_, congrArg (Except.map Prod.snd) hcopy, h.insert id.value ?_ rfl rfl ?_ rfl rfl⟩
  · obtain ⟨htid, htname, htmembers⟩ := StoredStruct.unflagged_eq_iff.1 hts
    refine StoredStruct.unflagged_eq_iff.2 ⟨htid, htname, ?_⟩
    have hput := insertMember_map StoredMember.unflagged fun _ => rfl
    rw [← hput, ← hput, htmembers, h.nextId]
    rfl
  · exact congrArg (· + 1) h.nextId

theorem setMemberType {id : StructId} {member : MemberId} {offset : UInt64} {type : CType}
    (hdb : db.setMemberType id member offset type = .ok after) : db.Retraced after := by
  obtain ⟨s, m, hs, hm, -, -, rfl⟩ := setMemberType_eq_ok.1 hdb
  refine .of_call rfl fun copy h u => ?_
  obtain ⟨t, ht, hts⟩ := h.get? hs
  obtain ⟨htid, htname, htmembers⟩ := StoredStruct.unflagged_eq_iff.1 hts
  -- the copy has a member of that id too, and it is asked where that member is
  have hfind : ((t.members.map StoredMember.unflagged).find? (·.id == member)).isSome := by
    rw [htmembers, List.find?_map, Option.isSome_map]
    exact Option.isSome_of_eq_some hm
  rw [List.find?_map, Option.isSome_map] at hfind
  obtain ⟨x, hx⟩ := Option.isSome_iff_exists.1 hfind
  have hxmember : t.members.find? (·.id == member) = some x := hx
  have hcopy : copy.setMemberType id member x.offset ⟨x.size, type.name, u.kind⟩ = .ok _ :=
    setMemberType_eq_ok.2 ⟨t, x, ht, hxmember, rfl, rfl, rfl⟩
  have hagain : (HostCall.setMemberType id member type.name).again u copy =
      copy.setMemberType id member x.offset ⟨x.size, type.name, u.kind⟩ := by
    rw [HostCall.again, get, ht]
    show (match t.members.find? (·.id == member) with
      | none => Except.error (HostError.unknownMember member)
      | some m => copy.setMemberType id member m.offset ⟨m.size, type.name, u.kind⟩) = _
    rw [hxmember]
  refine ⟨_, hagain.trans hcopy, h.insert id.value ?_ rfl rfl h.nextId rfl rfl⟩
  refine StoredStruct.unflagged_eq_iff.2 ⟨htid, htname, ?_⟩
  have hput := @putTypeName_map StoredMember.unflagged member member (fun _ => Iff.rfl)
    (fun _ _ => rfl) type.name
  rw [← hput, ← hput, htmembers]

/-- A refused request leaves nothing in the journal, any other just itself. -/
theorem perform (r : Request) (db : Database) : db.Retraced (r.perform db) := by
  rcases perform_cases r db with heq | hcase
  · rw [heq]
    exact .refl db
  cases r with
  | createStruct name => exact hcase.elim fun _ hdb => .createStruct hdb
  | deleteStruct id => exact .deleteStruct hcase
  | createMember id name offset size flags => exact hcase.elim fun _ hdb => .createMember hdb
  | setMemberType id member offset type => exact .setMemberType hcase

theorem performAll (requests : List Request) (db : Database) :
    db.Retraced (Request.performAll requests db) := by
  induction requests generalizing db with
  | nil => exact .refl db
  | cons r rest ih => exact (perform r db).trans (ih _)

end Retraced

end Database

end StructSync
