import Mathlib
import StructSync.Proofs.Database.Identity

/-!
# Requests that are done or refused

`Request.Refusable` says what stands in the way of a request to a database, and `Request.Done` what
one that is taken leaves behind: the struct under one id is another, one call is recorded, and all
else is as it was. Main statement (`Database.Reachable.request_atomic`): in a database made by
requests exactly the refusable ones fail, whatever is asked for, and those leave it as it is; all
others are done.
-/

namespace StructSync

/-- The member has a byte in common with the range. -/
def StoredMember.Meets (m : StoredMember) (offset size : UInt64) : Prop :=
  ∃ byte, m.offset.toNat ≤ byte ∧ byte < m.stopNat ∧
    offset.toNat ≤ byte ∧ byte < offset.toNat + size.toNat

/-- The call stands behind the journal, that many ids are taken, and the struct under the id is the
only one that is not as it was. -/
structure Database.ChangedAt (db : Database) (id : StructId) (ids : UInt64) (call : HostCall)
    (after : Database) : Prop where
  pointerSize : after.pointerSize = db.pointerSize
  nextId : after.nextId = db.nextId + ids
  journal : after.journal = db.journal ++ [call]
  others : ∀ other, other ≠ id → after.get? other = db.get? other

namespace Request

/-- What the host answers: the id that it gives, if the request asks for one. -/
def answer {σ : Type} [Host σ] : Request → σ → Except HostError (Option UInt64)
  | createStruct name, host => (Host.createStruct name host).1.map (some ·.value)
  | deleteStruct id, host => (Host.deleteStruct id host).1.map fun _ => none
  | createMember id name offset size flags, host =>
    (Host.createMember id name offset size flags host).1.map (some ·.value)
  | setMemberType id member offset type, host =>
    (Host.setMemberType id member offset type host).1.map fun _ => none

/-- What stands in the way of the request: a name or a range that is taken or makes no sense, or an
id that is not there. -/
def Refusable (db : Database) : Request → Prop
  | createStruct name => ∃ s ∈ db.structs.values, s.name = name
  | deleteStruct id => ∀ s ∈ db.structs.values, s.id ≠ id
  | createMember id name offset size _ =>
    size = 0 ∨ 2 ^ 64 - 1 < offset.toNat + size.toNat ∨ (∀ s ∈ db.structs.values, s.id ≠ id) ∨
      ∃ s ∈ db.structs.values, s.id = id ∧ ∃ m ∈ s.members, m.name = name ∨ m.Meets offset size
  | setMemberType id member offset type =>
    (∀ s ∈ db.structs.values, s.id ≠ id) ∨
      ∃ s ∈ db.structs.values, s.id = id ∧ ((∀ m ∈ s.members, m.id ≠ member) ∨
        ∃ m ∈ s.members, m.id = member ∧ (m.offset ≠ offset ∨ m.size ≠ type.size))

/-- What is given and left behind by a request that is taken. A new member stands once among those
that were there, in order of the offsets; a type is put to one member. -/
def Done (db : Database) (given : Option UInt64) (after : Database) : Request → Prop
  | createStruct name =>
    given = some db.nextId ∧ db.get? ⟨db.nextId⟩ = none ∧
      after.get? ⟨db.nextId⟩ = some ⟨⟨db.nextId⟩, name, []⟩ ∧
      db.ChangedAt ⟨db.nextId⟩ 1 (.createStruct name) after
  | deleteStruct id =>
    given = none ∧ (∃ s, db.get? id = some s) ∧ after.get? id = none ∧
      db.ChangedAt id 0 (.deleteStruct id) after
  | createMember id name offset size flags =>
    given = some db.nextId ∧ ∃ s before behind,
      db.get? id = some s ∧ s.members = before ++ behind ∧
      (∀ m ∈ s.members, m.id ≠ ⟨db.nextId⟩ ∧ m.name ≠ name) ∧
      (before ++ ⟨⟨db.nextId⟩, name, offset, size, flags, none⟩ :: behind).Pairwise
        (fun a b => a.stopNat ≤ b.offset.toNat) ∧
      after.get? id = some { s with
        members := before ++ ⟨⟨db.nextId⟩, name, offset, size, flags, none⟩ :: behind } ∧
      db.ChangedAt id 1 (.createMember id name offset size) after
  | setMemberType id member offset type =>
    given = none ∧ ∃ s before m behind,
      db.get? id = some s ∧ s.members = before ++ m :: behind ∧
      m.id = member ∧ m.offset = offset ∧ m.size = type.size ∧
      (∀ x ∈ before ++ behind, x.id ≠ member) ∧
      after.get? id = some { s with
        members := before ++ { m with typeName := some type.name } :: behind } ∧
      db.ChangedAt id 0 (.setMemberType id member type.name) after

/-- The request to a database as one step: the answer with the database after it, or an error. -/
def fulfil (db : Database) : Request → Except HostError (Option UInt64 × Database)
  | createStruct name => (db.createStruct name).map fun made => (some made.1.value, made.2)
  | deleteStruct id => (db.deleteStruct id).map (none, ·)
  | createMember id name offset size flags =>
    (db.createMember id name offset size flags).map fun made => (some made.1.value, made.2)
  | setMemberType id member offset type => (db.setMemberType id member offset type).map (none, ·)

theorem settle_fulfil (r : Request) (db : Database) :
    db.settle (r.fulfil db) = (r.answer db, r.perform db) := by
  cases r with
  | createStruct name =>
    show db.settle ((db.createStruct name).map _) =
      ((db.settle (db.createStruct name)).1.map _, (db.settle (db.createStruct name)).2)
    cases db.createStruct name <;> rfl
  | deleteStruct id =>
    show db.settle ((db.deleteStruct id).map _) =
      ((db.settle ((db.deleteStruct id).map ((), ·))).1.map _,
        (db.settle ((db.deleteStruct id).map ((), ·))).2)
    cases db.deleteStruct id <;> rfl
  | createMember id name offset size flags =>
    show db.settle ((db.createMember id name offset size flags).map _) =
      ((db.settle (db.createMember id name offset size flags)).1.map _,
        (db.settle (db.createMember id name offset size flags)).2)
    cases db.createMember id name offset size flags <;> rfl
  | setMemberType id member offset type =>
    show db.settle ((db.setMemberType id member offset type).map _) =
      ((db.settle ((db.setMemberType id member offset type).map ((), ·))).1.map _,
        (db.settle ((db.setMemberType id member offset type).map ((), ·))).2)
    cases db.setMemberType id member offset type <;> rfl

end Request

theorem Except.exists_map_eq_ok {ε α β : Type} {x : Except ε α} {f : α → β} :
    (∃ b, x.map f = .ok b) ↔ ∃ a, x = .ok a := by
  cases x <;> simp [Except.map]

theorem Except.map_eq_ok {ε α β : Type} {x : Except ε α} {f : α → β} {b : β}
    (h : x.map f = .ok b) : ∃ a, x = .ok a ∧ f a = b := by
  cases x with
  | error e => cases h
  | ok a => exact ⟨a, rfl, Except.ok.inj h⟩

namespace StoredMember

variable {m : StoredMember} {offset size : UInt64}

theorem Fits.meets_iff (h : m.Fits) (hsize : size ≠ 0) :
    m.Meets offset size ↔
      ¬(m.stop.toNat ≤ offset.toNat ∨ offset.toNat + size.toNat ≤ m.offset.toNat) := by
  have hlt := h.offset_lt
  have hpos : size.toNat ≠ 0 := fun hz => hsize (UInt64.toNat_inj.1 hz)
  rw [h.toNat_stop]
  constructor
  · rintro ⟨byte, hm, hstop, hoffset, hend⟩
    omega
  · intro hmeet
    -- the later of the two first bytes is in both
    refine ⟨max m.offset.toNat offset.toNat, ?_, ?_, ?_, ?_⟩ <;> omega

end StoredMember

theorem StoredStruct.Sound.hasRoom_iff {s : StoredStruct} (h : s.Sound) {name : String}
    {offset size : UInt64} :
    s.HasRoom name offset size ↔
      ¬(size = 0 ∨ 2 ^ 64 - 1 < offset.toNat + size.toNat ∨
        ∃ m ∈ s.members, m.name = name ∨ m.Meets offset size) := by
  have hsize := word_size_eq
  constructor
  · rintro hroom (hzero | hover | ⟨m, hm, hname | hmeets⟩)
    · exact hroom.sized hzero
    · have := hroom.fits
      omega
    · exact hroom.name m hm hname
    · exact ((h.fits m hm).meets_iff hroom.sized).1 hmeets (hroom.free m hm)
  · intro hnot
    simp only [not_or, not_exists, not_and] at hnot
    obtain ⟨hzero, hover, hmembers⟩ := hnot
    refine ⟨hzero, by omega, fun m hm => (hmembers m hm).1, fun m hm => ?_⟩
    by_contra hmeet
    exact (hmembers m hm).2 (((h.fits m hm).meets_iff hzero).2 hmeet)

namespace Database

variable {db after : Database} {id : StructId} {s : StoredStruct}

theorem get?_of_insert {k : UInt64} {t : StoredStruct}
    (h : after.structs = db.structs.insert k t) :
    after.get? ⟨k⟩ = some t ∧ ∀ other, other ≠ ⟨k⟩ → after.get? other = db.get? other := by
  constructor
  · rw [get?, h, WordMap.get?_insert_self]
  · rintro ⟨other⟩ hne
    rw [get?, h, WordMap.get?_insert, if_neg fun heq => hne (congrArg StructId.mk heq), get?]

theorem get?_of_erase (h : after.structs = db.structs.erase id.value) :
    after.get? id = none ∧ ∀ other, other ≠ id → after.get? other = db.get? other := by
  constructor
  · rw [get?, h, WordMap.get?_erase_self]
  · rintro ⟨other⟩ hne
    rw [get?, h, WordMap.get?_erase, if_neg fun heq => hne (congrArg StructId.mk heq), get?]

theorem putTypeName_append {before behind : List StoredMember} {m : StoredMember} (name : String)
    (h : ∀ x ∈ before, x.id ≠ m.id) :
    putTypeName m.id name (before ++ m :: behind) =
      before ++ { m with typeName := some name } :: behind := by
  induction before with
  | nil => simp [putTypeName]
  | cons head tail ih =>
    rw [List.cons_append, putTypeName, if_neg (h head (by simp)), ih fun x hx => h x (by simp [hx])]
    rfl

theorem createStruct_taken_iff (name : String) :
    (∃ made, db.createStruct name = .ok made) ↔ ∀ s ∈ db.structs.values, s.name ≠ name := by
  have hfree : db.findByName? name = none ↔ ∀ s ∈ db.structs.values, s.name ≠ name := by
    rw [findByName?_eq_none]
    constructor
    · intro hne s hs
      obtain ⟨k, hk⟩ := WordMap.mem_values.1 hs
      exact hne k s hk
    · intro hne k s hs
      exact hne s (WordMap.mem_values.2 ⟨k, hs⟩)
  rw [← hfree]
  constructor
  · rintro ⟨⟨id, after⟩, hdb⟩
    exact (createStruct_eq_ok.1 hdb).1
  · intro hname
    exact ⟨(_, _), createStruct_eq_ok.2 ⟨hname, rfl, rfl⟩⟩

namespace Sound

theorem mem_values_iff (h : db.Sound) : s ∈ db.structs.values ↔ db.get? s.id = some s := by
  constructor
  · intro hs
    obtain ⟨k, hk⟩ := WordMap.mem_values.1 hs
    rw [get?, h.key hk, hk]
  · intro hs
    exact WordMap.mem_values.2 ⟨_, hs⟩

theorem get?_eq_none_iff (h : db.Sound) :
    db.get? id = none ↔ ∀ s ∈ db.structs.values, s.id ≠ id := by
  constructor
  · rintro hnone s hs rfl
    rw [h.mem_values_iff.1 hs] at hnone
    cases hnone
  · intro hne
    refine Option.eq_none_iff_forall_ne_some.2 fun s hs => ?_
    exact hne s (WordMap.mem_values.2 ⟨_, hs⟩) (h.get?_id hs)

theorem eq_of_get? (h : db.Sound) (hs : db.get? id = some s) {t : StoredStruct}
    (ht : t ∈ db.structs.values) (hid : t.id = id) : t = s := by
  subst hid
  exact Option.some.inj ((h.mem_values_iff.1 ht).symm.trans hs)

/-! ### When a request is taken -/

theorem deleteStruct_taken_iff (h : db.Sound) (id : StructId) :
    (∃ after, db.deleteStruct id = .ok after) ↔ ¬∀ s ∈ db.structs.values, s.id ≠ id := by
  rw [← h.get?_eq_none_iff]
  constructor
  · rintro ⟨after, hdb⟩ hnone
    obtain ⟨hsome, -⟩ := deleteStruct_eq_ok.1 hdb
    rw [hnone] at hsome
    cases hsome
  · intro hsome
    exact ⟨_, deleteStruct_eq_ok.2 ⟨Option.isSome_iff_ne_none.2 hsome, rfl⟩⟩

theorem createMember_taken_iff (h : db.Sound) (id : StructId) (name : String)
    (offset size : UInt64) (flags : DataFlags) :
    (∃ made, db.createMember id name offset size flags = .ok made) ↔
      ¬(Request.createMember id name offset size flags).Refusable db := by
  have hroom : (∃ made, db.createMember id name offset size flags = .ok made) ↔
      ∃ s, db.get? id = some s ∧ s.HasRoom name offset size := by
    constructor
    · rintro ⟨⟨member, after⟩, hdb⟩
      obtain ⟨s, hs, hroom, -⟩ := createMember_eq_ok.1 hdb
      exact ⟨s, hs, hroom⟩
    · rintro ⟨s, hs, hroom⟩
      exact ⟨(_, _), createMember_eq_ok.2 ⟨s, hs, hroom, rfl, rfl⟩⟩
  rw [hroom, Request.Refusable, ← h.get?_eq_none_iff]
  constructor
  · rintro ⟨s, hs, hroom⟩ hnot
    refine (h.members hs).hasRoom_iff.1 hroom ?_
    rcases hnot with hzero | hover | hnone | ⟨t, ht, hid, hmeets⟩
    · exact .inl hzero
    · exact .inr (.inl hover)
    · rw [hs] at hnone
      cases hnone
    · obtain rfl := h.eq_of_get? hs ht hid
      exact .inr (.inr hmeets)
  · intro hnot
    cases hs : db.get? id with
    | none => exact absurd (.inr (.inr (.inl hs))) hnot
    | some s =>
      refine ⟨s, rfl, (h.members hs).hasRoom_iff.2 fun hno => hnot ?_⟩
      rcases hno with hzero | hover | hmeets
      · exact .inl hzero
      · exact .inr (.inl hover)
      · exact .inr (.inr (.inr ⟨s, WordMap.mem_values.2 ⟨_, hs⟩, h.get?_id hs, hmeets⟩))

theorem setMemberType_taken_iff (h : db.Sound) (id : StructId) (member : MemberId)
    (offset : UInt64) (type : CType) :
    (∃ after, db.setMemberType id member offset type = .ok after) ↔
      ¬(Request.setMemberType id member offset type).Refusable db := by
  rw [Request.Refusable, ← h.get?_eq_none_iff]
  constructor
  · rintro ⟨after, hdb⟩ hnot
    obtain ⟨s, m, hs, hm, hoffset, hsize, -⟩ := setMemberType_eq_ok.1 hdb
    have hmem : m ∈ s.members := List.mem_of_find?_eq_some hm
    have hid : m.id = member := by simpa using List.find?_some hm
    rcases hnot with hnone | ⟨t, ht, htid, hnot⟩
    · rw [hs] at hnone
      cases hnone
    · obtain rfl := h.eq_of_get? hs ht htid
      rcases hnot with hunknown | ⟨x, hx, hxid, hdiffers⟩
      · exact hunknown m hmem hid
      · -- ids of members are different, so this is the member that is found
        obtain rfl : x = m :=
          List.inj_on_of_nodup_map (h.members hs).ids hx hmem (hxid.trans hid.symm)
        rcases hdiffers with hne | hne
        · exact hne hoffset
        · exact hne hsize
  · intro hnot
    cases hs : db.get? id with
    | none => exact absurd (.inl hs) hnot
    | some s =>
      have hstored : s ∈ db.structs.values := WordMap.mem_values.2 ⟨_, hs⟩
      have hknown : ¬∀ m ∈ s.members, m.id ≠ member := fun hunknown =>
        hnot (.inr ⟨s, hstored, h.get?_id hs, .inl hunknown⟩)
      obtain ⟨m, hm⟩ : ∃ m, s.members.find? (·.id == member) = some m := by
        rw [← Option.isSome_iff_exists, List.find?_isSome]
        push Not at hknown
        obtain ⟨m, hm, hid⟩ := hknown
        exact ⟨m, hm, by simpa using hid⟩
      have hmem : m ∈ s.members := List.mem_of_find?_eq_some hm
      have hid : m.id = member := by simpa using List.find?_some hm
      have hsame : ¬(m.offset ≠ offset ∨ m.size ≠ type.size) := fun hdiffers =>
        hnot (.inr ⟨s, hstored, h.get?_id hs, .inr ⟨m, hmem, hid, hdiffers⟩⟩)
      simp only [not_or, ne_eq, not_not] at hsame
      exact ⟨_, setMemberType_eq_ok.2 ⟨s, m, hs, hm, hsame.1, hsame.2, rfl⟩⟩

theorem taken_iff (h : db.Sound) (r : Request) :
    (∃ made, r.fulfil db = .ok made) ↔ ¬r.Refusable db := by
  cases r with
  | createStruct name =>
    rw [Request.fulfil, Except.exists_map_eq_ok, createStruct_taken_iff, Request.Refusable]
    simp
  | deleteStruct id =>
    rw [Request.fulfil, Except.exists_map_eq_ok, h.deleteStruct_taken_iff, Request.Refusable]
  | createMember id name offset size flags =>
    rw [Request.fulfil, Except.exists_map_eq_ok, h.createMember_taken_iff]
  | setMemberType id member offset type =>
    rw [Request.fulfil, Except.exists_map_eq_ok, h.setMemberType_taken_iff]

/-! ### What a request does that is taken -/

theorem createMember_done (h : db.Sound) {name : String} {offset size : UInt64} {flags : DataFlags}
    {member : MemberId} (hdb : db.createMember id name offset size flags = .ok (member, after)) :
    (Request.createMember id name offset size flags).Done db (some member.value) after := by
  obtain ⟨s, hs, hroom, rfl, hafter⟩ := createMember_eq_ok.1 hdb
  obtain ⟨hget, hothers⟩ := get?_of_insert (congrArg structs hafter)
  have hranged := (hroom.insertMember (m := ⟨⟨db.nextId⟩, name, offset, size, flags, none⟩)
    (h.members hs).ranged).ascending
  refine ⟨rfl, s, s.members.takeWhile (·.offset < offset), s.members.dropWhile (·.offset < offset),
    hs, List.takeWhile_append_dropWhile.symm, fun m hm => ⟨h.member_ne_next hs m hm, hroom.name m hm⟩,
    hranged, hget, ?_⟩
  subst hafter
  exact ⟨rfl, rfl, rfl, hothers⟩

theorem setMemberType_done (h : db.Sound) {member : MemberId} {offset : UInt64} {type : CType}
    (hdb : db.setMemberType id member offset type = .ok after) :
    (Request.setMemberType id member offset type).Done db none after := by
  obtain ⟨s, m, hs, hm, hoffset, hsize, hafter⟩ := setMemberType_eq_ok.1 hdb
  obtain ⟨hget, hothers⟩ := get?_of_insert (congrArg structs hafter)
  obtain ⟨hid, before, behind, hmembers, hbefore⟩ := List.find?_eq_some_iff_append.1 hm
  obtain rfl : m.id = member := by simpa using hid
  have hids := (h.members hs).ids
  rw [hmembers, List.map_append, List.map_cons] at hids
  have hne : ∀ x ∈ before ++ behind, x.id ≠ m.id := by
    intro x hx he
    have hnot := (List.nodup_middle.1 hids)
    rw [List.nodup_cons, ← List.map_append] at hnot
    exact hnot.1 (he ▸ List.mem_map_of_mem hx)
  rw [hmembers, putTypeName_append type.name fun x hx => hne x (List.mem_append_left _ hx)] at hget
  refine ⟨rfl, s, before, m, behind, hs, hmembers, rfl, hoffset, hsize, hne, hget, ?_⟩
  subst hafter
  exact ⟨rfl, (UInt64.add_zero _).symm, rfl, hothers⟩

theorem done (h : db.Sound) {r : Request} {given : Option UInt64}
    (hdb : r.fulfil db = .ok (given, after)) : r.Done db given after := by
  cases r with
  | createStruct name =>
    obtain ⟨⟨id, made⟩, hmade, heq⟩ := Except.map_eq_ok hdb
    cases heq
    obtain ⟨-, rfl, hafter⟩ := createStruct_eq_ok.1 hmade
    obtain ⟨hget, hothers⟩ := get?_of_insert (congrArg structs hafter)
    refine ⟨rfl, h.get?_next, hget, ?_⟩
    subst hafter
    exact ⟨rfl, rfl, rfl, hothers⟩
  | deleteStruct id =>
    obtain ⟨made, hmade, heq⟩ := Except.map_eq_ok hdb
    cases heq
    obtain ⟨hs, hafter⟩ := deleteStruct_eq_ok.1 hmade
    obtain ⟨hget, hothers⟩ := get?_of_erase (congrArg structs hafter)
    refine ⟨rfl, Option.isSome_iff_exists.1 hs, hget, ?_⟩
    subst hafter
    exact ⟨rfl, (UInt64.add_zero _).symm, rfl, hothers⟩
  | createMember id name offset size flags =>
    obtain ⟨⟨member, made⟩, hmade, heq⟩ := Except.map_eq_ok hdb
    cases heq
    exact h.createMember_done hmade
  | setMemberType id member offset type =>
    obtain ⟨made, hmade, heq⟩ := Except.map_eq_ok hdb
    cases heq
    exact h.setMemberType_done hmade

end Sound

/-- In a database made by requests the refusable requests fail and no others, one that fails leaves
all as it is, and one that does not fail is done. -/
theorem Reachable.request_atomic (h : Reachable db) (r : Request) :
    ((∃ e, r.answer db = .error e) ↔ r.Refusable db) ∧
    (∀ e, r.answer db = .error e → r.perform db = db) ∧
    ∀ given, r.answer db = .ok given → r.Done db given (r.perform db) := by
  have hsound := h.sound
  have htaken := hsound.taken_iff r
  have hsettle := r.settle_fulfil db
  rcases hdb : r.fulfil db with e | ⟨given, after⟩
  · rw [hdb] at htaken hsettle
    obtain ⟨hanswer, hperform⟩ := Prod.mk.inj hsettle
    rw [← hanswer, ← hperform]
    refine ⟨⟨fun _ => ?_, fun _ => ⟨e, rfl⟩⟩, fun _ _ => rfl, nofun⟩
    by_contra hnot
    obtain ⟨made, hmade⟩ := htaken.2 hnot
    cases hmade
  · rw [hdb] at htaken hsettle
    obtain ⟨hanswer, hperform⟩ := Prod.mk.inj hsettle
    rw [← hanswer, ← hperform]
    refine ⟨⟨nofun, fun hrefusable => ?_⟩, nofun, fun given' hgiven => ?_⟩
    · exact absurd hrefusable (htaken.1 ⟨_, rfl⟩)
    · obtain rfl := Except.ok.inj hgiven
      exact hsound.done hdb

/-- A third member may fill all that is left behind the two integers, but not a byte more. -/
theorem request_atomic_twoIntegers :
    let filling := Request.createMember ⟨0xFF000000⟩ "rest" 8 0xFFFFFFFFFFFFFFF7 ⟨0⟩
    let spilling := Request.createMember ⟨0xFF000000⟩ "rest" 8 0xFFFFFFFFFFFFFFF8 ⟨0⟩
    Reachable twoIntegers ∧
      filling.Done twoIntegers (some 0xFF000003) (filling.perform twoIntegers) ∧
      (∃ e, spilling.answer twoIntegers = .error e) ∧
      spilling.perform twoIntegers = twoIntegers := by
  intro filling spilling
  have hreachable : Reachable twoIntegers :=
    (Reachable.empty 8).performAll (by unfold Spare; decide)
  obtain ⟨-, -, hdone⟩ := hreachable.request_atomic filling
  obtain ⟨hrefusable, hkept, -⟩ := hreachable.request_atomic spilling
  obtain ⟨e, he⟩ := hrefusable.2 (.inr (.inl (by decide)))
  exact ⟨hreachable, hdone _ (by decide +kernel), ⟨e, he⟩, hkept e he⟩

end Database

end StructSync
