import Mathlib
import StructSync.Proofs.Layout
import StructSync.Proofs.Guarded

/-!
# Creating a struct

A struct whose name is free is created in a guarded database exactly if the guard passes on all of
its requests. Main statements: if it does, the struct is stored with its members under the ids that
follow one another (`create_passed`); if not, the journal has the requests before the refused one,
and then perhaps a deletion (`create_refused`). No other check of the database stands in the way
of a layout: what `Layout.add` asks of the members is all that the requests ask
(`StoredStruct.HasRoom.put`).
-/

namespace StructSync

open Work

/-! ### Members as they are stored -/

/-- The member as a database stores it once it has its type. -/
def Member.stored (m : Member) (id : MemberId) : StoredMember :=
  { id, name := m.name, offset := m.offset, size := m.size, flags := m.type.flags
    typeName := some m.type.type.name }

/-- The member as a database stores it before it has its type. -/
def Member.untyped (m : Member) (id : MemberId) : StoredMember :=
  { id, name := m.name, offset := m.offset, size := m.size, flags := m.type.flags
    typeName := none }

/-- All that is stored of a member but its id. -/
def StoredMember.content (m : StoredMember) :
    String × UInt64 × UInt64 × DataFlags × Option String :=
  (m.name, m.offset, m.size, m.flags, m.typeName)

/-- All that is to be stored of a member. -/
def Member.content (m : Member) : String × UInt64 × UInt64 × DataFlags × Option String :=
  (m.name, m.offset, m.size, m.type.flags, some m.type.type.name)

theorem Member.fits_stored (m : Member) (id : MemberId) : (m.stored id).Fits :=
  ⟨m.type.sized, m.fits⟩

namespace StoredStruct

/-- The struct with one more member in its place. -/
def put (s : StoredStruct) (m : StoredMember) : StoredStruct :=
  { s with members := Database.insertMember m s.members }

variable {s : StoredStruct} {a b : Member}

theorem HasRoom.put (h : s.HasRoom b.name b.offset b.size) (hab : a.Apart b) (id : MemberId) :
    (s.put (a.stored id)).HasRoom b.name b.offset b.size := by
  refine ⟨h.sized, h.fits, fun m hm => ?_, fun m hm => ?_⟩
  · rcases Database.mem_insertMember.1 hm with rfl | hm
    · exact hab.1
    · exact h.name m hm
  · rcases Database.mem_insertMember.1 hm with rfl | hm
    · have hstop : (a.stored id).stop.toNat = a.stop.toNat := by
        rw [(a.fits_stored id).toNat_stop, a.toNat_stop]
        rfl
      rw [hstop, ← b.toNat_stop]
      exact hab.2.imp UInt64.le_iff_toNat_le.1 UInt64.le_iff_toNat_le.1
    · exact h.free m hm

theorem hasRoom_nil (id : StructId) (name : String) (m : Member) :
    HasRoom ⟨id, name, []⟩ m.name m.offset m.size :=
  ⟨m.type.sized, m.fits, by simp, by simp⟩

end StoredStruct

/-! ### One struct changed -/

/-- The database differs from the one before in the members of one struct only, in at most `n` ids
given out, and in what stands behind its journal. -/
structure Database.Grown (db : Database) (id : StructId) (s : StoredStruct) (n : Nat)
    (after : Database) (t : StoredStruct) : Prop where
  sound : after.Sound
  structs : after.structs = db.structs.insert id.value t
  id : t.id = s.id
  name : t.name = s.name
  pointerSize : after.pointerSize = db.pointerSize
  le_next : db.nextId.toNat ≤ after.nextId.toNat
  next_le : after.nextId.toNat ≤ db.nextId.toNat + n
  journal : db.journal <+: after.journal

namespace Database.Grown

variable {db middle after : Database} {id : StructId} {s t u : StoredStruct} {m n : Nat}

theorem refl (h : db.Sound) (hs : db.get? id = some s) : db.Grown id s n db s :=
  ⟨h, (WordMap.insert_eq_self hs).symm, rfl, rfl, rfl, Nat.le_refl _, Nat.le_add_right _ _,
    List.prefix_rfl⟩

theorem trans (h : db.Grown id s m middle t) (h' : middle.Grown id t n after u) :
    db.Grown id s (m + n) after u where
  sound := h'.sound
  structs := by rw [h'.structs, h.structs, WordMap.insert_insert]
  id := h'.id.trans h.id
  name := h'.name.trans h.name
  pointerSize := h'.pointerSize.trans h.pointerSize
  le_next := h.le_next.trans h'.le_next
  next_le := by
    have := h.next_le
    have := h'.next_le
    omega
  journal := h.journal.trans h'.journal

theorem mono (h : db.Grown id s m after t) (hmn : m ≤ n) : db.Grown id s n after t :=
  { h with next_le := h.next_le.trans (Nat.add_le_add_left hmn _) }

theorem get? (h : db.Grown id s n after t) : after.get? id = some t := by
  rw [Database.get?, h.structs, WordMap.get?_insert_self]

theorem spare (h : db.Grown id s m after t) (hspare : db.Spare (m + n)) : after.Spare n := by
  have := h.next_le
  unfold Spare at *
  omega

end Database.Grown

/-! ### One member -/

/-- What the journal keeps of a request. -/
def Request.call : Request → HostCall
  | createStruct name => .createStruct name
  | deleteStruct id => .deleteStruct id
  | createMember id name offset size _ => .createMember id name offset size
  | setMemberType id member _ type => .setMemberType id member type.name

namespace Member

/-- The requests that create the member and give it its type. -/
def requests (m : Member) (id : StructId) (member : MemberId) : List Request :=
  [.createMember id m.name m.offset m.size m.type.flags,
    .setMemberType id member m.offset m.type.type]

/-- Does the guard answer one of the member's requests? -/
def refused (fault? : Request → Option HostError) (id : StructId) (m : Member)
    (member : MemberId) : Bool :=
  (m.requests id member).any fun r => (fault? r).isSome

theorem refused_eq_false {fault? : Request → Option HostError} {id : StructId} {m : Member}
    {member : MemberId} :
    m.refused fault? id member = false ↔ ∀ r ∈ m.requests id member, fault? r = none := by
  simp only [refused, List.any_eq_false, Bool.not_eq_true, Option.isSome_eq_false_iff,
    Option.isNone_iff_eq_none]

end Member

section
variable {db : Database} {fault? : Request → Option HostError} {id : StructId}
  {s : StoredStruct} {m : Member}

theorem Database.Sound.createMember_of_hasRoom (h : db.Sound) (hspare : db.Spare 1)
    (hs : db.get? id = some s) (hroom : s.HasRoom m.name m.offset m.size) :
    ∃ after, Host.createMember id m.name m.offset m.size m.type.flags db =
        (.ok ⟨db.nextId⟩, after) ∧
      db.Grown id s 1 after (s.put (m.untyped ⟨db.nextId⟩)) ∧ after.nextId = db.nextId + 1 ∧
      after.journal = db.journal ++ [.createMember id m.name m.offset m.size] := by
  have hok : db.createMember id m.name m.offset m.size m.type.flags = .ok (⟨db.nextId⟩, _) :=
    Database.createMember_eq_ok.2 ⟨s, hs, hroom, rfl, rfl⟩
  have hnext := hspare.toNat_next
  refine ⟨_, congrArg db.settle hok, ⟨h.createMember hspare hok, rfl, rfl, rfl, rfl, ?_, ?_, ?_⟩,
    rfl, rfl⟩
  · rw [hnext]
    exact Nat.le_succ _
  · rw [hnext]
  · exact List.prefix_append _ _

theorem Database.Sound.setMemberType_untyped (h : db.Sound) {member : MemberId}
    (hs : db.get? id = some (s.put (m.untyped member))) (hfresh : ∀ x ∈ s.members, x.id ≠ member) :
    ∃ after, Host.setMemberType id member m.offset m.type.type db = (.ok (), after) ∧
      db.Grown id (s.put (m.untyped member)) 0 after (s.put (m.stored member)) ∧
      after.nextId = db.nextId ∧
      after.journal = db.journal ++ [.setMemberType id member m.type.type.name] := by
  have hfind : (insertMember (m.untyped member) s.members).find? (·.id == member) =
      some (m.untyped member) := by
    rw [List.find?_eq_some_iff_append]
    refine ⟨by simp [Member.untyped], _, _, rfl, fun x hx => ?_⟩
    simpa using hfresh x ((List.takeWhile_sublist _).mem hx)
  have hok := Database.setMemberType_eq_ok.2 ⟨_, _, hs, hfind, rfl, rfl, rfl⟩
  have hput : putTypeName member m.type.type.name (s.put (m.untyped member)).members =
      (s.put (m.stored member)).members :=
    putTypeName_insertMember (m := m.untyped member) _ hfresh
  refine ⟨_, congrArg (fun x => db.settle (x.map ((), ·))) hok, ⟨h.setMemberType hok, ?_, rfl, rfl,
    rfl, Nat.le_refl _, Nat.le_refl _, List.prefix_append _ _⟩, rfl, rfl⟩
  dsimp only
  rw [hput]
  rfl

theorem materialize_passed (h : db.Sound) (hspare : db.Spare 1) (hs : db.get? id = some s)
    (hroom : s.HasRoom m.name m.offset m.size) (hpass : m.refused fault? id ⟨db.nextId⟩ = false) :
    ∃ after, value (m.materialize id) (⟨db, fault?⟩ : Guarded Database) =
        (.ok ⟨db.nextId⟩, ⟨after, fault?⟩) ∧
      db.Grown id s 1 after (s.put (m.stored ⟨db.nextId⟩)) ∧ after.nextId = db.nextId + 1 ∧
      after.journal = db.journal ++ (m.requests id ⟨db.nextId⟩).map Request.call := by
  obtain ⟨hmember, htype⟩ : fault? (.createMember id m.name m.offset m.size m.type.flags) = none ∧
      fault? (.setMemberType id ⟨db.nextId⟩ m.offset m.type.type) = none := by
    simpa [Member.requests] using Member.refused_eq_false.1 hpass
  obtain ⟨middle, hcreate, hgrown, hnext, hjournal⟩ := h.createMember_of_hasRoom hspare hs hroom
  obtain ⟨after, hset, hgrown', hnext', hjournal'⟩ :=
    hgrown.sound.setMemberType_untyped hgrown.get? (h.member_ne_next hs)
  refine ⟨after, ?_, hgrown.trans hgrown', hnext'.trans hnext, ?_⟩
  · have hcreated : Host.createMember id m.name m.offset m.size m.type.flags
        (⟨db, fault?⟩ : Guarded Database) = (.ok ⟨db.nextId⟩, ⟨middle, fault?⟩) :=
      Guarded.pass_of_none hmember hcreate
    have htyped : Host.setMemberType id ⟨db.nextId⟩ m.offset m.type.type
        (⟨middle, fault?⟩ : Guarded Database) = (.ok (), ⟨after, fault?⟩) :=
      Guarded.pass_of_none htype hset
    rw [Member.value_materialize, hcreated]
    dsimp only
    rw [htyped]
  · rw [hjournal', hjournal, List.append_assoc]
    rfl

/-- A member is refused at the first of its requests that the guard answers; it may have been
created then, but has no type. -/
theorem materialize_refused (h : db.Sound) (hspare : db.Spare 1) (hs : db.get? id = some s)
    (hroom : s.HasRoom m.name m.offset m.size) (hrefused : m.refused fault? id ⟨db.nextId⟩ = true) :
    ∃ before r later e after t, m.requests id ⟨db.nextId⟩ = before ++ r :: later ∧
      (∀ q ∈ before, fault? q = none) ∧ fault? r = some e ∧
      value (m.materialize id) (⟨db, fault?⟩ : Guarded Database) =
        (.error (.refusedMember m.path e), ⟨after, fault?⟩) ∧
      db.Grown id s 1 after t ∧ after.journal = db.journal ++ before.map Request.call := by
  let create : Request := .createMember id m.name m.offset m.size m.type.flags
  let type : Request := .setMemberType id ⟨db.nextId⟩ m.offset m.type.type
  rw [Member.value_materialize]
  cases hmember : fault? create with
  | some e =>
    have hunmade : Host.createMember id m.name m.offset m.size m.type.flags
        (⟨db, fault?⟩ : Guarded Database) = (.error e, ⟨db, fault?⟩) :=
      Guarded.pass_of_fault hmember
    refine ⟨[], create, [type], e, db, s, rfl, by simp, hmember, ?_, .refl h hs, by simp⟩
    rw [hunmade]
  | none =>
    have hone : (fault? create).isSome = true ∨ (fault? type).isSome = true := by
      simpa [Member.refused, Member.requests] using hrefused
    obtain ⟨e, htype⟩ := Option.isSome_iff_exists.1 (hone.resolve_left (by simp [hmember]))
    obtain ⟨middle, hcreate, hgrown, -, hjournal⟩ := h.createMember_of_hasRoom hspare hs hroom
    have hcreated : Host.createMember id m.name m.offset m.size m.type.flags
        (⟨db, fault?⟩ : Guarded Database) = (.ok ⟨db.nextId⟩, ⟨middle, fault?⟩) :=
      Guarded.pass_of_none hmember hcreate
    have huntyped : Host.setMemberType id ⟨db.nextId⟩ m.offset m.type.type
        (⟨middle, fault?⟩ : Guarded Database) = (.error e, ⟨middle, fault?⟩) :=
      Guarded.pass_of_fault htype
    refine ⟨[create], type, [], e, middle, _, rfl, by simpa using hmember, htype, ?_, hgrown,
      hjournal⟩
    rw [hcreated]
    dsimp only
    rw [huntyped]

/-! ### All members -/

/-- The members with the ids they get one after the other. -/
def numbered : UInt64 → List Member → List (Member × MemberId)
  | _, [] => []
  | next, m :: rest => (m, ⟨next⟩) :: numbered (next + 1) rest

theorem map_fst_numbered (next : UInt64) (members : List Member) :
    (numbered next members).map Prod.fst = members := by
  induction members generalizing next with
  | nil => rfl
  | cons m rest ih => rw [numbered, List.map_cons, ih]

/-- The requests that create the members and give them their types, one member after the other. -/
def memberRequests (id : StructId) (next : UInt64) (members : List Member) : List Request :=
  (numbered next members).flatMap fun x => x.1.requests id x.2

theorem memberRequests_cons (id : StructId) (next : UInt64) (m : Member) (rest : List Member) :
    memberRequests id next (m :: rest) =
      m.requests id ⟨next⟩ ++ memberRequests id (next + 1) rest := rfl

theorem createMembers_passed {members : List Member} (h : db.Sound)
    (hspare : db.Spare members.length) (hs : db.get? id = some s)
    (hroom : ∀ m ∈ members, s.HasRoom m.name m.offset m.size)
    (hapart : members.Pairwise Member.Apart)
    (hpass : ∀ x ∈ numbered db.nextId members, x.1.refused fault? id x.2 = false) :
    ∃ after t, value (createMembers id members) (⟨db, fault?⟩ : Guarded Database) =
        (.ok ((numbered db.nextId members).map fun x => (x.1.name, x.2)), ⟨after, fault?⟩) ∧
      db.Grown id s members.length after t ∧
      t.members.Perm ((numbered db.nextId members).map (fun x => x.1.stored x.2) ++ s.members) ∧
      after.journal = db.journal ++ (memberRequests id db.nextId members).map Request.call := by
  induction members generalizing db s with
  | nil => exact ⟨db, s, rfl, .refl h hs, .refl _, (List.append_nil _).symm⟩
  | cons m rest ih =>
    obtain ⟨hapartHead, hapartRest⟩ := List.pairwise_cons.1 hapart
    obtain ⟨hpassHead, hpassRest⟩ := List.forall_mem_cons.1 hpass
    have hspare' : db.Spare (1 + rest.length) := by
      rw [Nat.add_comm]
      exact hspare
    obtain ⟨middle, hm, hgrown, hnext, hjournal⟩ :=
      materialize_passed h (hspare'.mono (Nat.le_add_right _ _)) hs (hroom m (by simp)) hpassHead
    obtain ⟨after, t, hrest, hgrown', hperm, hjournal'⟩ :=
      ih hgrown.sound (hgrown.spare hspare') hgrown.get?
        (fun b hb => (hroom b (by simp [hb])).put (hapartHead b hb) _) hapartRest
        (by rw [hnext]; exact hpassRest)
    -- a member takes one id, so the rest is numbered from the id behind that of the head
    rw [hnext] at hrest hperm hjournal'
    refine ⟨after, t, ?_, (hgrown.trans hgrown').mono (Nat.add_comm _ _).le, ?_, ?_⟩
    · rw [value_createMembers_cons, hm]
      dsimp only
      rw [hrest]
      rfl
    · have hput : (s.put (m.stored ⟨db.nextId⟩)).members.Perm
          (m.stored ⟨db.nextId⟩ :: s.members) := Database.insertMember_perm _ _
      exact hperm.trans ((hput.append_left _).trans List.perm_middle)
    · rw [hjournal', hjournal, memberRequests_cons, List.map_append, List.append_assoc]

/-- The first member that is refused is the one named, and the requests before its refused one have
been passed on. -/
theorem createMembers_refused {members : List Member} (h : db.Sound)
    (hspare : db.Spare members.length) (hs : db.get? id = some s)
    (hroom : ∀ m ∈ members, s.HasRoom m.name m.offset m.size)
    (hapart : members.Pairwise Member.Apart) {member : MemberId}
    (hrefused : (numbered db.nextId members).find? (fun x => x.1.refused fault? id x.2) =
      some (m, member)) :
    ∃ before r later e after t,
      memberRequests id db.nextId members = before ++ r :: later ∧
      (∀ q ∈ before, fault? q = none) ∧ fault? r = some e ∧ r ∈ m.requests id member ∧
      value (createMembers id members) (⟨db, fault?⟩ : Guarded Database) =
        (.error (m, .refusedMember m.path e), ⟨after, fault?⟩) ∧
      db.Grown id s members.length after t ∧
      after.journal = db.journal ++ before.map Request.call := by
  induction members generalizing db s with
  | nil => simp [numbered] at hrefused
  | cons head rest ih =>
    obtain ⟨hapartHead, hapartRest⟩ := List.pairwise_cons.1 hapart
    have hspare' : db.Spare (1 + rest.length) := by
      rw [Nat.add_comm]
      exact hspare
    have hspareOne := hspare'.mono (Nat.le_add_right _ _)
    rw [numbered] at hrefused
    rw [value_createMembers_cons, memberRequests_cons]
    by_cases hhead : head.refused fault? id ⟨db.nextId⟩ = true
    · rw [List.find?_cons_of_pos (by exact hhead)] at hrefused
      cases hrefused
      obtain ⟨before, r, later, e, after, t, hrequests, hbefore, hr, hvalue, hgrown, hjournal⟩ :=
        materialize_refused h hspareOne hs (hroom m (by simp)) hhead
      refine ⟨before, r, later ++ memberRequests id (db.nextId + 1) rest, e, after, t, ?_, hbefore,
        hr, ?_, ?_, hgrown.mono (Nat.succ_le_succ (Nat.zero_le _)), hjournal⟩
      · rw [hrequests, List.append_assoc, List.cons_append]
      · rw [hrequests]
        exact List.mem_append_right _ List.mem_cons_self
      · rw [hvalue]
    · -- the head goes through, so what is cut is cut behind its requests
      rw [List.find?_cons_of_neg (by exact hhead)] at hrefused
      rw [Bool.not_eq_true] at hhead
      obtain ⟨middle, hvalue, hgrown, hnext, hjournal⟩ :=
        materialize_passed h hspareOne hs (hroom head (by simp)) hhead
      obtain ⟨before, r, later, e, after, t, hrequests, hbefore, hr, hmem, hrest, hgrown',
        hjournal'⟩ := ih hgrown.sound (hgrown.spare hspare') hgrown.get?
          (fun b hb => (hroom b (by simp [hb])).put (hapartHead b hb) _) hapartRest
          (by rw [hnext]; exact hrefused)
      rw [hnext] at hrequests
      refine ⟨head.requests id ⟨db.nextId⟩ ++ before, r, later, e, after, t, ?_, ?_, hr, hmem, ?_,
        (hgrown.trans hgrown').mono (Nat.add_comm _ _).le, ?_⟩
      · rw [hrequests, List.append_assoc]
      · intro q hq
        rcases List.mem_append.1 hq with hq | hq
        · exact Member.refused_eq_false.1 hhead q hq
        · exact hbefore q hq
      · rw [hvalue]
        dsimp only
        rw [hrest]
      · rw [hjournal', hjournal, List.map_append, List.append_assoc]

theorem forall_memberRequests {next : UInt64} {members : List Member} :
    (∀ r ∈ memberRequests id next members, fault? r = none) ↔
      ∀ x ∈ numbered next members, x.1.refused fault? id x.2 = false := by
  simp only [memberRequests, List.mem_flatMap, Member.refused_eq_false]
  exact ⟨fun h x hx r hr => h r ⟨x, hx, hr⟩, fun h r ⟨x, hx, hr⟩ => h x hx r hr⟩

end

/-! ### The whole struct -/

namespace Descriptor

variable {db : Database} {fault? : Request → Option HostError} {d : Descriptor}

/-- The struct of that descriptor without its members, under the next id. -/
def blank (d : Descriptor) (db : Database) : StoredStruct := ⟨⟨db.nextId⟩, d.name, []⟩

/-- The requests that create the struct with its members, if ids are given from `next` on. -/
def creationRequests (d : Descriptor) (next : UInt64) : List Request :=
  .createStruct d.name :: memberRequests ⟨next⟩ (next + 1) d.layout.members

theorem createStruct_blank (h : db.Sound) (hspare : db.Spare 1)
    (hfree : db.findByName? d.name = none) :
    ∃ begun, db.createStruct d.name = .ok (⟨db.nextId⟩, begun) ∧
      db.Grown ⟨db.nextId⟩ (d.blank db) 1 begun (d.blank db) := by
  have hok := Database.createStruct_eq_ok.2 ⟨hfree, rfl, rfl⟩
  have hnext := hspare.toNat_next
  exact ⟨_, hok, h.createStruct hspare hok, rfl, rfl, rfl, rfl,
    by rw [hnext]; exact Nat.le_succ _, by rw [hnext], List.prefix_append _ _⟩

/-- A struct is begun if its name is free and the guard passes its creation on. -/
theorem create_begun (h : db.Sound) (hspare : db.Spare 1) (hfree : db.findByName? d.name = none)
    (hbegin : fault? (.createStruct d.name) = none) :
    ∃ begun, Host.createStruct d.name (⟨db, fault?⟩ : Guarded Database) =
        (.ok ⟨db.nextId⟩, ⟨begun, fault?⟩) ∧
      db.Grown ⟨db.nextId⟩ (d.blank db) 1 begun (d.blank db) ∧ begun.nextId = db.nextId + 1 ∧
      begun.journal = db.journal ++ [.createStruct d.name] := by
  obtain ⟨begun, hok, hgrown⟩ := createStruct_blank h hspare hfree
  obtain ⟨-, -, hbegun⟩ := Database.createStruct_eq_ok.1 hok
  refine ⟨begun, Guarded.pass_of_none hbegin (congrArg db.settle hok), hgrown, ?_, ?_⟩
  · rw [hbegun]
  · rw [hbegun]

theorem create_passed (h : db.Sound) (hspare : db.Spare (d.layout.members.length + 1))
    (hfree : db.findByName? d.name = none)
    (hpass : ∀ r ∈ d.creationRequests db.nextId, fault? r = none) :
    ∃ after t, value d.create (⟨db, fault?⟩ : Guarded Database) =
        ((.ok ⟨db.nextId⟩, { d with
          bindings := (numbered (db.nextId + 1) d.layout.members).map fun x => (x.1.name, x.2)
          state := .materialized ⟨db.nextId⟩ }), ⟨after, fault?⟩) ∧
      db.Grown ⟨db.nextId⟩ (d.blank db) (d.layout.members.length + 1) after t ∧
      t.members.Perm ((numbered (db.nextId + 1) d.layout.members).map fun x => x.1.stored x.2) ∧
      after.journal = db.journal ++ (d.creationRequests db.nextId).map Request.call := by
  rw [Nat.add_comm] at hspare
  obtain ⟨hbegin, hmembers⟩ := List.forall_mem_cons.1 hpass
  obtain ⟨begun, hcreate, hbegun, hnext, hjournal⟩ :=
    create_begun h (hspare.mono (Nat.le_add_right _ _)) hfree hbegin
  obtain ⟨after, t, hvalue, hgrown, hperm, hjournal'⟩ :=
    createMembers_passed hbegun.sound (hbegun.spare hspare) hbegun.get?
      (fun m _ => StoredStruct.hasRoom_nil _ _ m) d.layout.apart
      (by rw [hnext]; exact forall_memberRequests.1 hmembers)
  rw [hnext] at hvalue hperm hjournal'
  refine ⟨after, t, ?_, (hbegun.trans hgrown).mono (Nat.add_comm _ _).le, ?_, ?_⟩
  · rw [value_create, hcreate]
    dsimp only
    rw [hvalue]
  · simpa [blank] using hperm
  · rw [hjournal', hjournal, List.append_assoc]
    rfl

/-- The deletion of a partial struct, if the guard passes it on. -/
def rollBack (fault? : Request → Option HostError) (id : StructId) : List HostCall :=
  if fault? (.deleteStruct id) = none then [.deleteStruct id] else []

theorem deleteStruct_guarded (fault? : Request → Option HostError) {id : StructId}
    {t : StoredStruct} (ht : db.get? id = some t) :
    ∃ after, (Host.deleteStruct id (⟨db, fault?⟩ : Guarded Database)).2 = ⟨after, fault?⟩ ∧
      after.journal = db.journal ++ rollBack fault? id ∧
      after.structs =
        if fault? (.deleteStruct id) = none then db.structs.erase id.value else db.structs := by
  cases hdelete : fault? (.deleteStruct id) with
  | some e =>
    have hkept : Host.deleteStruct id (⟨db, fault?⟩ : Guarded Database) =
        (.error e, ⟨db, fault?⟩) := Guarded.pass_of_fault hdelete
    exact ⟨db, by rw [hkept], by simp [rollBack, hdelete], rfl⟩
  | none =>
    have hok := Database.deleteStruct_eq_ok.2 ⟨by rw [ht]; rfl, rfl⟩
    have hdeleted : Host.deleteStruct id (⟨db, fault?⟩ : Guarded Database) =
        (.ok (), ⟨_, fault?⟩) :=
      Guarded.pass_of_none hdelete (Database.host_deleteStruct_eq_ok.2 hok)
    exact ⟨_, by rw [hdeleted], by simp [rollBack, hdelete], rfl⟩

theorem create_refused (h : db.Sound) (hspare : db.Spare (d.layout.members.length + 1))
    (hfree : db.findByName? d.name = none) (hbegin : fault? (.createStruct d.name) = none)
    {m : Member} {member : MemberId}
    (hrefused : (numbered (db.nextId + 1) d.layout.members).find?
      (fun x => x.1.refused fault? ⟨db.nextId⟩ x.2) = some (m, member)) :
    ∃ before r later e after t,
      d.creationRequests db.nextId = before ++ r :: later ∧ (∀ q ∈ before, fault? q = none) ∧
      fault? r = some e ∧ r ∈ m.requests ⟨db.nextId⟩ member ∧
      value d.create (⟨db, fault?⟩ : Guarded Database) =
        ((.error (.refusedMember m.path e), { d with bindings := [] }), ⟨after, fault?⟩) ∧
      after.journal = db.journal ++ before.map Request.call ++ rollBack fault? ⟨db.nextId⟩ ∧
      t.id = ⟨db.nextId⟩ ∧ t.name = d.name ∧ after.structs =
        if fault? (.deleteStruct ⟨db.nextId⟩) = none then db.structs
        else db.structs.insert db.nextId t := by
  rw [Nat.add_comm] at hspare
  obtain ⟨begun, hcreate, hbegun, hnext, hjournal⟩ :=
    create_begun h (hspare.mono (Nat.le_add_right _ _)) hfree hbegin
  obtain ⟨before, r, later, e, partly, t, hrequests, hbefore, hr, hmem, hvalue, hgrown,
    hjournal'⟩ :=
    createMembers_refused hbegun.sound (hbegun.spare hspare) hbegun.get?
      (fun m _ => StoredStruct.hasRoom_nil _ _ m) d.layout.apart (by rw [hnext]; exact hrefused)
  have hall := hbegun.trans hgrown
  obtain ⟨after, hdelete, hdeleted, hstructs⟩ := deleteStruct_guarded fault? hall.get?
  rw [hnext] at hrequests
  refine ⟨.createStruct d.name :: before, r, later, e, after, t, ?_, ?_, hr, hmem, ?_, ?_, hall.id,
    hall.name, ?_⟩
  · rw [creationRequests, hrequests]
    rfl
  · exact List.forall_mem_cons.2 ⟨hbegin, hbefore⟩
  · rw [value_create, hcreate]
    dsimp only
    rw [hvalue]
    dsimp only
    rw [hdelete]
  · rw [hdeleted, hjournal', hjournal, List.append_assoc db.journal]
    rfl
  · rw [hstructs, hall.structs, WordMap.erase_insert h.get?_next]

end Descriptor

end StructSync
