import Mathlib
import StructSync.Proofs.Database.Requests

/-!
# Sound databases

`Database.Sound`: every struct is stored under its own id, names are given once, ids are given once
and lie below the counter, and the members of every struct are sound. Every request keeps this as
long as the counter has ids left (`Spare`), so it holds of every database that requests can make
(`Reachable`).
-/

namespace StructSync

namespace Database

/-- What holds of every database that was made by requests. -/
structure Sound (db : Database) : Prop where
  key : ∀ {k s}, db.structs.get? k = some s → s.id.value = k
  names : ∀ {k l s t}, db.structs.get? k = some s → db.structs.get? l = some t →
    s.name = t.name → k = l
  lt_next : ∀ {k s}, db.structs.get? k = some s → k.toNat < db.nextId.toNat
  members : ∀ {k s}, db.structs.get? k = some s → s.Sound
  member_lt : ∀ {k s m}, db.structs.get? k = some s → m ∈ s.members →
    m.id.value.toNat < db.nextId.toNat
  member_ne : ∀ {k l s t m}, db.structs.get? k = some s → db.structs.get? l = some t →
    m ∈ s.members → m.id.value ≠ l
  owner : ∀ {k l s t a b}, db.structs.get? k = some s → db.structs.get? l = some t →
    a ∈ s.members → b ∈ t.members → a.id = b.id → k = l

/-- The counter can give out that many more ids. -/
def Spare (db : Database) (n : Nat) : Prop := db.nextId.toNat + n < UInt64.size

/-- A struct that can be put under its id, in the place of the one that has it if any: no other
struct has its name, and its ids and its members' are no other struct's or struct's members'. -/
structure Admits (db : Database) (next : UInt64) (t : StoredStruct) : Prop where
  sound : t.Sound
  lt_next : t.id.value.toNat < next.toNat
  name : ∀ {l u}, db.structs.get? l = some u → u.name = t.name → l = t.id.value
  member_lt : ∀ m ∈ t.members, m.id.value.toNat < next.toNat
  member_ne_id : ∀ m ∈ t.members, m.id.value ≠ t.id.value
  member_ne : ∀ m ∈ t.members, ∀ {l u}, db.structs.get? l = some u → m.id.value ≠ l
  ne_member : ∀ {l u m}, db.structs.get? l = some u → m ∈ u.members →
    m.id.value ≠ t.id.value
  owner : ∀ a ∈ t.members, ∀ {l u b}, db.structs.get? l = some u → b ∈ u.members →
    a.id = b.id → l = t.id.value

variable {db db' : Database} {name : String} {id : StructId} {s t : StoredStruct}

theorem Spare.mono {m n : Nat} (h : db.Spare n) (hm : m ≤ n) : db.Spare m := by
  unfold Spare at *
  omega

theorem Spare.of_next_eq {n : Nat} (h : db.Spare n) (hnext : db'.nextId = db.nextId) :
    db'.Spare n := by
  unfold Spare at *
  rwa [hnext]

theorem Spare.toNat_next (h : db.Spare 1) : (db.nextId + 1).toNat = db.nextId.toNat + 1 :=
  toNat_add_of_lt h

/-! ### Looking structs up by name -/

theorem mem_of_findByName? (h : db.findByName? name = some s) :
    (∃ k, db.structs.get? k = some s) ∧ s.name = name :=
  ⟨WordMap.mem_values.1 (List.mem_of_find?_eq_some h), by simpa using List.find?_some h⟩

theorem findByName?_eq_none : db.findByName? name = none ↔
    ∀ k s, db.structs.get? k = some s → s.name ≠ name := by
  unfold findByName?
  rw [List.find?_eq_none]
  constructor
  · intro h k s hs he
    exact h s (WordMap.mem_values.2 ⟨k, hs⟩) (by simpa using he)
  · intro h s hs he
    obtain ⟨k, hk⟩ := WordMap.mem_values.1 hs
    exact h k s hk (by simpa using he)

namespace Sound

theorem findByName?_eq_some (h : db.Sound) :
    db.findByName? name = some s ↔ db.get? s.id = some s ∧ s.name = name := by
  constructor
  · intro hs
    obtain ⟨⟨k, hk⟩, hname⟩ := mem_of_findByName? hs
    exact ⟨by rw [get?, h.key hk, hk], hname⟩
  · rintro ⟨hs, hname⟩
    cases hfind : db.findByName? name with
    | none => exact absurd hname (findByName?_eq_none.1 hfind _ _ hs)
    | some t =>
      obtain ⟨⟨k, hk⟩, htname⟩ := mem_of_findByName? hfind
      have hkey : k = s.id.value := h.names hk hs (htname.trans hname.symm)
      rw [← hk, hkey]
      exact hs

theorem get?_id (h : db.Sound) (hs : db.get? id = some s) : s.id = id := by
  have := h.key hs
  cases hid : s.id
  cases id
  simp_all

theorem get?_next (h : db.Sound) : db.structs.get? db.nextId = none :=
  Option.eq_none_iff_forall_ne_some.2 fun _ hs => Nat.lt_irrefl _ (h.lt_next hs)

theorem member_ne_next (h : db.Sound) (hs : db.get? id = some s) :
    ∀ m ∈ s.members, m.id ≠ ⟨db.nextId⟩ := by
  intro m hm hid
  have hlt := h.member_lt hs hm
  rw [hid] at hlt
  exact Nat.lt_irrefl _ hlt

/-! ### What requests keep -/

theorem empty (pointerSize : UInt64) : (Database.empty pointerSize).Sound := by
  constructor <;> simp [Database.empty]

theorem of_eq (h : db.Sound) (hstructs : db'.structs = db.structs)
    (hnext : db'.nextId = db.nextId) : db'.Sound := by
  refine ⟨?_, ?_, ?_, ?_, ?_, ?_, ?_⟩ <;> simp only [hstructs, hnext]
  exacts [h.key, h.names, h.lt_next, h.members, h.member_lt, h.member_ne, h.owner]

theorem clearJournal (h : db.Sound) : db.clearJournal.Sound := h.of_eq rfl rfl

theorem insert (h : db.Sound) (hadmits : db.Admits db'.nextId t)
    (hstructs : db'.structs = db.structs.insert t.id.value t)
    (hle : db.nextId.toNat ≤ db'.nextId.toNat) : db'.Sound := by
  have hget : ∀ {k u}, db'.structs.get? k = some u →
      k = t.id.value ∧ u = t ∨ k ≠ t.id.value ∧ db.structs.get? k = some u := by
    intro k u hu
    rw [hstructs, WordMap.get?_insert] at hu
    split at hu
    · exact .inl ⟨‹_›, (Option.some.inj hu).symm⟩
    · exact .inr ⟨‹_›, hu⟩
  constructor
  case key =>
    intro k u hu
    rcases hget hu with ⟨rfl, rfl⟩ | ⟨-, hu⟩
    · rfl
    · exact h.key hu
  case names =>
    intro k l u v hu hv huv
    rcases hget hu with ⟨rfl, rfl⟩ | ⟨-, hu⟩ <;> rcases hget hv with ⟨rfl, rfl⟩ | ⟨-, hv⟩
    · rfl
    · exact (hadmits.name hv huv.symm).symm
    · exact hadmits.name hu huv
    · exact h.names hu hv huv
  case lt_next =>
    intro k u hu
    rcases hget hu with ⟨rfl, -⟩ | ⟨-, hu⟩
    · exact hadmits.lt_next
    · exact Nat.lt_of_lt_of_le (h.lt_next hu) hle
  case members =>
    intro k u hu
    rcases hget hu with ⟨-, rfl⟩ | ⟨-, hu⟩
    · exact hadmits.sound
    · exact h.members hu
  case member_lt =>
    intro k u m hu hm
    rcases hget hu with ⟨-, rfl⟩ | ⟨-, hu⟩
    · exact hadmits.member_lt m hm
    · exact Nat.lt_of_lt_of_le (h.member_lt hu hm) hle
  case member_ne =>
    intro k l u v m hu hv hm
    rcases hget hu with ⟨-, rfl⟩ | ⟨-, hu⟩ <;> rcases hget hv with ⟨rfl, rfl⟩ | ⟨-, hv⟩
    · exact hadmits.member_ne_id m hm
    · exact hadmits.member_ne m hm hv
    · exact hadmits.ne_member hu hm
    · exact h.member_ne hu hv hm
  case owner =>
    intro k l u v a b hu hv ha hb hab
    rcases hget hu with ⟨rfl, rfl⟩ | ⟨-, hu⟩ <;> rcases hget hv with ⟨rfl, rfl⟩ | ⟨-, hv⟩
    · rfl
    · exact (hadmits.owner a ha hv hb hab).symm
    · exact hadmits.owner b hb hu ha hab.symm
    · exact h.owner hu hv ha hb hab

theorem createStruct (h : db.Sound) (hspare : db.Spare 1)
    (hdb : db.createStruct name = .ok (id, db')) : db'.Sound := by
  obtain ⟨hname, rfl, rfl⟩ := createStruct_eq_ok.1 hdb
  have hnext := hspare.toNat_next
  refine h.insert (t := ⟨⟨db.nextId⟩, name, []⟩) ?_ rfl (hnext ▸ Nat.le_succ _)
  exact {
    sound := .nil _ _
    lt_next := hnext ▸ Nat.lt_succ_self _
    name := fun hu hun => absurd hun (findByName?_eq_none.1 hname _ _ hu)
    ne_member := fun hu hm he => Nat.lt_irrefl _ (he ▸ h.member_lt hu hm)
    member_lt := nofun
    member_ne_id := nofun
    member_ne := nofun
    owner := nofun }

theorem of_get? (h : db.Sound) (hnext : db'.nextId = db.nextId)
    (hsub : ∀ {k s}, db'.structs.get? k = some s → db.structs.get? k = some s) : db'.Sound where
  key hs := h.key (hsub hs)
  names hs ht := h.names (hsub hs) (hsub ht)
  lt_next hs := hnext ▸ h.lt_next (hsub hs)
  members hs := h.members (hsub hs)
  member_lt hs := hnext ▸ h.member_lt (hsub hs)
  member_ne hs ht := h.member_ne (hsub hs) (hsub ht)
  owner hs ht := h.owner (hsub hs) (hsub ht)

theorem deleteStruct (h : db.Sound) (hdb : db.deleteStruct id = .ok db') : db'.Sound := by
  obtain ⟨-, rfl⟩ := deleteStruct_eq_ok.1 hdb
  refine h.of_get? rfl fun {k s} hs => ?_
  rw [WordMap.get?_erase] at hs
  split at hs
  · cases hs
  · exact hs

/-- The name of a struct that is deleted is free then, as no other struct has had it. -/
theorem name_free_of_deleteStruct (h : db.Sound) (hs : db.get? id = some s)
    (hdb : db.deleteStruct id = .ok db') : db'.findByName? s.name = none := by
  obtain ⟨-, rfl⟩ := deleteStruct_eq_ok.1 hdb
  refine findByName?_eq_none.2 fun k t ht hname => ?_
  rw [WordMap.get?_erase] at ht
  split at ht
  · cases ht
  · exact absurd (h.names ht hs hname) ‹_›

/-- Putting a struct in the place of the one of its id and name: its members are sound, and each
has the id of a member it had before or of none at all. -/
theorem replace (h : db.Sound) (hs : db.get? id = some s)
    (hstructs : db'.structs = db.structs.insert id.value t) (ht : t.Sound) (hid : t.id = s.id)
    (hname : t.name = s.name) (hle : db.nextId.toNat ≤ db'.nextId.toNat)
    (hmembers : ∀ m ∈ t.members, (∃ x ∈ s.members, x.id = m.id) ∨
      db.nextId.toNat ≤ m.id.value.toNat ∧ m.id.value.toNat < db'.nextId.toNat) : db'.Sound := by
  obtain rfl : t.id = id := hid.trans (h.get?_id hs)
  -- a new member has an id that no stored struct has
  have hne : ∀ m ∈ t.members, ∀ {l u}, db.structs.get? l = some u → m.id.value ≠ l := by
    intro m hm l u hu
    rcases hmembers m hm with ⟨x, hx, hxm⟩ | ⟨hge, -⟩
    · exact hxm ▸ h.member_ne hs hu hx
    · rintro rfl
      exact Nat.not_lt.2 hge (h.lt_next hu)
  refine h.insert ?_ hstructs hle
  constructor
  case sound => exact ht
  case lt_next => exact Nat.lt_of_lt_of_le (h.lt_next hs) hle
  case name => exact fun hu hun => h.names hu hs (hun.trans hname)
  case member_lt =>
    intro m hm
    rcases hmembers m hm with ⟨x, hx, hxm⟩ | ⟨-, hlt⟩
    · exact Nat.lt_of_lt_of_le (hxm ▸ h.member_lt hs hx) hle
    · exact hlt
  case member_ne_id => exact fun m hm => hne m hm hs
  case member_ne => exact hne
  case ne_member => exact fun hu hm => h.member_ne hu hs hm
  case owner =>
    intro a ha l u b hu hb hab
    rcases hmembers a ha with ⟨x, hx, hxa⟩ | ⟨hge, -⟩
    · exact (h.owner hs hu hx hb (hxa.trans hab)).symm
    · exact absurd (h.member_lt hu hb) (Nat.not_lt.2 (hab ▸ hge))

theorem createMember (h : db.Sound) (hspare : db.Spare 1) {offset size : UInt64}
    {flags : DataFlags} {member : MemberId}
    (hdb : db.createMember id name offset size flags = .ok (member, db')) : db'.Sound := by
  obtain ⟨s, hs, hroom, rfl, rfl⟩ := createMember_eq_ok.1 hdb
  have hnext := hspare.toNat_next
  have hsound := h.members hs
  have hfree : ∀ x ∈ s.members,
      x.stopNat ≤ offset.toNat ∨ offset.toNat + size.toNat ≤ x.offset.toNat := fun x hx =>
    (hsound.fits x hx).toNat_stop ▸ hroom.free x hx
  refine h.replace hs rfl ?_ rfl rfl ?_ ?_
  · exact hsound.insertMember ⟨hroom.sized, hroom.fits⟩ hroom.name (h.member_ne_next hs) hfree
  · rw [hnext]
    exact Nat.le_succ _
  · intro m hm
    rcases mem_insertMember.1 hm with rfl | hm
    · exact .inr ⟨Nat.le_refl _, by rw [hnext]; exact Nat.lt_succ_self _⟩
    · exact .inl ⟨m, hm, rfl⟩

theorem setMemberType (h : db.Sound) {member : MemberId} {offset : UInt64} {type : CType}
    (hdb : db.setMemberType id member offset type = .ok db') : db'.Sound := by
  obtain ⟨s, -, hs, -, -, -, rfl⟩ := setMemberType_eq_ok.1 hdb
  refine h.replace hs rfl ((h.members hs).putTypeName member type.name) rfl rfl (Nat.le_refl _) ?_
  intro m hm
  have hids : (putTypeName member type.name s.members).map (·.id) = s.members.map (·.id) :=
    map_putTypeName _ (fun _ _ => rfl) _ _
  have hmem : m.id ∈ s.members.map (·.id) := hids ▸ List.mem_map_of_mem hm
  obtain ⟨x, hx, hxm⟩ := List.mem_map.1 hmem
  exact .inl ⟨x, hx, hxm⟩

end Sound

end Database

end StructSync
