import Mathlib
import StructSync.Proofs.Database.Reachable

/-!
# Ids, names and ranges of a database

A sound database says two things that have nothing to do with each other. Its ids and names are
told apart (`Database.Identified`): every struct is stored under its own id, no name is given twice,
and the ids of structs and members, all in one list, are different and below the counter. And its
members share no byte (`Database.Ranged`). `sound_iff` puts the two together; main statement
(`Database.Reachable.invariant`): both hold of every database that requests can make, so the size of
a struct is the end of its last member and what the host reports of a member is exact.
-/

namespace StructSync

/-- The ids that a struct takes: its own and those of its members. -/
def StoredStruct.ids (s : StoredStruct) : List UInt64 := s.id.value :: s.members.map (·.id.value)

namespace Database

/-- The ids that are taken. -/
def ids (db : Database) : List UInt64 := db.structs.values.flatMap StoredStruct.ids

/-- Ids and names are told apart. -/
structure Identified (db : Database) : Prop where
  key : ∀ k s, db.structs.get? k = some s → s.id.value = k
  names : (db.structs.values.map (·.name)).Nodup
  memberNames : ∀ s ∈ db.structs.values, (s.members.map (·.name)).Nodup
  ids : db.ids.Nodup
  below : ∀ id ∈ db.ids, id < db.nextId

/-- The members of every struct have ranges as a request gives them. -/
def Ranged (db : Database) : Prop := ∀ s ∈ db.structs.values, s.Ranged

variable {db : Database} {k l : UInt64} {s t : StoredStruct} {m : StoredMember}

theorem nodup_names : (db.structs.values.map (·.name)).Nodup ↔
    ∀ ⦃k l s t⦄, db.structs.get? k = some s → db.structs.get? l = some t → k ≠ l →
      s.name ≠ t.name := by
  rw [List.Nodup, List.pairwise_map]
  exact WordMap.pairwise_values Ne.symm

theorem nodup_memberIds :
    (s.members.map (·.id.value)).Nodup ↔ (s.members.map (·.id)).Nodup := by
  have hinj : Function.Injective MemberId.value := fun a b hab => by
    cases a
    cases b
    exact congrArg MemberId.mk hab
  rw [← List.nodup_map_iff hinj, List.map_map]
  rfl

theorem nodup_ids : db.ids.Nodup ↔ (∀ s ∈ db.structs.values, s.ids.Nodup) ∧
    ∀ ⦃k l s t⦄, db.structs.get? k = some s → db.structs.get? l = some t → k ≠ l →
      s.ids.Disjoint t.ids := by
  rw [ids, List.nodup_flatMap]
  exact and_congr_right fun _ => WordMap.pairwise_values List.Disjoint.symm

namespace Identified

theorem id_below (h : db.Identified) (hs : db.structs.get? k = some s) {id : UInt64}
    (hid : id ∈ s.ids) : id.toNat < db.nextId.toNat :=
  UInt64.lt_iff_toNat_lt.1
    (h.below id (List.mem_flatMap.2 ⟨s, WordMap.mem_values.2 ⟨k, hs⟩, hid⟩))

theorem eq_of_mem_ids (h : db.Identified) (hs : db.structs.get? k = some s)
    (ht : db.structs.get? l = some t) {id : UInt64} (hsid : id ∈ s.ids) (htid : id ∈ t.ids) :
    k = l := by
  by_contra hne
  exact (nodup_ids.1 h.ids).2 hs ht hne hsid htid

theorem nodup_own (h : db.Identified) (hs : db.structs.get? k = some s) : s.ids.Nodup :=
  (nodup_ids.1 h.ids).1 s (WordMap.mem_values.2 ⟨k, hs⟩)

theorem sound (h : db.Identified) (hranged : db.Ranged) : db.Sound where
  key hs := h.key _ _ hs
  names hs ht hname := by
    by_contra hne
    exact nodup_names.1 h.names hs ht hne hname
  lt_next {k s} hs := by
    have hmem : k ∈ s.ids := by simp [StoredStruct.ids, h.key k s hs]
    exact h.id_below hs hmem
  members {k s} hs := by
    have hmem : s ∈ db.structs.values := WordMap.mem_values.2 ⟨k, hs⟩
    have hids : (s.members.map (·.id)).Nodup :=
      nodup_memberIds.1 (List.nodup_cons.1 (h.nodup_own hs)).2
    exact StoredStruct.sound_iff.2 ⟨hranged s hmem, h.memberNames s hmem, hids⟩
  member_lt hs hm := h.id_below hs (List.mem_cons_of_mem _ (List.mem_map_of_mem hm))
  member_ne {k l s t m} hs ht hm he := by
    have hmem : m.id.value ∈ s.members.map (·.id.value) := List.mem_map_of_mem hm
    have htid : m.id.value ∈ t.ids := by simp [StoredStruct.ids, h.key l t ht, he]
    obtain rfl := h.eq_of_mem_ids hs ht (List.mem_cons_of_mem _ hmem) htid
    have hself : m.id.value = s.id.value := he.trans (h.key k s hs).symm
    exact (List.nodup_cons.1 (h.nodup_own hs)).1 (hself ▸ hmem)
  owner {k l s t a b} hs ht ha hb hab := by
    have hsid : a.id.value ∈ s.ids := List.mem_cons_of_mem _ (List.mem_map_of_mem ha)
    have htid : b.id.value ∈ t.ids := List.mem_cons_of_mem _ (List.mem_map_of_mem hb)
    exact h.eq_of_mem_ids hs ht hsid (hab ▸ htid)

end Identified

namespace Sound

theorem ranged (h : db.Sound) : db.Ranged := by
  intro s hs
  obtain ⟨k, hk⟩ := WordMap.mem_values.1 hs
  exact (h.members hk).ranged

theorem mem_ids_lt (h : db.Sound) (hs : db.structs.get? k = some s) {id : UInt64}
    (hid : id ∈ s.ids) : id.toNat < db.nextId.toNat := by
  rcases List.mem_cons.1 hid with rfl | hid
  · rw [h.key hs]
    exact h.lt_next hs
  · obtain ⟨m, hm, rfl⟩ := List.mem_map.1 hid
    exact h.member_lt hs hm

theorem ids_nodup (h : db.Sound) (hs : db.structs.get? k = some s) : s.ids.Nodup := by
  refine List.nodup_cons.2 ⟨?_, ?_⟩
  · intro hmem
    obtain ⟨m, hm, hid⟩ := List.mem_map.1 hmem
    exact h.member_ne hs hs hm (hid.trans (h.key hs))
  · exact nodup_memberIds.2 (h.members hs).ids

theorem ids_disjoint (h : db.Sound) (hs : db.structs.get? k = some s)
    (ht : db.structs.get? l = some t) (hne : k ≠ l) : s.ids.Disjoint t.ids := by
  intro id hsid htid
  -- on either side the id is that of the struct or of a member
  rcases List.mem_cons.1 hsid with rfl | hsid <;> rcases List.mem_cons.1 htid with he | htid
  · exact hne ((h.key hs).symm.trans (he.trans (h.key ht)))
  · obtain ⟨m, hm, he⟩ := List.mem_map.1 htid
    exact h.member_ne ht hs hm (he.trans (h.key hs))
  · obtain ⟨m, hm, hid⟩ := List.mem_map.1 hsid
    exact h.member_ne hs ht hm (hid.trans (he.trans (h.key ht)))
  · obtain ⟨a, ha, haid⟩ := List.mem_map.1 hsid
    obtain ⟨b, hb, hbid⟩ := List.mem_map.1 htid
    have hab : a.id = b.id := by
      cases ha' : a.id
      cases hb' : b.id
      simp_all
    exact hne (h.owner hs ht ha hb hab)

theorem identified (h : db.Sound) : db.Identified where
  key _ _ hs := h.key hs
  names := nodup_names.2 fun _ _ _ _ hs ht hne hname => hne (h.names hs ht hname)
  memberNames s hs := by
    obtain ⟨k, hk⟩ := WordMap.mem_values.1 hs
    exact (h.members hk).names
  ids := by
    refine nodup_ids.2 ⟨fun s hs => ?_, fun k l s t hs ht hne => h.ids_disjoint hs ht hne⟩
    obtain ⟨k, hk⟩ := WordMap.mem_values.1 hs
    exact h.ids_nodup hk
  below id hid := by
    obtain ⟨s, hs, hid⟩ := List.mem_flatMap.1 hid
    obtain ⟨k, hk⟩ := WordMap.mem_values.1 hs
    exact UInt64.lt_iff_toNat_lt.2 (h.mem_ids_lt hk hid)

end Sound

/-! ### What a host says of ranges -/

theorem pairwise_ranged (h : s.Ranged) : s.members.Pairwise fun a b =>
    a.offset < b.offset ∧ a.offset.toNat + a.size.toNat ≤ b.offset.toNat := by
  exact (h.offset_lt.and h.ascending).imp fun hab => ⟨UInt64.lt_iff_toNat_lt.2 hab.1, hab.2⟩

/-- No end is clamped on the way to the one who asks. -/
theorem map_reported (h : s.Ranged) :
    (reported s).map (fun m => (m.id, m.name, m.start.toNat, m.stop.toNat)) =
      s.members.map fun m => (m.id, m.name, m.offset.toNat, m.offset.toNat + m.size.toNat) := by
  rw [reported, List.map_map]
  refine List.map_congr_left fun m hm => ?_
  show (m.id, m.name, m.offset.toNat, m.stop.toNat) = _
  rw [(h.fits m hm).toNat_stop]
  rfl

/-- Whatever requests were made, ids and names are told apart, members share no byte, and what the
host says of sizes and ranges is exact. -/
theorem Reachable.invariant (h : Reachable db) :
    db.Identified ∧ ∀ s ∈ db.structs.values,
      (∀ m ∈ s.members, 0 < m.size ∧ m.offset.toNat + m.size.toNat ≤ 2 ^ 64 - 1) ∧
      (s.members.Pairwise fun a b =>
        a.offset < b.offset ∧ a.offset.toNat + a.size.toNat ≤ b.offset.toNat) ∧
      (∃ size, Host.structSize db s.id = .ok size ∧
        size.toNat =
          (s.members.getLast?.map fun m => m.offset.toNat + m.size.toNat).getD 0) ∧
      ∃ found, Host.members db s.id = .ok found ∧
        found.map (fun m => (m.id, m.name, m.start.toNat, m.stop.toNat)) =
          s.members.map fun m =>
            (m.id, m.name, m.offset.toNat, m.offset.toNat + m.size.toNat) := by
  have hsound := h.sound
  refine ⟨hsound.identified, fun s hs => ?_⟩
  have hranged : s.Ranged := hsound.ranged s hs
  obtain ⟨k, hk⟩ := WordMap.mem_values.1 hs
  have hget : db.get? s.id = some s := by
    rw [get?, hsound.key hk]
    exact hk
  refine ⟨fun m hm => ?_, pairwise_ranged hranged, ?_, ?_⟩
  · have hm := hranged.fits m hm
    exact ⟨UInt64.lt_iff_toNat_lt.2 hm.size_pos, Nat.le_sub_one_of_lt hm.fits⟩
  · exact ⟨s.size, structSize_eq_ok.2 ⟨s, hget, rfl⟩, hranged.toNat_size⟩
  · exact ⟨reported s, members_eq_ok.2 ⟨s, hget, rfl⟩, map_reported hranged⟩

/-- Two integers, the second put in first, and a third that would share a byte with both. -/
def twoIntegers : Database :=
  Request.performAll
    [.createStruct "pair", .createMember ⟨0xFF000000⟩ "second" 4 4 ⟨0⟩,
      .createMember ⟨0xFF000000⟩ "first" 0 4 ⟨0⟩, .createMember ⟨0xFF000000⟩ "third" 2 4 ⟨0⟩]
    (.empty 8)

theorem invariant_twoIntegers : Reachable twoIntegers ∧ twoIntegers.Identified ∧
    Host.structSize twoIntegers ⟨0xFF000000⟩ = .ok 8 ∧ twoIntegers.ids.length = 3 := by
  have hreachable : Reachable twoIntegers :=
    (Reachable.empty 8).performAll (by unfold Spare; decide)
  exact ⟨hreachable, hreachable.invariant.1, by decide +kernel, by decide +kernel⟩

end Database

end StructSync
