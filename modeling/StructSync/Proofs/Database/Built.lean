import Mathlib
import StructSync.Proofs.Database.Loaded

/-!
# What is loaded could have been built

Members can be put into a struct one after the other exactly if they and those in it have different
names, a size, an end in the range of addresses and no byte in common (`createAll_iff`); no order
plays a part in this (`Compatible.of_perm`). Loading looks only at neighbours in order of offsets,
but asks the same of the ranges (`compatible_iff`). Main statement (`Database.load_iff_built`): a
text without double names is loaded exactly if the members of each of its structs can be put into
an empty one, in whatever order, and then both structs list the same names, offsets and sizes.
-/

namespace StructSync

/-- All that a request for a member says of its layout. -/
structure Place where
  name : String
  offset : UInt64
  size : UInt64

def StoredMember.place (m : StoredMember) : Place := ⟨m.name, m.offset, m.size⟩

namespace Place

/-- The offset behind the last byte, as a number. -/
def stopNat (p : Place) : Nat := p.offset.toNat + p.size.toNat

/-- The two have different names and share no byte. -/
def Apart (p q : Place) : Prop :=
  p.name ≠ q.name ∧ (p.stopNat ≤ q.offset.toNat ∨ q.stopNat ≤ p.offset.toNat)

theorem Apart.symm {p q : Place} (h : p.Apart q) : q.Apart p := ⟨h.1.symm, h.2.symm⟩

/-- Members that can be in one struct, in whatever order they are listed. -/
structure Compatible (ps : List Place) : Prop where
  fits : ∀ p ∈ ps, p.size ≠ 0 ∧ p.stopNat < UInt64.size
  apart : ps.Pairwise Apart

theorem Compatible.of_perm {ps qs : List Place} (h : Compatible ps) (hperm : ps.Perm qs) :
    Compatible qs where
  fits p hp := h.fits p (hperm.mem_iff.2 hp)
  apart := (hperm.pairwise_iff fun h => h.symm).1 h.apart

end Place

open Place

namespace StoredStruct

variable {s : StoredStruct} {m : StoredMember}

theorem Ranged.compatible (h : s.Ranged) (hnames : (s.members.map (·.name)).Nodup) :
    Compatible (s.members.map (·.place)) where
  fits := List.forall_mem_map.2 fun m hm => ⟨(h.fits m hm).sized, (h.fits m hm).fits⟩
  apart := List.pairwise_map.2
    (((List.pairwise_map.1 hnames).and h.ascending).imp fun hab => ⟨hab.1, .inl hab.2⟩)

/-- In order of offsets neighbours stand for all. -/
theorem compatible_iff (hnames : (s.members.map (·.name)).Nodup) :
    Compatible (s.members.map (·.place)) ↔ s.sorted.Ranged := by
  have hperm : s.sorted.members.Perm s.members := List.mergeSort_perm _ _
  constructor
  · intro h
    have h' := h.of_perm (hperm.map _).symm
    have hfits : ∀ m ∈ s.sorted.members, m.Fits := fun m hm =>
      ⟨(h'.fits _ (List.mem_map_of_mem hm)).1, (h'.fits _ (List.mem_map_of_mem hm)).2⟩
    have hsorted := pairwise_mergeSort_word StoredMember.offset s.members
    refine ⟨hfits, (hsorted.and (List.pairwise_map.1 h'.apart)).imp_of_mem ?_⟩
    rintro a b ha hb ⟨hle, -, hab⟩
    have hle : a.offset.toNat ≤ b.offset.toNat := UInt64.le_iff_toNat_le.1 hle
    have hlt : b.offset.toNat < b.stopNat := (hfits b hb).offset_lt
    exact hab.resolve_right fun hba : b.stopNat ≤ a.offset.toNat => by omega
  · intro h
    exact (h.compatible ((hperm.map _).nodup_iff.2 hnames)).of_perm (hperm.map _)

theorem Ranged.hasRoom_of_compatible (h : s.Ranged)
    (hcompatible : Compatible (m.place :: s.members.map (·.place))) :
    s.HasRoom m.name m.offset m.size := by
  obtain ⟨⟨hsized, hfits⟩, -⟩ := List.forall_mem_cons.1 hcompatible.fits
  obtain ⟨hapart, -⟩ := List.pairwise_cons.1 hcompatible.apart
  refine ⟨hsized, hfits, fun x hx => ?_, fun x hx => ?_⟩
  · exact (hapart _ (List.mem_map_of_mem hx)).1.symm
  · rw [(h.fits x hx).toNat_stop]
    exact (hapart _ (List.mem_map_of_mem hx)).2.symm

end StoredStruct

namespace Database

variable {db built : Database} {id : StructId} {s : StoredStruct} {m : StoredMember}
  {ms : List StoredMember}

/-- The database with the members put into the struct one after the other, unless one is refused. -/
def createAll (id : StructId) : List StoredMember → Database → Except HostError Database
  | [], db => .ok db
  | m :: rest, db => do
    let (_, db) ← db.createMember id m.name m.offset m.size m.flags
    createAll id rest db

theorem createAll_cons : createAll id (m :: ms) db = .ok built ↔ ∃ member after,
    db.createMember id m.name m.offset m.size m.flags = .ok (member, after) ∧
      createAll id ms after = .ok built := by
  rw [createAll, bind_eq_ok]
  exact Prod.exists

/-- A member that was put into a sound struct stands among the others there. -/
theorem createMember_place (hs : db.get? id = some s) (h : s.Ranged)
    (hnames : (s.members.map (·.name)).Nodup) {member : MemberId} {after : Database}
    (hdb : db.createMember id m.name m.offset m.size m.flags = .ok (member, after)) :
    ∃ t, after.get? id = some t ∧ t.Ranged ∧ (t.members.map (·.name)).Nodup ∧
      (t.members.map (·.place)).Perm (m.place :: s.members.map (·.place)) := by
  obtain ⟨s', hs', hroom, rfl, rfl⟩ := createMember_eq_ok.1 hdb
  obtain rfl := Option.some.inj (hs.symm.trans hs')
  refine ⟨_, WordMap.get?_insert_self, StoredStruct.HasRoom.insertMember hroom h, ?_, ?_⟩
  · refine ((insertMember_perm _ _).map _).nodup_iff.2 (List.nodup_cons.2 ⟨fun hmem => ?_, hnames⟩)
    obtain ⟨x, hx, hxm⟩ := List.mem_map.1 hmem
    exact hroom.name x hx hxm
  · exact (insertMember_perm _ _).map _

/-- Members can be put into a struct exactly if they can be in it together, and then the struct
has what it had and these. -/
theorem createAll_iff (hs : db.get? id = some s) (h : s.Ranged)
    (hnames : (s.members.map (·.name)).Nodup) (ms : List StoredMember) :
    ((∃ built, createAll id ms db = .ok built) ↔
      Compatible (ms.map (·.place) ++ s.members.map (·.place))) ∧
    ∀ built, createAll id ms db = .ok built → ∃ t, built.get? id = some t ∧ t.Ranged ∧
      (t.members.map (·.place)).Perm (ms.map (·.place) ++ s.members.map (·.place)) := by
  induction ms generalizing db s with
  | nil =>
    refine ⟨⟨fun _ => h.compatible hnames, fun _ => ⟨db, rfl⟩⟩, fun built hbuilt => ?_⟩
    obtain rfl := Except.ok.inj hbuilt
    exact ⟨s, hs, h, .refl _⟩
  | cons m ms ih =>
    -- the places are those of the struct that the first request leaves, with the other members
    have step : ∀ {member after}, db.createMember id m.name m.offset m.size m.flags =
        .ok (member, after) → ∃ t, after.get? id = some t ∧ t.Ranged ∧
          (t.members.map (·.name)).Nodup ∧
          (ms.map (·.place) ++ t.members.map (·.place)).Perm
            ((m :: ms).map (·.place) ++ s.members.map (·.place)) := by
      intro member after hdb
      obtain ⟨t, ht, hranged, htnames, hperm⟩ := createMember_place hs h hnames hdb
      exact ⟨t, ht, hranged, htnames, (hperm.append_left _).trans List.perm_middle⟩
    simp only [createAll_cons]
    refine ⟨⟨?_, fun hcompatible => ?_⟩, ?_⟩
    · rintro ⟨built, member, after, hdb, hbuilt⟩
      obtain ⟨t, ht, hranged, htnames, hperm⟩ := step hdb
      exact ((ih ht hranged htnames).1.1 ⟨built, hbuilt⟩).of_perm hperm
    · have hroom : s.HasRoom m.name m.offset m.size := by
        refine h.hasRoom_of_compatible ⟨fun p hp => ?_, ?_⟩
        · exact hcompatible.fits p (by simp at hp ⊢; tauto)
        · exact hcompatible.apart.sublist (by simp)
      obtain ⟨member, after, hdb⟩ : ∃ member after,
          db.createMember id m.name m.offset m.size m.flags = .ok (member, after) :=
        ⟨_, _, createMember_eq_ok.2 ⟨s, hs, hroom, rfl, rfl⟩⟩
      obtain ⟨t, ht, hranged, htnames, hperm⟩ := step hdb
      obtain ⟨built, hbuilt⟩ := (ih ht hranged htnames).1.2 (hcompatible.of_perm hperm.symm)
      exact ⟨built, _, _, hdb, hbuilt⟩
    · rintro built ⟨member, after, hdb, hbuilt⟩
      obtain ⟨t, ht, hranged, htnames, hperm⟩ := step hdb
      obtain ⟨u, hu, huranged, huperm⟩ := (ih ht hranged htnames).2 built hbuilt
      exact ⟨u, hu, huranged, huperm.trans hperm⟩

/-- In an empty struct room is all that is asked for, and it comes out as a loaded one does. -/
theorem createAll_empty {stored : StoredStruct} (hs : db.get? id = some s) (hnil : s.members = [])
    (hnames : (stored.members.map (·.name)).Nodup) (hperm : ms.Perm stored.members) :
    ((∃ built, createAll id ms db = .ok built) ↔ stored.sorted.Ranged) ∧
    ∀ built, createAll id ms db = .ok built → ∃ t, built.get? id = some t ∧
      t.members.map (·.place) = stored.sorted.members.map (·.place) := by
  have hempty : s.Ranged ∧ (s.members.map (·.name)).Nodup := by
    refine ⟨⟨?_, ?_⟩, ?_⟩ <;> simp [hnil]
  have hplaces : (ms.map (·.place) ++ s.members.map (·.place)).Perm
      (stored.members.map (·.place)) := by
    rw [hnil, List.map_nil, List.append_nil]
    exact hperm.map _
  obtain ⟨hiff, hbuilt⟩ := createAll_iff hs hempty.1 hempty.2 ms
  have hranged : (∃ built, createAll id ms db = .ok built) ↔ stored.sorted.Ranged := by
    rw [hiff, ← StoredStruct.compatible_iff hnames]
    exact ⟨fun h => h.of_perm hplaces, fun h => h.of_perm hplaces.symm⟩
  refine ⟨hranged, fun built h => ?_⟩
  obtain ⟨t, ht, htranged, htperm⟩ := hbuilt built h
  refine ⟨t, ht, ?_⟩
  have hsorted : stored.sorted.members.Perm stored.members := List.mergeSort_perm _ _
  exact eq_of_perm_of_ascending (fun p : Place => p.offset.toNat)
    ((htperm.trans hplaces).trans (hsorted.map _).symm)
    (List.pairwise_map.2 htranged.offset_lt)
    (List.pairwise_map.2 (hranged.1 ⟨built, h⟩).offset_lt)

theorem ranged_sorted {read : Database} :
    read.sorted.Ranged ↔ ∀ k s, read.structs.get? k = some s → s.sorted.Ranged := by
  show (∀ s ∈ (read.structs.map StoredStruct.sorted).values, s.Ranged) ↔ _
  rw [WordMap.values_map, List.forall_mem_map]
  constructor
  · intro h k s hs
    exact h s (WordMap.mem_values.2 ⟨k, hs⟩)
  · intro h s hs
    obtain ⟨k, hk⟩ := WordMap.mem_values.1 hs
    exact h k s hk

/-- A text is loaded exactly if requests could have made each of its structs, in whatever order its
members are asked for, and it is loaded as they would have made it. -/
theorem load_iff_built {text : String} {read : Database}
    (hread : Json.decode Database.shape.decoder text = .ok read)
    (hnames : ∀ s ∈ read.structs.values, (s.members.map (·.name)).Nodup)
    {order : UInt64 → List StoredMember}
    (horder : ∀ k s, read.structs.get? k = some s → (order k).Perm s.members)
    {host : Database} {empty : StoredStruct} (hempty : host.get? id = some empty)
    (hnil : empty.members = []) :
    ((∃ loaded, Database.load text = .ok loaded) ↔
      ∀ k s, read.structs.get? k = some s → ∃ built, createAll id (order k) host = .ok built) ∧
    ∀ loaded, Database.load text = .ok loaded → ∀ k s, loaded.structs.get? k = some s →
      ∃ built t, createAll id (order k) host = .ok built ∧ built.get? id = some t ∧
        s.members.map (·.place) = t.members.map (·.place) := by
  have hone {k s} (hs : read.structs.get? k = some s) :=
    createAll_empty hempty hnil (hnames s (WordMap.mem_values.2 ⟨k, hs⟩)) (horder k s hs)
  have hload {loaded : Database} :
      Database.load text = .ok loaded ↔ loaded = read.sorted ∧ read.sorted.Ranged := by
    rw [load_eq_ok]
    constructor
    · rintro ⟨read', hread', rfl, hranged⟩
      obtain rfl := Except.ok.inj (hread.symm.trans hread')
      exact ⟨rfl, hranged⟩
    · rintro ⟨rfl, hranged⟩
      exact ⟨read, hread, rfl, hranged⟩
  refine ⟨?_, fun loaded h k t ht => ?_⟩
  · simp only [hload, exists_eq_left, ranged_sorted]
    exact forall₂_congr fun k s => forall_congr' fun hs => (hone hs).1.symm
  · obtain ⟨rfl, hranged⟩ := hload.1 h
    rw [sorted, WordMap.get?_map] at ht
    obtain ⟨s, hs, rfl⟩ := Option.map_eq_some_iff.1 ht
    obtain ⟨built, hbuilt⟩ := (hone hs).1.2 (ranged_sorted.1 hranged k s hs)
    obtain ⟨t, ht, heq⟩ := (hone hs).2 built hbuilt
    exact ⟨built, t, hbuilt, ht, heq.symm⟩

/-- Two integers, the second listed first. -/
def jumbled : Database where
  pointerSize := 8
  nextId := 4
  structs := ⟨[(1, ⟨⟨1⟩, "pair",
    [⟨⟨2⟩, "second", 4, 4, ⟨0⟩, none⟩, ⟨⟨3⟩, "first", 0, 4, ⟨0⟩, some "int"⟩]⟩)], by decide⟩
  journal := []

/-- Its members in the order of their offsets. -/
def integers : List StoredMember :=
  [⟨⟨3⟩, "first", 0, 4, ⟨0⟩, some "int"⟩, ⟨⟨2⟩, "second", 4, 4, ⟨0⟩, none⟩]

/-- A database with one empty struct. -/
def vacant : Database := (Request.createStruct "vacant").perform (.empty 8)

theorem load_iff_built_jumbled :
    ∃ built, createAll ⟨0xFF000000⟩ integers vacant = .ok built ∧
      ∃ loaded, Database.load (jumbled.json.text .pretty) = .ok loaded ∧
        ∀ k s, loaded.structs.get? k = some s → ∃ t, built.get? ⟨0xFF000000⟩ = some t ∧
          s.members.map (·.place) = t.members.map (·.place) := by
  have hread : Json.decode Database.shape.decoder (jumbled.json.text .pretty) = .ok jumbled :=
    Json.decode_reads jumbled.json_reads .pretty
  have horder : ∀ k s, jumbled.structs.get? k = some s → integers.Perm s.members := by
    intro k s hs
    obtain rfl : s = _ := List.mem_singleton.1 (WordMap.mem_values.2 ⟨k, hs⟩)
    exact .swap _ _ _
  have hempty : vacant.get? ⟨0xFF000000⟩ = some ⟨⟨0xFF000000⟩, "vacant", []⟩ := by decide
  obtain ⟨hiff, hsame⟩ := load_iff_built hread (by decide) horder hempty rfl
  refine ⟨_, rfl, ?_⟩
  obtain ⟨loaded, hloaded⟩ := hiff.2 fun k s hs => ⟨_, rfl⟩
  refine ⟨loaded, hloaded, fun k s hs => ?_⟩
  obtain ⟨built, t, hbuilt, ht, heq⟩ := hsame loaded hloaded k s hs
  cases hbuilt
  exact ⟨t, ht, heq⟩

end Database

end StructSync
