import Mathlib
import StructSync.Proofs.Database.Saved
import StructSync.Proofs.Resolve

/-!
# Databases that were loaded

A text that is loaded gives a database whose members share no byte; ids and names are taken as they
stand. So the loaded database is told apart (`Database.Identified`) exactly if the data in the text
are. Main statement (`Database.load_identified`): if they are, they stay so under all further
requests (`Later`), no creation takes the place of a stored struct, and deleting what is found under
a name removes the struct of that name. A database whose ids clash is loaded all the same
(`Database.clashing`).
-/

namespace StructSync

/-! ### What a decoder has read -/

namespace Json

variable {π α β : Type} {shape : Shape π α} {record : α} {cs rest : List Char}

theorem Shape.complete_eq_ok {bracket : Char} {parts : π}
    (h : shape.complete bracket parts rest = .ok record) : shape.finish parts = .ok record := by
  unfold complete at h
  cases hfinish : shape.finish parts with
  | error key => simp [hfinish] at h
  | ok a => simpa [hfinish] using h

theorem Shape.finish_of_decoder (h : shape.decoder cs = .ok (record, rest)) :
    ∃ parts, shape.finish parts = .ok record := by
  unfold decoder at h
  split at h
  · cases h
  -- the object form and the array form both end in `complete`
  iterate 2
    obtain ⟨⟨parts, behind⟩, -, h⟩ := bind_eq_ok.1 h
    obtain ⟨a, hcomplete, h⟩ := bind_eq_ok.1 h
    obtain ⟨close, -, h⟩ := bind_eq_ok.1 h
    cases h
    exact ⟨parts, complete_eq_ok hcomplete⟩
  · cases h

theorem decode_eq_ok {decoder : Decoder α} {text : String} {a : α}
    (h : decode decoder text = .ok a) : ∃ rest, decoder text.toList = .ok (a, rest) := by
  unfold decode at h
  cases hread : decoder text.toList with
  | error problem => simp [hread, bind, Except.bind, Except.mapError] at h
  | ok pair =>
    obtain ⟨b, rest⟩ := pair
    refine ⟨rest, ?_⟩
    simp only [hread, bind, Except.bind] at h
    split at h
    · cases h
      rfl
    · cases h

end Json

namespace Database

variable {db read after : Database} {text name : String} {id : StructId} {s : StoredStruct}

/-- The database with the members of every struct in order of their offsets. -/
def sorted (db : Database) : Database := { db with structs := db.structs.map StoredStruct.sorted }

theorem load_eq_ok : Database.load text = .ok db ↔
    ∃ read, Json.decode Database.shape.decoder text = .ok read ∧ db = read.sorted ∧ db.Ranged := by
  unfold load
  cases Json.decode Database.shape.decoder text with
  | error e => simp
  | ok read =>
    simp only [Except.ok.injEq, exists_eq_left']
    show (match read.sorted.structs.values.findSome? _ with
      | some fault => Except.error (HostError.corrupt fault)
      | none => .ok read.sorted) = _ ↔ _
    cases hcorrupt : read.sorted.structs.values.findSome? fun s => s.corruption? none s.members with
    | some fault =>
      refine ⟨nofun, fun ⟨heq, hranged⟩ => ?_⟩
      rw [heq] at hranged
      exact absurd (hcorrupt.symm.trans (ranged_iff.1 hranged)) nofun
    | none =>
      constructor
      · intro h
        obtain rfl := Except.ok.inj h
        exact ⟨rfl, ranged_iff.2 hcorrupt⟩
      · rintro ⟨rfl, -⟩
        rfl

theorem journal_of_decode (h : Json.decode Database.shape.decoder text = .ok db) :
    db.journal = [] := by
  obtain ⟨rest, hread⟩ := Json.decode_eq_ok h
  obtain ⟨parts, hfinish⟩ := Json.Shape.finish_of_decoder hread
  obtain ⟨nextId, -, hfinish⟩ := bind_eq_ok.1 hfinish
  obtain ⟨structs, -, hfinish⟩ := bind_eq_ok.1 hfinish
  cases hfinish
  rfl

theorem load_text_of_load (h : Database.load text = .ok db) (style : Json.Style) :
    Database.load (db.json.text style) = .ok db := by
  obtain ⟨read, hdecode, hsorted, hranged⟩ := load_eq_ok.1 h
  have hjournal : db.clearJournal = db := by
    have hnone : read.journal = [] := journal_of_decode hdecode
    rw [hsorted]
    show { read.sorted with journal := [] } = read.sorted
    rw [← hnone]
    rfl
  rw [hranged.load_text style, hjournal]

/-! ### Ids and names are taken as they stand -/

theorem ids_sorted (db : Database) : db.sorted.ids.Perm db.ids := by
  show (db.structs.map StoredStruct.sorted).values.flatMap StoredStruct.ids |>.Perm _
  rw [WordMap.values_map, List.flatMap_map]
  refine List.Perm.flatMap_left _ fun s _ => ?_
  exact (((List.mergeSort_perm s.members _).map _).cons _)

theorem identified_sorted : db.sorted.Identified ↔ db.Identified := by
  have hvalues : db.sorted.structs.values = db.structs.values.map StoredStruct.sorted :=
    WordMap.values_map _
  have hnames : db.sorted.structs.values.map (·.name) = db.structs.values.map (·.name) := by
    rw [hvalues, List.map_map]
    rfl
  have hkey : (∀ k s, db.sorted.structs.get? k = some s → s.id.value = k) ↔
      ∀ k s, db.structs.get? k = some s → s.id.value = k := by
    refine forall_congr' fun k => ?_
    rw [sorted, WordMap.get?_map]
    cases db.structs.get? k <;> simp [StoredStruct.sorted]
  have hmembers : (∀ s ∈ db.sorted.structs.values, (s.members.map (·.name)).Nodup) ↔
      ∀ s ∈ db.structs.values, (s.members.map (·.name)).Nodup := by
    rw [hvalues, List.forall_mem_map]
    refine forall₂_congr fun s _ => ?_
    exact ((List.mergeSort_perm s.members _).map _).nodup_iff
  have hids : db.sorted.ids.Nodup ↔ db.ids.Nodup := db.ids_sorted.nodup_iff
  have hbelow : (∀ id ∈ db.sorted.ids, id < db.nextId) ↔ ∀ id ∈ db.ids, id < db.nextId :=
    forall_congr' fun id => by rw [db.ids_sorted.mem_iff]
  constructor
  · intro h
    exact ⟨hkey.1 h.key, hnames ▸ h.names, hmembers.1 h.memberNames, hids.1 h.ids,
      hbelow.1 h.below⟩
  · intro h
    exact ⟨hkey.2 h.key, hnames ▸ h.names, hmembers.2 h.memberNames, hids.2 h.ids,
      hbelow.2 h.below⟩

/-! ### What requests do to a loaded database -/

/-- The databases that requests make of this one. -/
inductive Later (db : Database) : Database → Prop
  | refl : Later db db
  | perform {after : Database} (r : Request) : Later db after → after.Spare r.ids →
    Later db (r.perform after)
  | clearJournal {after : Database} : Later db after → Later db after.clearJournal

theorem Later.sound (h : db.Later after) (hsound : db.Sound) : after.Sound := by
  induction h with
  | refl => exact hsound
  | perform r _ hspare ih => exact ih.perform r hspare
  | clearJournal _ ih => exact ih.clearJournal

theorem Sound.createStruct_keeps (h : db.Sound) (hdb : db.createStruct name = .ok (id, after))
    {k : UInt64} (hs : db.structs.get? k = some s) : after.structs.get? k = some s := by
  obtain ⟨-, rfl, rfl⟩ := createStruct_eq_ok.1 hdb
  rw [WordMap.get?_insert, if_neg]
  · exact hs
  · rintro rfl
    exact absurd (hs.symm.trans h.get?_next) nofun

/-- What is found under a name can be deleted, and nothing else goes with it. -/
theorem Sound.deleteStruct_found (h : db.Sound) (hid : Host.findStruct? db name = some id) :
    ∃ removed, Host.deleteStruct id db = (.ok (), removed) ∧
      ∀ k s, removed.structs.get? k = some s ↔ db.structs.get? k = some s ∧ s.name ≠ name := by
  obtain ⟨found, hfound, rfl⟩ := Option.map_eq_some_iff.1 hid
  obtain ⟨hget, rfl⟩ := h.findByName?_eq_some.1 hfound
  have hdelete := deleteStruct_eq_ok.2 ⟨Option.isSome_of_eq_some hget, rfl⟩
  refine ⟨_, host_deleteStruct_eq_ok.2 hdelete, fun k s => ?_⟩
  rw [WordMap.get?_erase]
  constructor
  · intro hs
    split at hs
    · cases hs
    · exact ⟨hs, fun hname => absurd (h.names hs hget hname) ‹_›⟩
  · rintro ⟨hs, hname⟩
    rw [if_neg]
    · exact hs
    · rintro rfl
      exact hname (congrArg StoredStruct.name (Option.some.inj (hs.symm.trans hget)))

/-- Loading sees to the ranges. Ids and names are told apart exactly if those in the text are, and
then all requests keep them so. -/
theorem load_identified (h : Database.load text = .ok db) :
    ∃ read, Json.decode Database.shape.decoder text = .ok read ∧ db = read.sorted ∧ db.Ranged ∧
      (db.Identified ↔ read.Identified) ∧
      (read.Identified → ∀ after, db.Later after → after.Identified ∧
        (∀ name id created, after.createStruct name = .ok (id, created) →
          ∀ k s, after.structs.get? k = some s → created.structs.get? k = some s) ∧
        ∀ name id, Host.findStruct? after name = some id →
          ∃ removed, Host.deleteStruct id after = (.ok (), removed) ∧
            ∀ k s, removed.structs.get? k = some s ↔
              after.structs.get? k = some s ∧ s.name ≠ name) := by
  obtain ⟨read, hdecode, hsorted, hranged⟩ := load_eq_ok.1 h
  have hiff : db.Identified ↔ read.Identified := hsorted ▸ identified_sorted
  refine ⟨read, hdecode, hsorted, hranged, hiff, fun hread after hlater => ?_⟩
  have hsound : after.Sound := hlater.sound ((hiff.2 hread).sound hranged)
  refine ⟨hsound.identified, ?_, ?_⟩
  · intro name id created hdb k s hs
    exact hsound.createStruct_keeps hdb hs
  · intro name id hid
    exact hsound.deleteStruct_found hid

theorem load_identified_twoIntegers :
    Database.load (twoIntegers.json.text .pretty) = .ok twoIntegers.clearJournal ∧
      ∃ read, Json.decode Database.shape.decoder (twoIntegers.json.text .pretty) = .ok read ∧
        read.Identified ∧
        ∃ removed, Host.deleteStruct ⟨0xFF000000⟩ twoIntegers.clearJournal = (.ok (), removed) ∧
          ∀ k s, removed.structs.get? k = some s ↔
            twoIntegers.structs.get? k = some s ∧ s.name ≠ "pair" := by
  have hreachable : Reachable twoIntegers :=
    (Reachable.empty 8).performAll (by unfold Spare; decide)
  have hload := hreachable.sound.load_text .pretty
  have hidentified := hreachable.sound.clearJournal.identified
  obtain ⟨read, hdecode, -, -, hiff, hlater⟩ := load_identified hload
  obtain ⟨-, -, hdelete⟩ := hlater (hiff.1 hidentified) _ .refl
  exact ⟨hload, read, hdecode, hiff.1 hidentified,
    hdelete "pair" ⟨0xFF000000⟩ (by decide +kernel)⟩

/-! ### Ids that clash -/

/-- Two structs, each stored under the id of the other, and the counter at the id of one of them. -/
def clashing : Database where
  pointerSize := 8
  nextId := 1
  structs := ⟨[(1, ⟨⟨2⟩, "a", []⟩), (2, ⟨⟨1⟩, "b", []⟩)], by decide⟩
  journal := []

/-- It is loaded; then deleting what is found as `a` deletes `b`, and a creation overwrites `a`. -/
theorem clashing_loaded :
    Database.load (clashing.json.text .compact) = .ok clashing ∧ ¬clashing.Identified ∧
      (∃ id created, clashing.createStruct "c" = .ok (id, created) ∧
        (clashing.findByName? "a").isSome ∧ created.findByName? "a" = none) ∧
      ∃ id removed, Host.findStruct? clashing "a" = some id ∧
        Host.deleteStruct id clashing = (.ok (), removed) ∧
        Host.findStruct? removed "a" = some id ∧ Host.findStruct? removed "b" = none := by
  have hranged : clashing.Ranged := by
    intro s hs
    obtain rfl | rfl : s = ⟨⟨2⟩, "a", []⟩ ∨ s = ⟨⟨1⟩, "b", []⟩ := by
      simpa [clashing, WordMap.values] using hs
    all_goals exact ⟨by simp, .nil⟩
  refine ⟨hranged.load_text .compact, fun h => ?_, ?_, ?_⟩
  · have hkey := h.key 1 ⟨⟨2⟩, "a", []⟩ (by decide)
    exact absurd hkey (by decide)
  · exact ⟨⟨1⟩, _, rfl, by decide, by decide⟩
  · exact ⟨⟨2⟩, _, rfl, rfl, by decide, by decide⟩

end Database

end StructSync
