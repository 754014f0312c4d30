import Mathlib
import StructSync.Proofs.Database.Loaded

/-!
# Databases that are kept

A database is empty or loaded at first and then changed by requests (`Database.Obtained`). Ids and
names of a loaded one may clash and its counter may run over, but no request makes members share a
byte (`Ranged.perform`). Main statement (`Database.Obtained.text_restores`): so every such database
comes back from its text, all but the journal, and has the same text again.
-/

namespace StructSync.Database

variable {db db' : Database} {k : UInt64} {s : StoredStruct}

namespace Ranged

theorem get? (h : db.Ranged) {id : StructId} (hs : db.get? id = some s) : s.Ranged :=
  h s (WordMap.mem_values.2 ⟨id.value, hs⟩)

theorem of_insert (h : db.Ranged) (hs : s.Ranged)
    (hstructs : db'.structs = db.structs.insert k s) : db'.Ranged := by
  intro t ht
  obtain ⟨l, hl⟩ := WordMap.mem_values.1 ht
  rw [hstructs, WordMap.get?_insert] at hl
  split at hl
  · exact Option.some.inj hl ▸ hs
  · exact h t (WordMap.mem_values.2 ⟨l, hl⟩)

theorem of_erase (h : db.Ranged) (hstructs : db'.structs = db.structs.erase k) : db'.Ranged := by
  intro t ht
  obtain ⟨l, hl⟩ := WordMap.mem_values.1 ht
  rw [hstructs, WordMap.get?_erase] at hl
  split at hl
  · cases hl
  · exact h t (WordMap.mem_values.2 ⟨l, hl⟩)

/-- The counter plays no part in it, so it may run over. -/
theorem perform (h : db.Ranged) (r : Request) : (r.perform db).Ranged := by
  rcases perform_cases r db with heq | hcase
  · rw [heq]
    exact h
  cases r with
  | createStruct name =>
    obtain ⟨id, hdb⟩ := hcase
    obtain ⟨-, -, hdb⟩ := createStruct_eq_ok.1 hdb
    exact h.of_insert (.nil id name) (congrArg structs hdb)
  | deleteStruct id => exact h.of_erase (congrArg structs (deleteStruct_eq_ok.1 hcase).2)
  | createMember id name offset size flags =>
    obtain ⟨member, hdb⟩ := hcase
    obtain ⟨s, hs, hroom, -, hdb⟩ := createMember_eq_ok.1 hdb
    exact h.of_insert (hroom.insertMember (h.get? hs)) (congrArg structs hdb)
  | setMemberType id member offset type =>
    obtain ⟨s, -, hs, -, -, -, hdb⟩ := setMemberType_eq_ok.1 hcase
    exact h.of_insert ((h.get? hs).putTypeName member type.name) (congrArg structs hdb)

end Ranged

/-- The databases that requests make of an empty or a loaded one. -/
inductive Obtained : Database → Prop
  | empty (pointerSize : UInt64) : Obtained (.empty pointerSize)
  | load {text : String} {db : Database} : Database.load text = .ok db → Obtained db
  | perform {db : Database} (r : Request) : Obtained db → Obtained (r.perform db)
  | clearJournal {db : Database} : Obtained db → Obtained db.clearJournal

theorem Obtained.ranged (h : Obtained db) : db.Ranged := by
  induction h with
  | empty pointerSize => exact (Sound.empty pointerSize).ranged
  | load hload =>
    obtain ⟨-, -, -, hranged⟩ := load_eq_ok.1 hload
    exact hranged
  | perform r _ ih => exact ih.perform r
  | clearJournal _ ih => exact ih

theorem Obtained.performAll {requests : List Request} (h : Obtained db) :
    Obtained (Request.performAll requests db) := by
  induction requests generalizing db with
  | nil => exact h
  | cons r rest ih => exact ih (h.perform r)

/-- A database comes back from its text without its journal, and then has the same text. -/
theorem Obtained.text_restores (h : Obtained db) (style : Json.Style) :
    ∃ restored, Database.load (db.json.text style) = .ok restored ∧
      restored.pointerSize = db.pointerSize ∧ restored.nextId = db.nextId ∧
      restored.structs = db.structs ∧ restored.journal = [] ∧
      ∀ again, restored.json.text again = db.json.text again :=
  ⟨db.clearJournal, h.ranged.load_text style, rfl, rfl, rfl, rfl, fun _ => rfl⟩

/-- A struct that is stored under an id that is not its own. -/
def misfiled : Database where
  pointerSize := 4
  nextId := 1
  structs := ⟨[(1, ⟨⟨2⟩, "a", []⟩)], by decide⟩
  journal := []

/-- The next struct takes its place, and gets a member that ends at the last offset. -/
def patched : Database :=
  Request.performAll
    [.createStruct "q\"\u00e9\n", .createMember ⟨1⟩ "\u4e16" 0xFFFFFFFFFFFFFFFE 1 ⟨0⟩] misfiled

theorem text_restores_patched : Obtained patched ∧
    ∃ restored, Database.load (patched.json.text .compact) = .ok restored ∧
      restored.structs = patched.structs ∧ restored.journal = [] ∧ patched.journal.length = 2 ∧
      restored.json.text .pretty = patched.json.text .pretty := by
  have hranged : misfiled.Ranged := by
    intro s hs
    obtain rfl : s = ⟨⟨2⟩, "a", []⟩ := List.mem_singleton.1 hs
    exact .nil _ _
  have hpatched : Obtained patched :=
    ((Obtained.load (hranged.load_text .pretty)).perform (.createStruct "q\"\u00e9\n")).perform
      (.createMember ⟨1⟩ "\u4e16" 0xFFFFFFFFFFFFFFFE 1 ⟨0⟩)
  obtain ⟨restored, hload, -, -, hstructs, hjournal, htext⟩ := hpatched.text_restores .compact
  exact ⟨hpatched, restored, hload, hstructs, hjournal, by decide +kernel, htext .pretty⟩

end StructSync.Database
