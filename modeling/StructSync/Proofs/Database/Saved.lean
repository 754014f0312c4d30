import Mathlib
import StructSync.Database.Format
import StructSync.Proofs.Database.Identity
import StructSync.Proofs.Json.Reads

/-!
# Databases that were saved

Main statement (`Database.Ranged.load_text`): the text of a database whose members share no byte, in
either style, is loaded as that database without its journal. Everything that is written is read
back (`json_reads`), the members are in order already, and exactly such ranges are not refused
(`ranged_iff`). Every sound database is one of these (`Sound.load_text`).
-/

namespace StructSync

open Json Json.Decoder Json.Shape

/-! ### Reading back -/

theorem StoredMember.json_reads (m : StoredMember) : StoredMember.shape.decoder.Reads m.json m :=
  decoder_reads
    (.cons rfl rfl (Slot.field_reads (word_reads _) _) <|
      .cons rfl rfl (Slot.field_reads (text_reads _) _) <|
      .cons rfl rfl (Slot.field_reads (word_reads _) _) <|
      .cons rfl rfl (Slot.field_reads (word_reads _) _) <|
      .cons rfl rfl (Slot.field_reads (halfWord_reads _) _) <|
      .cons rfl rfl (Slot.field_reads (optional_text_reads _) _) <| .nil _) rfl

theorem StoredStruct.json_reads (s : StoredStruct) : StoredStruct.shape.decoder.Reads s.json s :=
  decoder_reads
    (.cons rfl rfl (Slot.field_reads (word_reads _) _) <|
      .cons rfl rfl (Slot.field_reads (text_reads _) _) <|
      .cons rfl rfl (Slot.field_reads (list_reads fun m _ => m.json_reads) _) <| .nil _) rfl

theorem Database.json_reads (db : Database) :
    Database.shape.decoder.Reads db.json db.clearJournal := by
  have hstructs : (wordMap StoredStruct.shape.decoder).Reads
      (.object (db.structs.entries.map (entryJson StoredStruct.json))) db.structs.entries :=
    wordMap_reads fun entry _ => entry.2.json_reads
  have hfills : Database.shape.Fills Database.shape.start
      [("pointer_size", .number db.pointerSize.toNat), ("next_id", .number db.nextId.toNat),
        ("structs", .object (db.structs.entries.map (entryJson StoredStruct.json)))]
      ⟨some db.pointerSize, some db.nextId, some db.structs.entries⟩ :=
    .cons rfl rfl (Slot.trailing_reads (Slot.field_reads (word_reads _) _)) <|
      .cons rfl rfl (Slot.field_reads (word_reads _) _) <|
      .cons rfl rfl (Slot.field_reads hstructs _) <| .nil _
  have hfinish : Database.shape.finish
      ⟨some db.pointerSize, some db.nextId, some db.structs.entries⟩ =
        .ok { db with structs := .ofList db.structs.entries, journal := [] } := rfl
  rw [WordMap.ofList_entries] at hfinish
  exact decoder_reads hfills hfinish

/-! ### Nothing to mend -/

namespace StoredStruct

variable {s : StoredStruct}

theorem Ranged.sorted_eq (h : s.Ranged) : s.sorted = s := by
  have hsorted : s.members.Pairwise fun a b => decide (a.offset ≤ b.offset) = true := by
    refine h.ascending.imp_of_mem fun {a b} ha _ hab => ?_
    rw [decide_eq_true_eq, UInt64.le_iff_toNat_le]
    exact (h.fits a ha).offset_lt.le.trans hab
  unfold sorted
  rw [List.mergeSort_of_pairwise hsorted]

theorem fits_iff {m : StoredMember} :
    m.Fits ↔ ¬((m.size = 0 || (addWord? m.offset m.size).isNone) = true) := by
  have hsome : (addWord? m.offset m.size).isNone = true ↔ ¬m.stopNat < UInt64.size := by
    rw [Option.isNone_iff_eq_none, addWord?_eq_none, Nat.not_lt, StoredMember.stopNat]
  simp only [Bool.or_eq_true, decide_eq_true_eq, hsome, not_or, not_not]
  exact ⟨fun h => ⟨h.sized, h.fits⟩, fun h => ⟨h.1, h.2⟩⟩

/-- No range is refused if all fit and each member starts behind the one before it, which then is
behind all the members before it. -/
theorem corruption?_eq_none {members : List StoredMember} {previous : Option StoredMember}
    (hprevious : ∀ p ∈ previous, p.Fits) :
    s.corruption? previous members = none ↔ (∀ m ∈ members, m.Fits) ∧
      (members.Pairwise fun a b => a.stopNat ≤ b.offset.toNat) ∧
      ∀ p ∈ previous, ∀ m ∈ members, p.stopNat ≤ m.offset.toNat := by
  induction members generalizing previous with
  | nil => simp [corruption?]
  | cons m rest ih =>
    unfold corruption?
    by_cases hm : m.Fits
    · rw [if_neg (fits_iff.1 hm)]
      have hmeets : previous.filter (m.offset < ·.stop) = none ↔
          ∀ p ∈ previous, p.stopNat ≤ m.offset.toNat := by
        rw [Option.filter_eq_none_iff]
        refine forall₂_congr fun p hp => ?_
        rw [decide_eq_true_eq, UInt64.not_lt, UInt64.le_iff_toNat_le,
          (hprevious p hp).toNat_stop]
      cases hfilter : previous.filter (m.offset < ·.stop) with
      | some p =>
        refine ⟨nofun, fun ⟨_, _, hbehind⟩ => ?_⟩
        have hnone := hmeets.2 fun p hp => hbehind p hp m (by simp)
        exact absurd (hfilter.symm.trans hnone) nofun
      | none =>
        have hbefore := hmeets.1 hfilter
        dsimp only
        rw [ih (by simpa using hm)]
        simp only [List.forall_mem_cons, List.pairwise_cons, Option.mem_some_iff, forall_eq']
        constructor
        · rintro ⟨hfits, hpairs, hbehind⟩
          refine ⟨⟨hm, hfits⟩, ⟨hbehind, hpairs⟩, fun p hp => ⟨hbefore p hp, fun x hx => ?_⟩⟩
          exact (hbefore p hp).trans (hm.offset_lt.le.trans (hbehind x hx))
        · rintro ⟨⟨-, hfits⟩, ⟨hbehind, hpairs⟩, -⟩
          exact ⟨hfits, hpairs, hbehind⟩
    · rw [if_pos (not_not.1 fun h => hm (fits_iff.2 h))]
      exact ⟨nofun, fun ⟨hfits, _⟩ => absurd (hfits m (by simp)) hm⟩

theorem ranged_iff : s.Ranged ↔ s.corruption? none s.members = none := by
  rw [corruption?_eq_none (by simp)]
  exact ⟨fun h => ⟨h.fits, h.ascending, nofun⟩, fun h => ⟨h.1, h.2.1⟩⟩

end StoredStruct

namespace Database

variable {db : Database}

theorem ranged_iff :
    db.Ranged ↔ (db.structs.values.findSome? fun s => s.corruption? none s.members) = none := by
  rw [List.findSome?_eq_none_iff]
  exact forall₂_congr fun s _ => StoredStruct.ranged_iff

/-- Of a database without corrupt ranges all but the journal comes back from its text. -/
theorem Ranged.load_text (h : db.Ranged) (style : Json.Style) :
    Database.load (db.json.text style) = .ok db.clearJournal := by
  have hsorted : db.clearJournal.structs.map StoredStruct.sorted = db.structs := by
    refine WordMap.ext_get? fun k => ?_
    rw [WordMap.get?_map]
    show (db.structs.get? k).map StoredStruct.sorted = db.structs.get? k
    cases hs : db.structs.get? k with
    | none => rfl
    | some s => rw [Option.map_some, (h s (WordMap.mem_values.2 ⟨k, hs⟩)).sorted_eq]
  unfold load
  rw [decode_reads db.json_reads style]
  dsimp only
  rw [hsorted, ranged_iff.1 h]
  rfl

theorem Sound.load_text (h : db.Sound) (style : Json.Style) :
    Database.load (db.json.text style) = .ok db.clearJournal :=
  h.ranged.load_text style

end Database

end StructSync
