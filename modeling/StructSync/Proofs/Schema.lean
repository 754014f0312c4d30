import Mathlib
import StructSync.Schema
import StructSync.Proofs.Json.Reads

/-!
# Schemas as text

A field is written with the keys it has, and a key that is missing is read as a value that is not
there. So the JSON of every schema is decoded to the schema (`Schema.json_reads`), and all that can
go wrong behind that is the names (`Schema.nameFault?_eq_none_iff`). Main statement
(`Schema.load_restores`): the text of a schema whose structs can be told apart by their names is
loaded as that schema, in either style, and no other schema is ever loaded.
-/

namespace StructSync

open Json Json.Decoder Json.Shape

/-! ### Reading back -/

theorem Field.json_reads (field : Field) : Field.shape.decoder.Reads field.json field := by
  obtain ⟨name, offset, type⟩ := field
  have htext (text : String) : (Decoder.optional .text).Reads (.string text) (some text) :=
    optional_reads (text_reads text) nofun
  have hword (w : UInt64) : (Decoder.optional .word).Reads (.number w.toNat) (some w) :=
    optional_reads (word_reads w) nofun
  have hname : Field.shape.Fills ⟨none, none, none⟩
      (name.toList.map fun name => ("name", Json.string name)) ⟨name.map some, none, none⟩ :=
    .skippable rfl rfl (fun _ => Slot.trailing_reads (Slot.field_reads (htext _) _))
      (by cases name <;> rfl)
  have hoffset : Field.shape.Fills ⟨name.map some, none, none⟩
      (offset.toList.map fun offset => ("offset", Json.number offset.toNat))
      ⟨name.map some, offset.map some, none⟩ :=
    .skippable rfl rfl (fun _ => Slot.trailing_reads (Slot.field_reads (hword _) _))
      (by cases offset <;> rfl)
  have htype : Field.shape.Fills ⟨name.map some, offset.map some, none⟩
      (type.toList.map fun type => ("ctype", Json.string type))
      ⟨name.map some, offset.map some, type.map some⟩ :=
    .skippable rfl rfl (fun _ => Slot.trailing_reads (Slot.field_reads (htext _) _))
      (by cases type <;> rfl)
  refine decoder_reads ((hname.append hoffset).append htype) ?_
  cases name <;> cases offset <;> cases type <;> rfl

theorem StructSchema.json_reads (s : StructSchema) :
    StructSchema.shape.decoder.Reads s.json s :=
  decoder_reads
    (.cons rfl rfl (Slot.field_reads (text_reads _) _) <|
      .cons rfl rfl (Slot.field_reads (list_reads fun field _ => field.json_reads) _) <| .nil _) rfl

namespace Schema

variable {schema : Schema} {structs : List StructSchema} {seen : List String} {text : String}

theorem json_reads (schema : Schema) : Schema.shape.decoder.Reads schema.json schema :=
  decoder_reads
    (.cons rfl rfl (Slot.field_reads (list_reads fun s _ => s.json_reads) _) <| .nil _) rfl

/-! ### Names -/

theorem nameFault?_eq_none_iff :
    nameFault? seen structs = none ↔ (∀ s ∈ structs, Text.isBlankText s.name = false) ∧
      (structs.map (·.name)).Nodup ∧ ∀ name ∈ structs.map (·.name), name ∉ seen := by
  induction structs generalizing seen with
  | nil => simp [nameFault?]
  | cons s rest ih =>
    unfold nameFault?
    by_cases hblank : Text.isBlankText s.name = true
    · simp [hblank]
    by_cases hseen : s.name ∈ seen
    · simp [hblank, hseen]
    rw [if_neg hblank, if_neg (by simpa using hseen), ih, List.forall_mem_cons, List.map_cons,
      List.nodup_cons, List.forall_mem_cons]
    -- the names behind the first are not to meet it: once among those seen, once as no duplicates
    have hfresh : (∀ name ∈ rest.map (·.name), name ∉ s.name :: seen) ↔
        s.name ∉ rest.map (·.name) ∧ ∀ name ∈ rest.map (·.name), name ∉ seen := by
      simp only [List.mem_cons, not_or, forall_and]
      exact and_congr_left fun _ => List.forall_mem_ne'
    rw [hfresh]
    simp only [hblank, hseen]
    tauto

theorem nameFault?_eq_none (h : nameFault? seen structs = none) :
    (structs.map (·.name)).Nodup ∧ ∀ name ∈ structs.map (·.name), name ∉ seen :=
  (nameFault?_eq_none_iff.1 h).2

theorem isBlankText_of_nameFault? (h : nameFault? seen structs = none) :
    ∀ s ∈ structs, Text.isBlankText s.name = false :=
  (nameFault?_eq_none_iff.1 h).1

/-- The structs can be told apart by their names, and each name has a character that is no white
space. -/
structure WellNamed (schema : Schema) : Prop where
  filled : ∀ s ∈ schema.structs, ∃ c ∈ s.name.toList, isBlank c = false
  distinct : (schema.structs.map (·.name)).Nodup

theorem wellNamed_iff : schema.WellNamed ↔ nameFault? [] schema.structs = none := by
  have hblank (s : StructSchema) :
      Text.isBlankText s.name = false ↔ ∃ c ∈ s.name.toList, isBlank c = false := by
    simp [Text.isBlankText]
  rw [nameFault?_eq_none_iff]
  simp only [hblank]
  exact ⟨fun h => ⟨h.filled, h.distinct, by simp⟩, fun h => ⟨h.1, h.2.1⟩⟩

theorem WellNamed.get?_name (h : schema.WellNamed) {s : StructSchema} (hs : s ∈ schema.structs) :
    schema.get? s.name = some s := by
  unfold get?
  cases hfound : schema.structs.find? (·.name == s.name) with
  | none =>
    exact absurd (beq_self_eq_true s.name) (List.find?_eq_none.1 hfound s hs)
  | some other =>
    have hname : other.name = s.name := by simpa using List.find?_some hfound
    exact congrArg some
      (List.inj_on_of_nodup_map h.distinct (List.mem_of_find?_eq_some hfound) hs hname)

/-! ### Loading -/

theorem load_eq_ok : Schema.load text = .ok schema ↔
    Json.decode Schema.shape.decoder text = .ok schema ∧ nameFault? [] schema.structs = none := by
  unfold load
  cases Json.decode Schema.shape.decoder text with
  | error e => simp
  | ok decoded =>
    dsimp only
    cases hfault : nameFault? [] decoded.structs with
    | some fault =>
      refine ⟨nofun, ?_⟩
      rintro ⟨⟨⟩, hnone⟩
      exact absurd (hfault.symm.trans hnone) nofun
    | none =>
      simp only [Except.ok.injEq]
      refine ⟨?_, And.left⟩
      rintro rfl
      exact ⟨rfl, hfault⟩

theorem nameFault?_of_load (h : Schema.load text = .ok schema) :
    nameFault? [] schema.structs = none :=
  (load_eq_ok.1 h).2

theorem WellNamed.load_text (h : schema.WellNamed) (style : Json.Style) :
    Schema.load (schema.json.text style) = .ok schema :=
  load_eq_ok.2 ⟨decode_reads schema.json_reads style, wellNamed_iff.1 h⟩

/-- A schema whose structs can be told apart by their names is loaded from its text, whatever keys
its fields have; and every schema that is loaded, from whatever text, is one of these, so that each
of its structs is found under its name. -/
theorem load_restores :
    (∀ (schema : Schema) (style : Json.Style), schema.WellNamed →
      Schema.load (schema.json.text style) = .ok schema) ∧
    ∀ (text : String) (schema : Schema), Schema.load text = .ok schema →
      schema.WellNamed ∧ ∀ s ∈ schema.structs, schema.get? s.name = some s := by
  constructor
  · intro schema style h
    exact h.load_text style
  · intro text schema h
    have hnamed : schema.WellNamed := wellNamed_iff.2 (nameFault?_of_load h)
    exact ⟨hnamed, fun s hs => hnamed.get?_name hs⟩

/-- Fields with one key, with another, with all of them and with none, under names that need
escapes. -/
def sparse : Schema :=
  ⟨[⟨"a \"\\\" b\n\x01", [.named "x" "int", .atOffset maxWord "ptr\t*", ⟨none, none, none⟩]⟩,
    ⟨"\u00a0\u00e9\ufb01", [(Field.named "" "").withOffset 0, ⟨some "y", none, none⟩]⟩, ⟨"c", []⟩]⟩

theorem load_restores_sparse :
    sparse.WellNamed ∧ Schema.load (sparse.json.text .compact) = .ok sparse ∧
      sparse.get? "c" = some ⟨"c", []⟩ := by
  have hnamed : sparse.WellNamed := ⟨by simp [sparse, isBlank], by decide +kernel⟩
  have hload := load_restores.1 sparse .compact hnamed
  obtain ⟨-, hfound⟩ := load_restores.2 _ _ hload
  exact ⟨hnamed, hload, hfound ⟨"c", []⟩ (by decide +kernel)⟩

end Schema

end StructSync
