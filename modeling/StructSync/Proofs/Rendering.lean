import Mathlib
import StructSync.Rendering
import StructSync.Proofs.CType.Dimensions
import StructSync.Proofs.Layout
import StructSync.Proofs.LifeCycle
import StructSync.Proofs.Placement
import StructSync.Proofs.Sync

/-!
# What is printed is what was declared

The name of a type has its dimensions at its end. So cutting it in front of its first bracket takes
all dimensions off it, and white space at the cut changes no token (`Declaration.renders_around`):
what is printed around the name of a member still declares the type. Main statement
(`Descriptor.declaration_faithful`): the declaration of a descriptor that was parsed has one line
for each member, in order of the offsets, and what stands around the name on it is resolved to the
type of the member.
-/

namespace StructSync

/-! ### Names cut in two -/

namespace Declaration

variable {decl : Declaration} {gap : List Char}

/-- The text without the dimensions. -/
def front (decl : Declaration) : List Char :=
  (" ".intercalate decl.words).toList ++ starsText decl.stars

theorem text_eq (decl : Declaration) :
    decl.text = decl.front ++ decl.dimensions.flatMap dimensionText :=
  (List.append_assoc ..).symm

theorem renders_of_spells {cs : List Char} (hne : decl.words ≠ []) (h : Spells cs decl.tokens) :
    decl.Renders cs := by
  obtain ⟨front, words, cs, rfl, hfront, hwords, h⟩ := WordsText.of_spells hne h
  obtain ⟨stars, cs, rfl, hstars, h⟩ := StarsText.of_spells h
  obtain ⟨dimensions, gap, rfl, hdimensions, hgap⟩ := DimensionsText.of_spells h
  have hmarks : ∀ c ∈ ([] : List Char), c = ';' := nofun
  have := Renders.intro hfront hwords hstars hdimensions hgap hmarks IsGap.nil
  simpa using this

theorem renders_around (h : decl.Written) (hgap : IsGap gap) :
    decl.Renders (decl.front ++ (gap ++ decl.dimensions.flatMap dimensionText)) := by
  have hstops : ∀ c ∈ (gap ++ decl.dimensions.flatMap dimensionText).head?,
      isWordChar c = false := by
    refine stops_of_gap hgap ?_
    cases decl.dimensions <;> simp [dimensionText, isWordChar]
  have hbehind : ∀ c ∈
      (starsText decl.stars ++ (gap ++ decl.dimensions.flatMap dimensionText)).head?,
      isWordChar c = false := by
    cases decl.stars with
    | zero => exact hstops
    | succ stars => simp [starsText, isWordChar]
  have hspells := Spells.behind_gap hgap (spells_dimensions h.dimensions)
  have hspells := spells_words h.words_ne_nil h.words hbehind (spells_stars decl.stars hspells)
  refine renders_of_spells h.words_ne_nil ?_
  rw [front, List.append_assoc]
  exact hspells

theorem bracket_not_mem_front (h : decl.Written) : '[' ∉ decl.front := by
  have hwords : ∀ words : List String, (∀ w ∈ words, IsWord w.toList) →
      '[' ∉ (" ".intercalate words).toList := by
    intro words hwords
    induction words with
    | nil => simp
    | cons w words ih =>
      obtain ⟨hw, hwords⟩ := List.forall_mem_cons.1 hwords
      have hbracket : '[' ∉ w.toList := fun hmem =>
        absurd (hw.isWordChar _ hmem) (by decide)
      cases words with
      | nil => rwa [String.intercalate_singleton]
      | cons next words =>
        rw [toList_intercalate_cons, List.mem_append, List.mem_cons]
        exact not_or.2 ⟨hbracket, not_or.2 ⟨by decide, ih hwords⟩⟩
  have hstars : '[' ∉ starsText decl.stars := by
    cases decl.stars <;> simp [starsText, List.mem_replicate]
  rw [front, List.mem_append, not_or]
  exact ⟨hwords _ h.words, hstars⟩

end Declaration

/-! ### Kinds and their dimensions -/

theorem TypeScope.base_dimensions {scope : TypeScope} {words : List String} {behindPointer : Bool}
    {type : CType} (h : scope.base words behindPointer = .ok type) : type.kind.dimensions = [] := by
  have hscalar (scalar : Scalar) : scalar.kind.dimensions = [] := by
    cases scalar <;> rfl
  unfold base aggregate plain at h
  grind [Kind.dimensions]

theorem TypeScope.pointerTo_dimensions {scope : TypeScope} {target : CType}
    (h : target.kind.dimensions = []) (stars : Nat) :
    (scope.pointerTo target stars).kind.dimensions = [] := by
  cases stars with
  | zero => exact h
  | succ stars => rfl

theorem CType.arrayShape_dimensions {element : CType} {counts : List UInt64} {size : UInt64}
    {kind : Kind} (helement : element.kind.dimensions = [])
    (h : element.arrayShape counts = .ok (size, kind)) :
    kind.dimensions.map Prod.fst = counts := by
  induction counts generalizing size kind with
  | nil =>
    cases h
    rw [helement]
    rfl
  | cons count counts ih =>
    obtain ⟨innerSize, inner, hinner, -, -, rfl⟩ := arrayShape_cons_eq_ok.1 h
    rw [Kind.dimensions, List.map_cons, ih hinner]

namespace CType

variable {scope : TypeScope} {text : String} {type : CType}

/-- The type is what the declaration stands for, and its name is the text of the declaration. -/
structure NamedBy (type : CType) (scope : TypeScope) (decl : Declaration) : Prop where
  written : decl.Written
  resolved : decl.resolve scope = .ok type
  name : type.name.toList = decl.text
  dimensions : decl.dimensions = (type.kind.dimensions.map Prod.fst).map countDigits

theorem exists_namedBy (h : parseDeclaration scope text = .ok type) :
    ∃ decl, type.NamedBy scope decl := by
  obtain ⟨source, hsource, hresolve⟩ := parseDeclaration_eq_ok.1 h
  obtain ⟨counts, hwritten, hresolve, hname⟩ :=
    Declaration.resolve_canonical (Declaration.written_of_ofText? hsource) hresolve
  refine ⟨_, hwritten, hresolve, hname, ?_⟩
  obtain ⟨base, counts', hbase, hcounts, harray, -⟩ := Declaration.resolve_eq_ok.1 hresolve
  obtain rfl : counts = counts' := Except.ok.inj ((mapM_dimensionCount counts).symm.trans hcounts)
  obtain ⟨size, kind, hshape, rfl⟩ := arrayOf_eq_ok.1 harray
  have hdimensions : (scope.pointerTo base source.stars).kind.dimensions = [] :=
    TypeScope.pointerTo_dimensions (TypeScope.base_dimensions hbase) source.stars
  exact congrArg (List.map countDigits) (arrayShape_dimensions hdimensions hshape).symm

theorem NamedBy.name_eq {decl : Declaration} (h : type.NamedBy scope decl) :
    type.name.toList =
      decl.front ++ (dimensionSuffix (type.kind.dimensions.map Prod.fst)).toList := by
  rw [h.name, decl.text_eq, h.dimensions, toList_dimensionSuffix]

/-- The declarator is the name of the type, with white space at most put before its dimensions. -/
theorem NamedBy.declarator {decl : Declaration} (h : type.NamedBy scope decl) :
    ∃ gap, IsGap gap ∧ type.declarator.1.toList = decl.front ++ gap ∧
      type.declarator.2 = dimensionSuffix (type.kind.dimensions.map Prod.fst) := by
  have hname := h.name_eq
  have hfront := Declaration.bracket_not_mem_front h.written
  have hblank : IsGap [' '] := List.forall_mem_singleton.2 (by decide)
  by_cases harray : type.kind.isArray = true
  · -- what stands behind the front begins with a bracket, and no bracket is in it
    generalize hsuffix : dimensionSuffix (type.kind.dimensions.map Prod.fst) = suffix at hname ⊢
    obtain ⟨rest, hrest⟩ : ∃ rest, suffix.toList = '[' :: rest := by
      rw [← hsuffix, toList_dimensionSuffix]
      cases hkind : type.kind with
      | array element elementSize count => exact ⟨_, rfl⟩
      | _ => simp [hkind, Kind.isArray] at harray
    have hall : ∀ c ∈ decl.front, decide (c ≠ '[') = true := by
      intro c hc
      exact decide_eq_true fun heq => hfront (heq ▸ hc)
    have hstops : ∀ c ∈ suffix.toList.head?, decide (c ≠ '[') = false := by
      rw [hrest]
      rintro _ ⟨⟩
      rfl
    obtain ⟨htake, hdrop⟩ := Text.takeWhile_append_of_stops hall hstops
    have hcontains : type.name.toList.contains '[' = true := by simp [hname, hrest]
    unfold CType.declarator
    simp only [harray, hcontains, Bool.and_self, ↓reduceIte]
    rw [hname, htake, hdrop]
    exact ⟨[' '], hblank, by simp, String.ofList_toList⟩
  · have hdimensions : type.kind.dimensions = [] := by
      cases hkind : type.kind <;> simp_all [Kind.isArray, Kind.dimensions]
    rw [hdimensions] at hname ⊢
    have hname : type.name.toList = decl.front := by simpa [dimensionSuffix] using hname
    unfold CType.declarator
    simp only [harray, Bool.false_and, Bool.false_eq_true, ↓reduceIte]
    split
    · exact ⟨[], IsGap.nil, by simpa using hname, rfl⟩
    · exact ⟨[' '], hblank, by simp [hname], rfl⟩

/-- What stands around the name of a member declares the type. -/
theorem parseDeclaration_declarator (h : parseDeclaration scope text = .ok type) :
    parseDeclaration scope (type.declarator.1 ++ type.declarator.2) = .ok type := by
  obtain ⟨decl, hdecl⟩ := exists_namedBy h
  obtain ⟨gap, hgap, hbefore, hafter⟩ := hdecl.declarator
  have hrenders : decl.Renders (type.declarator.1 ++ type.declarator.2).toList := by
    rw [String.toList_append, hbefore, hafter, toList_dimensionSuffix, ← hdecl.dimensions,
      List.append_assoc]
    exact Declaration.renders_around hdecl.written hgap
  rw [parseDeclaration_of_renders hrenders, hdecl.resolved]

example : (⟨48, "void **[2][3]", .array (.array .pointer 8 3) 24 2⟩ : CType).declarator =
    ("void ** ", "[2][3]") := by
  decide +kernel

end CType

theorem Member.line_eq (m : Member) :
    m.line = "  /* 0x" ++ Text.padLeft 2 '0' (Text.hexUpper m.offset.toNat) ++ " */ " ++
      m.type.type.declarator.1 ++ m.name ++ m.type.type.declarator.2 ++ ";\n" := by
  simp [line, declaration, String.append_assoc]

/-! ### Layouts of resolved members -/

/-- Every type is what its text stands for on the host. -/
def Layout.Resolved {σ : Type} [Host σ] (l : Layout) (host : σ) : Prop :=
  ∀ m ∈ l.members, Host.parseType host m.type.text = .ok m.type.type

section

variable {σ : Type} [Host σ] {host : σ}

namespace Layout

theorem Resolved.addFields {l : Layout} (h : l.Resolved host) (struct : String) (index : Nat)
    (fields : List Field) : (l.addFields host struct index fields).value.2.Resolved host := by
  induction fields generalizing index l with
  | nil => exact h
  | cons field fields ih =>
    rw [value_addFields_cons]
    cases hm : (Member.ofField host struct index l.size field).value with
    | error e => exact h
    | ok m =>
      dsimp only
      cases hadd : l.add m with
      | error e => exact h
      | ok l' =>
        refine ih (fun other hother => ?_) (index + 1)
        rw [members_add hadd] at hother
        rcases List.mem_append.1 hother with hother | hother
        · exact h other hother
        · rw [List.mem_singleton.1 hother]
          exact (Member.ofField_type hm).2

end Layout

end

namespace Descriptor

/-- If the turn parses, it parses against the database. -/
inductive Turn.ParsesOn (db : Database) : Turn → Prop
  | parse (fields : List Field) : ParsesOn db (.parse db fields)
  | validate {σ : Type} [Host σ] (host : σ) (id : StructId) : ParsesOn db (.validate host id)
  | call {σ : Type} [Host σ] (host : σ) (c : Call) : ParsesOn db (.call host c)

theorem take_resolved {db : Database} {d : Descriptor} {turn : Turn} (hturn : turn.ParsesOn db)
    (h : d.layout.Resolved db) : (d.take turn).layout.Resolved db := by
  by_cases hd : d.state = .uninitialized
  · cases hturn with
    | parse fields =>
      have := h.addFields d.name 0 fields
      rw [take, value_parse hd]
      rcases hl : (d.layout.addFields db d.name 0 fields).value with ⟨e | _, l⟩ <;>
        simpa [hl] using this
    | validate host id =>
      obtain ⟨bindings, hvalidate⟩ := validate_name host id d
      rw [take, hvalidate]
      exact h
    | call host c =>
      rw [take, (c.run_alike d host).2]
      exact h
  · rw [(take_of_parsed hd turn).2]
    exact h

theorem parse_resolved {db : Database} {name : String} {fields : List Field} {parsed : Descriptor}
    (hparse : ((ofName name).parse db fields).value = (.ok (), parsed)) :
    parsed.layout.Resolved db := by
  have hresolved : ((ofName name).take (.parse db fields)).layout.Resolved db :=
    take_resolved (.parse fields) nofun
  rwa [take, hparse] at hresolved

theorem takeAll_resolved {db : Database} {turns : List Turn}
    (hturns : ∀ turn ∈ turns, turn.ParsesOn db) (name : String) :
    ((ofName name).takeAll turns).layout.Resolved db := by
  induction turns using List.reverseRecOn with
  | nil => exact nofun
  | append_singleton turns turn ih =>
    rw [takeAll_append]
    exact take_resolved (hturns turn (by simp)) (ih fun turn hturn => hturns turn (by simp [hturn]))

/-- The declaration of a descriptor has a line for each member, in order of the offsets. On the line
the name of the member stands in what declares its type, in front of all dimensions that it has,
for every database with the pointers and the structs of the one that the descriptor was parsed
against. -/
theorem declaration_faithful (db : Database) (name : String) (turns : List Turn)
    (hturns : ∀ turn ∈ turns, turn.ParsesOn db) :
    let d := (ofName name).takeAll turns
    ∃ ms : List Member, ms.Perm d.layout.members ∧ ms.Pairwise (fun a b => a.offset < b.offset) ∧
      d.declaration = "struct " ++ d.name ++ " // sizeof=0x" ++ Text.hexUpper d.size.toNat ++
        "\n\x7b\n" ++ String.join (ms.map Member.line) ++ "\x7d;\n" ∧
      ∀ m ∈ ms, ∃ before after : String,
        m.line = "  /* 0x" ++ Text.padLeft 2 '0' (Text.hexUpper m.offset.toNat) ++ " */ " ++
          before ++ m.name ++ after ++ ";\n" ∧
        after = CType.dimensionSuffix (m.type.type.kind.dimensions.map Prod.fst) ∧
        ∀ other : Database, other.pointerSize = db.pointerSize → other.structs = db.structs →
          Host.parseType other (before ++ after) = .ok m.type.type := by
  intro d
  refine ⟨d.layout.byOffset, d.layout.byOffset_perm, ?_, rfl, fun m hm => ?_⟩
  · exact d.layout.byOffset_lt.imp UInt64.lt_iff_toNat_lt.2
  · have hparse : parseDeclaration db.scope m.type.text = .ok m.type.type :=
      Database.parseType_eq_ok.1
        (takeAll_resolved hturns name m (d.layout.byOffset_perm.mem_iff.1 hm))
    obtain ⟨decl, hdecl⟩ := CType.exists_namedBy hparse
    obtain ⟨-, -, -, hafter⟩ := hdecl.declarator
    refine ⟨m.type.type.declarator.1, m.type.type.declarator.2, m.line_eq, hafter, ?_⟩
    intro other hpointer hstructs
    have hscope : other.scope = db.scope := by
      unfold Database.scope Database.findByName?
      rw [hpointer, hstructs]
    rw [Database.parseType_eq_ok, hscope]
    exact CType.parseDeclaration_declarator hparse

/-- A pointer to the struct itself, an array of arrays of pointers, and an array. -/
theorem declaration_faithful_entry :
    let db := Database.empty 8
    let fields : List Field :=
      [.named "next" "struct Entry const *", .named "slots" "void * * [2][03]", .named "id" "int",
        .named "name" "char[8]"]
    let d := (ofName "Entry").takeAll [.parse db fields]
    (∀ turn ∈ [Turn.parse db fields], turn.ParsesOn db) ∧ d.layout.members.length = 4 ∧
      ∃ ms : List Member, ms.Perm d.layout.members ∧ ∀ m ∈ ms, ∃ before after : String,
        m.line = "  /* 0x" ++ Text.padLeft 2 '0' (Text.hexUpper m.offset.toNat) ++ " */ " ++
          before ++ m.name ++ after ++ ";\n" ∧
        Host.parseType db (before ++ after) = .ok m.type.type := by
  intro db fields d
  have hturns : ∀ turn ∈ [Turn.parse db fields], turn.ParsesOn db :=
    List.forall_mem_singleton.2 (.parse fields)
  obtain ⟨ms, hperm, -, -, hlines⟩ := declaration_faithful db "Entry" _ hturns
  refine ⟨hturns, by decide +kernel, ms, hperm, fun m hm => ?_⟩
  obtain ⟨before, after, hline, -, hparse⟩ := hlines m hm
  exact ⟨before, after, hline, hparse db rfl rfl⟩

end Descriptor

end StructSync
