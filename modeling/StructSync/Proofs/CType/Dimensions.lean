import Mathlib
import StructSync.Proofs.CType.Wording

/-!
# Sizes of arrays

Dimensions are put on from the inside out and every product is checked on its way. As no count is
zero, no product on the way is larger than the last one: an array is refused exactly if its own
size is no word (`CType.exists_arrayShape`). `Kind.Nested` says which kind the dimensions make.
Main statement (`parseDeclaration_array`): which dimensions can stand behind a declaration, and the
size, the name and the kind that they make.
-/

namespace StructSync

/-- Arrays around the element, outermost first, each of so many elements of the size that the counts
inside it make. -/
inductive Kind.Nested (element : Kind) (size : Nat) : List Nat → Kind → Prop
  | element : Nested element size [] element
  | level {kind : Kind} {elementSize count : UInt64} {inner : List Nat} :
    Nested element size inner kind → elementSize.toNat = size * inner.prod →
    Nested element size (count.toNat :: inner) (.array kind elementSize count)

/-! ### Shapes -/

namespace CType

variable {element : CType} {counts : List UInt64} {size : UInt64} {kind : Kind}

theorem arrayShape_cons_eq_ok {count : UInt64} :
    element.arrayShape (count :: counts) = .ok (size, kind) ↔
      ∃ innerSize inner, element.arrayShape counts = .ok (innerSize, inner) ∧ count ≠ 0 ∧
        size.toNat = innerSize.toNat * count.toNat ∧ kind = .array inner innerSize count := by
  rw [arrayShape]
  simp only [bind_eq_ok, Prod.exists]
  refine exists_congr fun innerSize => exists_congr fun inner => and_congr_right fun _ => ?_
  by_cases hzero : count = 0
  · rw [if_pos hzero]
    exact ⟨nofun, fun h => absurd hzero h.1⟩
  · rw [if_neg hzero, ← mulWord?_eq_some]
    cases hmul : mulWord? innerSize count with
    | none => exact ⟨nofun, nofun⟩
    | some total => simp [hzero, eq_comm]

theorem arrayShape_ok (h : element.arrayShape counts = .ok (size, kind)) :
    (∀ count ∈ counts, 1 ≤ count.toNat) ∧
      size.toNat = element.size.toNat * (counts.map UInt64.toNat).prod ∧
      element.kind.Nested element.size.toNat (counts.map UInt64.toNat) kind := by
  induction counts generalizing size kind with
  | nil =>
    cases h
    exact ⟨by simp, by simp, .element⟩
  | cons count counts ih =>
    obtain ⟨innerSize, inner, hinner, hcount, hsize, rfl⟩ := arrayShape_cons_eq_ok.1 h
    obtain ⟨hcounts, hinnerSize, hnested⟩ := ih hinner
    have hpos : 1 ≤ count.toNat := by
      rw [Nat.one_le_iff_ne_zero]
      exact fun hzero => hcount (UInt64.toNat_inj.1 hzero)
    refine ⟨List.forall_mem_cons.2 ⟨hpos, hcounts⟩, ?_, .level hnested hinnerSize⟩
    rw [hsize, hinnerSize, List.map_cons, List.prod_cons, Nat.mul_assoc, Nat.mul_comm count.toNat]

/-- No product on the way is larger than the last one. -/
theorem exists_arrayShape (hcounts : ∀ count ∈ counts, 1 ≤ count.toNat)
    (hword : element.size.toNat * (counts.map UInt64.toNat).prod < UInt64.size) :
    ∃ size kind, element.arrayShape counts = .ok (size, kind) := by
  induction counts with
  | nil => exact ⟨element.size, element.kind, rfl⟩
  | cons count counts ih =>
    obtain ⟨hcount, hcounts⟩ := List.forall_mem_cons.1 hcounts
    rw [List.map_cons, List.prod_cons, Nat.mul_left_comm] at hword
    have hinner : element.size.toNat * (counts.map UInt64.toNat).prod < UInt64.size :=
      (Nat.le_mul_of_pos_left _ hcount).trans_lt hword
    obtain ⟨innerSize, inner, hshape⟩ := ih hcounts hinner
    have hsize : (UInt64.ofNat (innerSize.toNat * count.toNat)).toNat =
        innerSize.toNat * count.toNat := by
      refine UInt64.toNat_ofNat_of_lt' ?_
      rwa [(arrayShape_ok hshape).2.1, Nat.mul_comm]
    refine ⟨_, _, arrayShape_cons_eq_ok.2 ⟨innerSize, inner, hshape, ?_, hsize, rfl⟩⟩
    rintro rfl
    cases hcount

end CType

/-! ### Counts -/

theorem dimensionCount_eq_ok {digits : List Char} {count : UInt64} :
    dimensionCount digits = .ok count ↔ count.toNat = Nat.ofDigitChars 10 digits 0 := by
  rw [← wordOfNat?_eq_some]
  unfold dimensionCount
  cases wordOfNat? (Nat.ofDigitChars 10 digits 0) <;> simp

theorem mapM_dimensionCount_eq_ok {dimensions : List (List Char)} {counts : List UInt64} :
    dimensions.mapM dimensionCount = .ok counts ↔
      counts.map UInt64.toNat = dimensions.map (Nat.ofDigitChars 10 · 0) := by
  induction dimensions generalizing counts with
  | nil =>
    simp [List.mapM_nil, pure, Except.pure, eq_comm]
  | cons digits dimensions ih =>
    rw [List.mapM_cons]
    simp only [bind_eq_ok, dimensionCount_eq_ok, ih]
    cases counts with
    | nil => simp [pure, Except.pure]
    | cons count counts => simp [pure, Except.pure]

namespace Declaration

/-- The type that stands before the dimensions: the base or a pointer to it. -/
def element (scope : TypeScope) (decl : Declaration) : Except DeclarationError CType := do
  let base ← scope.base (decl.words.filter (!isQualifier ·)) (decl.stars > 0)
  return scope.pointerTo base decl.stars

/-- The values of the dimensions, outermost first. -/
def counts (decl : Declaration) : List Nat := decl.dimensions.map (Nat.ofDigitChars 10 · 0)

variable {scope : TypeScope} {decl : Declaration} {element type : CType}

theorem resolve_eq_ok_element (helement : decl.element scope = .ok element) :
    decl.resolve scope = .ok type ↔ ∃ counts : List UInt64,
      counts.map UInt64.toNat = decl.counts ∧ element.arrayOf counts = .ok type ∧
        type.size ≠ 0 := by
  obtain ⟨base, hbase, hpointer⟩ := bind_eq_ok.1 helement
  obtain rfl : scope.pointerTo base decl.stars = element := Except.ok.inj hpointer
  rw [resolve_eq_ok]
  simp only [mapM_dimensionCount_eq_ok]
  constructor
  · rintro ⟨base', counts, hbase', hrest⟩
    obtain rfl : base = base' := Except.ok.inj (hbase.symm.trans hbase')
    exact ⟨counts, hrest⟩
  · rintro ⟨counts, hrest⟩
    exact ⟨base, counts, hbase, hrest⟩

/-- Without its dimensions the declaration stands for this type, if the type has a size. -/
theorem resolve_without_dimensions :
    { decl with dimensions := [] }.resolve scope = .ok type ↔
      decl.element scope = .ok type ∧ type.size ≠ 0 := by
  have hself (b : CType) : b.arrayOf [] = .ok b :=
    congrArg Except.ok (by simp [CType.dimensionSuffix])
  rw [resolve_eq_ok]
  unfold element
  simp only [bind_eq_ok, List.mapM_nil]
  constructor
  · rintro ⟨base, _, hbase, ⟨⟩, harray, hsize⟩
    exact ⟨⟨base, hbase, (hself _).symm.trans harray⟩, hsize⟩
  · rintro ⟨⟨base, hbase, hpointer⟩, hsize⟩
    exact ⟨base, [], hbase, rfl, (hself _).trans hpointer, hsize⟩

end Declaration

theorem exists_counts {values : List Nat} (h : ∀ n ∈ values, n ≤ 2 ^ 64 - 1) :
    ∃ counts : List UInt64, counts.map UInt64.toNat = values := by
  induction values with
  | nil => exact ⟨[], rfl⟩
  | cons n values ih =>
    obtain ⟨hn, hvalues⟩ := List.forall_mem_cons.1 h
    obtain ⟨counts, rfl⟩ := ih hvalues
    refine ⟨UInt64.ofNat n :: counts, ?_⟩
    rw [List.map_cons, UInt64.toNat_ofNat_of_lt' (by rw [word_size_eq]; omega)]

theorem CType.dimensionSuffix_eq (counts : List UInt64) :
    dimensionSuffix counts =
      String.join ((counts.map UInt64.toNat).map fun n => "[" ++ toString n ++ "]") := by
  rw [List.map_map]
  rfl

theorem CType.arrayOf_eq_ok {element type : CType} {counts : List UInt64} :
    element.arrayOf counts = .ok type ↔ ∃ size kind, element.arrayShape counts = .ok (size, kind) ∧
      ⟨size, element.name ++ dimensionSuffix counts, kind⟩ = type := by
  unfold arrayOf
  simp only [bind_eq_ok, Prod.exists, Except.ok.injEq]

/-- Dimensions can stand behind a declaration exactly if what they stand behind has a size, every
count is a word and not zero, and the product of all is a word. This product is the size then; the
name gets the counts in decimal digits; and the kind is arrays, one inside the other. -/
theorem parseDeclaration_array {scope : TypeScope} {text : String} {decl : Declaration}
    {element : CType} (hrenders : decl.Renders text.toList)
    (helement : decl.element scope = .ok element) :
    ((∃ type, parseDeclaration scope text = .ok type) ↔
      0 < element.size.toNat ∧ (∀ n ∈ decl.counts, 1 ≤ n ∧ n ≤ 2 ^ 64 - 1) ∧
        element.size.toNat * decl.counts.prod < 2 ^ 64) ∧
    ∀ type, parseDeclaration scope text = .ok type →
      type.size.toNat = element.size.toNat * decl.counts.prod ∧
      type.name =
        element.name ++ String.join (decl.counts.map fun n => "[" ++ toString n ++ "]") ∧
      element.kind.Nested element.size.toNat decl.counts type.kind := by
  rw [parseDeclaration_of_renders hrenders]
  simp only [Declaration.resolve_eq_ok_element helement, CType.arrayOf_eq_ok]
  refine ⟨⟨?_, fun ⟨hpos, hcounts, hword⟩ => ?_⟩, ?_⟩
  · rintro ⟨_, counts, hcounts, ⟨size, kind, hshape, rfl⟩, hsize⟩
    obtain ⟨hone, hproduct, -⟩ := CType.arrayShape_ok hshape
    rw [hcounts] at hproduct
    have hne : size.toNat ≠ 0 := fun h => hsize (UInt64.toNat_inj.1 h)
    refine ⟨Nat.pos_of_ne_zero fun hzero => hne (by rw [hproduct, hzero, Nat.zero_mul]), ?_, ?_⟩
    · rw [← hcounts]
      intro n hn
      obtain ⟨count, hcount, rfl⟩ := List.mem_map.1 hn
      exact ⟨hone count hcount, Nat.le_pred_of_lt count.toNat_lt⟩
    · rw [← hproduct]
      exact size.toNat_lt
  · obtain ⟨counts, hvalues⟩ := exists_counts fun n hn => (hcounts n hn).2
    have hone : ∀ count ∈ counts, 1 ≤ count.toNat := fun count hcount =>
      (hcounts _ (hvalues ▸ List.mem_map_of_mem hcount)).1
    obtain ⟨size, kind, hshape⟩ := CType.exists_arrayShape hone (by rw [hvalues]; exact hword)
    refine ⟨_, counts, hvalues, ⟨size, kind, hshape, rfl⟩, fun hzero => ?_⟩
    have hproduct := (CType.arrayShape_ok hshape).2.1
    have hprod : 0 < decl.counts.prod := List.prod_pos fun n hn => (hcounts n hn).1
    rw [hvalues, show size = 0 from hzero] at hproduct
    exact absurd hproduct.symm (Nat.mul_pos hpos hprod).ne'
  · rintro _ ⟨counts, hcounts, ⟨size, kind, hshape, rfl⟩, -⟩
    obtain ⟨-, hproduct, hnested⟩ := CType.arrayShape_ok hshape
    rw [← hcounts]
    exact ⟨hproduct, congrArg (element.name ++ ·) (CType.dimensionSuffix_eq counts), hnested⟩

/-- An array of arrays of pointers. -/
theorem parseDeclaration_array_pointers :
    (⟨["unsigned", "char"], 2, [['2'], ['0', '3']]⟩ : Declaration).Renders
        "unsigned char **[2][03]".toList ∧
      (∃ type, parseDeclaration ⟨8, fun _ => none⟩ "unsigned char **[2][03]" = .ok type ∧
        type.size.toNat = 8 * [2, 3].prod ∧ type.name = "unsigned char **[2][3]" ∧
        Kind.pointer.Nested 8 [2, 3] type.kind) := by
  have hrenders : (⟨["unsigned", "char"], 2, [['2'], ['0', '3']]⟩ : Declaration).Renders
      "unsigned char **[2][03]".toList :=
    Declaration.ofText?_eq_some.1 (by decide +kernel)
  have helement : (⟨["unsigned", "char"], 2, [['2'], ['0', '3']]⟩ : Declaration).element
      ⟨8, fun _ => none⟩ = .ok ⟨8, "unsigned char **", .pointer⟩ := by decide +kernel
  obtain ⟨hok, hshape⟩ := parseDeclaration_array hrenders helement
  obtain ⟨type, htype⟩ := hok.2 (by decide)
  exact ⟨hrenders, type, htype, hshape type htype⟩

end StructSync
