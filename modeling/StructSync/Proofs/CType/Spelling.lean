import Mathlib
import StructSync.Proofs.CType.Integer
import StructSync.Proofs.Resolve

/-!
# Canonical names

A declaration that is `Written` has a text (`Declaration.text`) that is read back as the same
declaration (`Declaration.ofText?_text`). The name of a type is the text of such a declaration
(`Declaration.canonical`), which stands for the same type as the one it was read from. Main
statement (`parseDeclaration_name`): the name of a type declares the type.
-/

namespace StructSync

/-! ### Texts of declarations -/

/-- The last character is no white space and no `;`. -/
def EndsBare (cs : List Char) : Prop := ∃ init c, cs = init ++ [c] ∧ isBlank c = false ∧ c ≠ ';'

theorem EndsBare.append {back : List Char} (h : EndsBare back) (front : List Char) :
    EndsBare (front ++ back) := by
  obtain ⟨init, c, rfl, hblank, hne⟩ := h
  exact ⟨front ++ init, c, (List.append_assoc _ _ _).symm, hblank, hne⟩

theorem endsBare_of_isWord {w : List Char} (h : IsWord w) : EndsBare w := by
  refine ⟨w.dropLast, w.getLast h.ne_nil, (List.dropLast_append_getLast h.ne_nil).symm, ?_⟩
  have hchar := h.isWordChar _ (List.getLast_mem h.ne_nil)
  refine ⟨(notMark_of_isWordChar hchar).1, fun heq => ?_⟩
  rw [heq] at hchar
  exact absurd hchar (by decide)

theorem Declaration.body_eq_self {c : Char} {rest : List Char} (hhead : isBlank c = false)
    (hend : EndsBare (c :: rest)) : body (c :: rest) = c :: rest := by
  have htrim : Text.trim (c :: rest) = c :: rest := by
    unfold Text.trim Text.trimEnd Text.trimStart
    rw [List.dropWhile_cons_of_neg (by simp [hhead])]
    obtain ⟨init, d, heq, hblank, -⟩ := hend
    rw [heq, List.reverse_concat, List.dropWhile_cons_of_neg (by simp [hblank]),
      List.reverse_cons, List.reverse_reverse]
  unfold body
  rw [htrim]
  obtain ⟨init, d, heq, -, hne⟩ := hend
  rw [heq, List.reverse_concat, List.dropWhile_cons_of_neg (by simp [hne]),
    List.reverse_cons, List.reverse_reverse, ← heq, htrim]

/-- It is made of the characters that tokens of its kind are made of. -/
def Token.Formed : Token → Prop
  | .word text => IsWord text.toList
  | .number digits => IsNumber digits
  | _ => True

theorem Spells.formed {cs : List Char} {ts : List Token} (h : Spells cs ts) :
    ∀ token ∈ ts, token.Formed := by
  induction h with
  | nil => simp
  | blank _ _ ih => exact ih
  | star _ ih | opening _ ih | closing _ ih => exact List.forall_mem_cons.2 ⟨trivial, ih⟩
  | @word w _ _ hword _ _ ih =>
    have hformed : (Token.word (String.ofList w)).Formed := by
      change IsWord (String.ofList w).toList
      rwa [String.toList_ofList]
    exact List.forall_mem_cons.2 ⟨hformed, ih⟩
  | number hnumber _ _ ih => exact List.forall_mem_cons.2 ⟨hnumber, ih⟩

namespace Declaration

variable {decl : Declaration}

/-- It has a text: there are words, and words and dimensions are made of the right characters. -/
structure Written (decl : Declaration) : Prop where
  words_ne_nil : decl.words ≠ []
  words : ∀ w ∈ decl.words, IsWord w.toList
  dimensions : ∀ digits ∈ decl.dimensions, IsNumber digits

def starsText : Nat → List Char
  | 0 => []
  | stars + 1 => ' ' :: List.replicate (stars + 1) '*'

def dimensionText (digits : List Char) : List Char := '[' :: (digits ++ [']'])

/-- Words with one blank between them, a blank before the stars, no other white space. -/
def text (decl : Declaration) : List Char :=
  (" ".intercalate decl.words).toList ++
    (starsText decl.stars ++ decl.dimensions.flatMap dimensionText)

theorem toList_intercalate_cons (w next : String) (words : List String) :
    (" ".intercalate (w :: next :: words)).toList =
      w.toList ++ (' ' :: (" ".intercalate (next :: words)).toList) := by
  rw [String.intercalate_cons_cons]
  simp

theorem spells_words {words : List String} {rest : List Char} {ts : List Token}
    (hne : words ≠ []) (hwords : ∀ w ∈ words, IsWord w.toList)
    (hstop : ∀ c ∈ rest.head?, isWordChar c = false) (hrest : Spells rest ts) :
    Spells ((" ".intercalate words).toList ++ rest) (words.map .word ++ ts) := by
  induction words with
  | nil => exact absurd rfl hne
  | cons w words ih =>
    obtain ⟨hw, hwords⟩ := List.forall_mem_cons.1 hwords
    have hword : Token.word w = .word (String.ofList w.toList) := by rw [String.ofList_toList]
    cases words with
    | nil =>
      rw [String.intercalate_singleton, List.map_singleton, hword]
      exact .word hw hstop hrest
    | cons next words =>
      rw [toList_intercalate_cons, List.append_assoc, List.map_cons, hword]
      exact .word hw (by simp [isWordChar]) (.blank (by decide) (ih (by simp) hwords))

theorem spells_stars {rest : List Char} {ts : List Token} (stars : Nat) (hrest : Spells rest ts) :
    Spells (starsText stars ++ rest) (List.replicate stars .star ++ ts) := by
  have hrun (n : Nat) : Spells (List.replicate n '*' ++ rest) (List.replicate n .star ++ ts) := by
    induction n with
    | zero => exact hrest
    | succ n ih => exact .star ih
  cases stars with
  | zero => exact hrest
  | succ stars => exact .blank (by decide) (hrun (stars + 1))

theorem spells_dimensions {dimensions : List (List Char)}
    (h : ∀ digits ∈ dimensions, IsNumber digits) :
    Spells (dimensions.flatMap dimensionText) (dimensions.flatMap dimensionTokens) := by
  induction dimensions with
  | nil => exact .nil
  | cons digits dimensions ih =>
    obtain ⟨hdigits, hrest⟩ := List.forall_mem_cons.1 h
    have := Spells.opening (.number hdigits (by simp) (.closing (ih hrest)))
    simpa [dimensionText, dimensionTokens] using this

theorem head?_behindWords (stars : Nat) (dimensions : List (List Char)) :
    ∀ c ∈ (starsText stars ++ dimensions.flatMap dimensionText).head?, isWordChar c = false := by
  cases stars with
  | zero => cases dimensions <;> simp [starsText, dimensionText, isWordChar]
  | succ stars => simp [starsText, isWordChar]

theorem spells_text (h : decl.Written) : Spells decl.text decl.tokens :=
  spells_words h.words_ne_nil h.words (head?_behindWords _ _)
    (spells_stars _ (spells_dimensions h.dimensions))

theorem endsBare_words {words : List String} (hne : words ≠ [])
    (h : ∀ w ∈ words, IsWord w.toList) : EndsBare (" ".intercalate words).toList := by
  induction words with
  | nil => exact absurd rfl hne
  | cons w words ih =>
    obtain ⟨hw, hwords⟩ := List.forall_mem_cons.1 h
    cases words with
    | nil =>
      rw [String.intercalate_singleton]
      exact endsBare_of_isWord hw
    | cons next words =>
      rw [toList_intercalate_cons, List.append_cons]
      exact (ih (by simp) hwords).append _

theorem endsBare_text (h : decl.Written) : EndsBare decl.text := by
  unfold text
  rcases List.eq_nil_or_concat decl.dimensions with hdimensions | ⟨init, digits, hdimensions⟩
  · rw [hdimensions, List.flatMap_nil, List.append_nil]
    cases decl.stars with
    | zero =>
      rw [starsText, List.append_nil]
      exact endsBare_words h.words_ne_nil h.words
    | succ stars =>
      refine EndsBare.append ⟨' ' :: List.replicate stars '*', '*', ?_, by decide, by decide⟩ _
      rw [starsText, List.replicate_succ', List.cons_append]
  · rw [hdimensions, List.concat_eq_append, List.flatMap_append, List.flatMap_singleton]
    refine .append (.append (.append ?_ _) _) _
    exact ⟨'[' :: digits, ']', rfl, by decide, by decide⟩

theorem exists_text_eq_cons (h : decl.Written) :
    ∃ c rest, decl.text = c :: rest ∧ isBlank c = false := by
  unfold text
  obtain ⟨w, words, hcons⟩ := List.exists_cons_of_ne_nil h.words_ne_nil
  have hw : IsWord w.toList := h.words w (by rw [hcons]; exact List.mem_cons_self)
  obtain ⟨c, cs, hw'⟩ := List.exists_cons_of_ne_nil hw.ne_nil
  have hblank : isBlank c = false :=
    (notMark_of_isWordChar (hw.isWordChar c (by rw [hw']; exact List.mem_cons_self))).1
  rw [hcons]
  cases words with
  | nil =>
    rw [String.intercalate_singleton, hw']
    exact ⟨c, _, rfl, hblank⟩
  | cons next words =>
    rw [toList_intercalate_cons, hw']
    exact ⟨c, _, rfl, hblank⟩

theorem ofText?_text (h : decl.Written) : ofText? (String.ofList decl.text) = some decl := by
  have hbody : body decl.text = decl.text := by
    have hend := endsBare_text h
    obtain ⟨c, rest, htext, hblank⟩ := exists_text_eq_cons h
    rw [htext] at hend ⊢
    exact body_eq_self hblank hend
  rw [ofText?_eq, String.toList_ofList, hbody, scan_of_spells (spells_text h)]
  exact ofTokens?_eq_some.2 ⟨h.words_ne_nil, rfl⟩

theorem written_of_ofText? {source : String} (h : ofText? source = some decl) : decl.Written := by
  rw [ofText?_eq] at h
  obtain ⟨tokens, hscan, htokens⟩ := Option.bind_eq_some_iff.1 h
  obtain ⟨hne, rfl⟩ := ofTokens?_eq_some.1 htokens
  have hformed := (spells_of_scan hscan).formed
  refine ⟨hne, fun w hw => ?_, fun digits hdigits => ?_⟩
  · exact hformed (.word w) (List.mem_append_left _ (List.mem_map_of_mem hw))
  · refine hformed (.number digits) (List.mem_append_right _ (List.mem_append_right _ ?_))
    exact List.mem_flatMap_of_mem hdigits (by simp [dimensionTokens])

end Declaration

/-! ### Names of types -/

namespace TypeScope

variable {scope : TypeScope} {words : List String} {behindPointer : Bool} {type : CType}

/-- The words of the name that the base words get. -/
def nameWords (words : List String) : List String :=
  ((IntegerType.ofWords? words).map IntegerType.words).getD words

theorem base_of_integer {integer : IntegerType} (h : IntegerType.ofWords? words = some integer)
    (hne : words ≠ []) : scope.base words behindPointer = scope.plain words behindPointer := by
  obtain ⟨first, rest, rfl⟩ := List.exists_cons_of_ne_nil hne
  have hfirst : (Specifier.ofWord? first).isSome := by
    obtain ⟨specifiers, hspecifiers, -⟩ := Option.bind_eq_some_iff.1 h
    rw [List.mapM_cons] at hspecifiers
    obtain ⟨specifier, hspecifier, -⟩ := Option.bind_eq_some_iff.1 hspecifiers
    rw [hspecifier]
    rfl
  have hkeyword : aggregateKeywords.contains first = false := by
    refine Bool.of_not_eq_true fun hmem => ?_
    have : first = "struct" ∨ first = "union" ∨ first = "class" := by
      simpa [aggregateKeywords] using hmem
    rcases this with rfl | rfl | rfl <;> cases hfirst
  have henum : (first == "enum") = false := by
    refine Bool.of_not_eq_true fun heq => ?_
    obtain rfl : first = "enum" := by simpa using heq
    cases hfirst
  simp only [base, hkeyword, henum, Bool.false_eq_true, ↓reduceIte]

theorem plain_name (h : scope.plain words behindPointer = .ok type) :
    type.name = plainName words := by
  rw [plain_eq] at h
  grind

theorem aggregate_name {keyword name : String}
    (h : scope.aggregate keyword name behindPointer = .ok type) :
    type.name = " ".intercalate [keyword, name] := by
  have hname : type.name = s!"{keyword} {name}" := by
    unfold aggregate at h
    grind
  rw [hname, String.intercalate_cons_cons, String.intercalate_singleton]
  rfl

/-- Words that are none of an integer type are the words of the name. -/
theorem base_name (h : scope.base words behindPointer = .ok type)
    (hinteger : IntegerType.ofWords? words = none) : type.name = " ".intercalate words := by
  unfold base at h
  split at h
  · cases h
  · split at h
    · split at h
      · exact aggregate_name h
      · cases h
    · split at h
      · next henum =>
        split at h
        · cases h
          rw [beq_iff_eq.1 henum, String.intercalate_cons_cons, String.intercalate_singleton]
          rfl
        · cases h
      · rw [plain_name h, plainName, hinteger]
        rfl

theorem base_nameWords (h : scope.base words behindPointer = .ok type) :
    scope.base (nameWords words) behindPointer = .ok type ∧
      type.name = " ".intercalate (nameWords words) := by
  unfold nameWords
  cases hinteger : IntegerType.ofWords? words with
  | none => exact ⟨h, base_name h hinteger⟩
  | some integer =>
    have hwords : words ≠ [] := by
      rintro rfl
      cases hinteger
    rw [base_of_integer hinteger hwords] at h
    obtain ⟨hne, -⟩ := integer.words_plain
    have hself := integer.ofWords?_words
    have hname : plainName words = integer.name := by simp [plainName, hinteger]
    have hname' : plainName integer.words = integer.name := by simp [plainName, hself]
    have hsame : scope.plain integer.words behindPointer = scope.plain words behindPointer := by
      obtain ⟨size, hscalar⟩ := integer.builtin?_name
      rw [plain_eq, plain_eq, hname, hname', hscalar]
    refine ⟨(base_of_integer hself hne).trans (hsame.trans h), ?_⟩
    exact ((plain_name h).trans hname).trans integer.intercalate_words.symm

theorem nameWords_plain (hne : words ≠ [])
    (h : ∀ w ∈ words, IsWord w.toList ∧ isQualifier w = false) :
    nameWords words ≠ [] ∧ ∀ w ∈ nameWords words, IsWord w.toList ∧ isQualifier w = false := by
  unfold nameWords
  cases IntegerType.ofWords? words with
  | none => exact ⟨hne, h⟩
  | some integer => exact integer.words_plain

theorem toList_pointerTo_name (base : CType) (stars : Nat) :
    (scope.pointerTo base stars).name.toList =
      base.name.toList ++ Declaration.starsText stars := by
  cases stars with
  | zero => rw [pointerTo, Declaration.starsText, List.append_nil]
  | succ stars => simp [pointerTo, Declaration.starsText]

end TypeScope

/-- The digits that a count is written with. -/
def countDigits (count : UInt64) : List Char := Nat.toDigits 10 count.toNat

theorem isNumber_countDigits (count : UInt64) : IsNumber (countDigits count) :=
  ⟨Nat.toDigits_ne_nil, fun _ => Nat.isDigit_of_mem_toDigits (b := 10) (by decide) (by decide)⟩

theorem dimensionCount_countDigits (count : UInt64) :
    dimensionCount (countDigits count) = .ok count := by
  have hvalue : Nat.ofDigitChars 10 (countDigits count) 0 = count.toNat := by
    simp [countDigits]
  rw [dimensionCount, hvalue, wordOfNat?_eq_some.2 rfl]

theorem mapM_dimensionCount (counts : List UInt64) :
    (counts.map countDigits).mapM dimensionCount = .ok counts := by
  induction counts with
  | nil => rfl
  | cons count counts ih =>
    rw [List.map_cons, List.mapM_cons, dimensionCount_countDigits, ih]
    rfl

theorem CType.toList_dimensionSuffix (counts : List UInt64) :
    (dimensionSuffix counts).toList =
      (counts.map countDigits).flatMap Declaration.dimensionText := by
  simp [dimensionSuffix, List.flatMap_map, countDigits, Declaration.dimensionText]

namespace Declaration

variable {scope : TypeScope} {decl : Declaration} {counts : List UInt64} {type : CType}

/-- The declaration that the name of the type makes. -/
def canonical (decl : Declaration) (counts : List UInt64) : Declaration where
  words := TypeScope.nameWords (decl.words.filter (!isQualifier ·))
  stars := decl.stars
  dimensions := counts.map countDigits

theorem filter_canonical (h : ∀ w ∈ (decl.canonical counts).words, isQualifier w = false) :
    (decl.canonical counts).words.filter (!isQualifier ·) = (decl.canonical counts).words :=
  List.filter_eq_self.2 fun w hw => by simp [h w hw]

theorem resolve_canonical (hwritten : decl.Written) (h : decl.resolve scope = .ok type) :
    ∃ counts, (decl.canonical counts).Written ∧ (decl.canonical counts).resolve scope = .ok type ∧
      type.name.toList = (decl.canonical counts).text := by
  obtain ⟨base, counts, hbase, hcounts, harray, hsize⟩ := resolve_eq_ok.1 h
  have hwords : decl.words.filter (!isQualifier ·) ≠ [] := by
    intro hnil
    rw [hnil] at hbase
    cases hbase
  obtain ⟨hne, hplain⟩ := TypeScope.nameWords_plain hwords fun w hw => by
    obtain ⟨hmem, hqualifier⟩ := List.mem_filter.1 hw
    exact ⟨hwritten.words w hmem, by simpa using hqualifier⟩
  obtain ⟨hbase', hname⟩ := TypeScope.base_nameWords hbase
  refine ⟨counts, ⟨hne, fun w hw => (hplain w hw).1, ?_⟩, ?_, ?_⟩
  · intro digits hdigits
    obtain ⟨count, -, rfl⟩ := List.mem_map.1 hdigits
    exact isNumber_countDigits count
  · refine resolve_eq_ok.2 ⟨base, counts, ?_, mapM_dimensionCount counts, harray, hsize⟩
    rw [filter_canonical fun w hw => (hplain w hw).2]
    exact hbase'
  · obtain ⟨⟨size, kind⟩, -, hshape⟩ := bind_eq_ok.1 harray
    cases hshape
    rw [String.toList_append, TypeScope.toList_pointerTo_name, CType.toList_dimensionSuffix, hname,
      List.append_assoc]
    rfl

end Declaration

/-- The name of a type declares the type. -/
theorem parseDeclaration_name {scope : TypeScope} {text : String} {type : CType}
    (h : parseDeclaration scope text = .ok type) : parseDeclaration scope type.name = .ok type := by
  obtain ⟨decl, hdecl, hresolve⟩ := parseDeclaration_eq_ok.1 h
  obtain ⟨counts, hwritten, hresolve', hname⟩ :=
    Declaration.resolve_canonical (Declaration.written_of_ofText? hdecl) hresolve
  refine parseDeclaration_eq_ok.2 ⟨decl.canonical counts, ?_, hresolve'⟩
  rw [← String.ofList_toList (s := type.name), hname]
  exact Declaration.ofText?_text hwritten

/-- Qualifiers, the order of the words, white space and leading zeros are not in the name. -/
theorem parseDeclaration_name_pointers :
    parseDeclaration ⟨8, fun _ => none⟩ " volatile int\tlong const unsigned** [ 02 ] [3] ;" =
        .ok ⟨48, "unsigned long **[2][3]", .array (.array .pointer 8 3) 24 2⟩ ∧
      parseDeclaration ⟨8, fun _ => none⟩ "unsigned long **[2][3]" =
        .ok ⟨48, "unsigned long **[2][3]", .array (.array .pointer 8 3) 24 2⟩ := by
  have h : parseDeclaration ⟨8, fun _ => none⟩
      " volatile int\tlong const unsigned** [ 02 ] [3] ;" =
        .ok ⟨48, "unsigned long **[2][3]", .array (.array .pointer 8 3) 24 2⟩ := by decide +kernel
  have hname := parseDeclaration_name h
  exact ⟨h, hname⟩

end StructSync
