import Mathlib
import StructSync.CType.Declaration

/-!
# Texts and tokens

`Spells` says which tokens a text spells: tokens stand one behind the other with any white space
around them, and a word or number ends where its characters do. Main statements: `scan` finds the
tokens that a text spells (`scan_eq_some`), and a list of tokens is a declaration exactly if it is
the tokens of one (`Declaration.ofTokens?_eq_some`).
-/

namespace StructSync

/-- A letter or `_`, then letters, digits and `_`. -/
def IsWord : List Char → Prop
  | [] => False
  | c :: rest => isWordStart c = true ∧ ∀ d ∈ rest, isWordChar d = true

instance : DecidablePred IsWord
  | [] => inferInstanceAs (Decidable False)
  | c :: rest => decidable_of_iff (isWordStart c && rest.all isWordChar) (by simp [IsWord])

/-- Digits, one at least. -/
def IsNumber (digits : List Char) : Prop := digits ≠ [] ∧ ∀ d ∈ digits, d.isDigit = true

/-- The characters spell the tokens. -/
inductive Spells : List Char → List Token → Prop
  | nil : Spells [] []
  | blank {c : Char} {cs : List Char} {tokens : List Token} : isBlank c = true →
    Spells cs tokens → Spells (c :: cs) tokens
  | star {cs : List Char} {tokens : List Token} : Spells cs tokens →
    Spells ('*' :: cs) (.star :: tokens)
  | opening {cs : List Char} {tokens : List Token} : Spells cs tokens →
    Spells ('[' :: cs) (.opening :: tokens)
  | closing {cs : List Char} {tokens : List Token} : Spells cs tokens →
    Spells (']' :: cs) (.closing :: tokens)
  | word {w cs : List Char} {tokens : List Token} : IsWord w →
    (∀ c ∈ cs.head?, isWordChar c = false) → Spells cs tokens →
    Spells (w ++ cs) (.word (String.ofList w) :: tokens)
  | number {digits cs : List Char} {tokens : List Token} : IsNumber digits →
    (∀ c ∈ cs.head?, c.isDigit = false) → Spells cs tokens →
    Spells (digits ++ cs) (.number digits :: tokens)

variable {c : Char} {cs : List Char} {ts : List Token}

/-! ### Characters -/

theorem isBlank_eq_false (h : 33 ≤ c.toNat) (h' : c.toNat ≤ 132) : isBlank c = false := by
  simp only [isBlank, Bool.or_eq_false_iff, Bool.and_eq_false_iff, decide_eq_false_iff_not,
    beq_eq_false_iff_ne]
  omega

theorem toNat_of_isDigit (h : c.isDigit = true) : 48 ≤ c.toNat ∧ c.toNat ≤ 57 := by
  simpa [Char.isDigit, UInt32.le_iff_toNat_le] using h

theorem toNat_of_isWordStart (h : isWordStart c = true) :
    65 ≤ c.toNat ∧ c.toNat ≤ 90 ∨ c.toNat = 95 ∨ 97 ≤ c.toNat ∧ c.toNat ≤ 122 := by
  simp only [isWordStart, Char.isAlpha, Char.isUpper, Char.isLower, Bool.or_eq_true,
    Bool.and_eq_true, decide_eq_true_eq, beq_iff_eq, ge_iff_le, UInt32.le_iff_toNat_le] at h
  change ((65 ≤ c.toNat ∧ c.toNat ≤ 90) ∨ 97 ≤ c.toNat ∧ c.toNat ≤ 122) ∨ c = '_' at h
  rcases h with (h | h) | rfl
  · exact .inl h
  · exact .inr (.inr h)
  · exact .inr (.inl rfl)

theorem isWordStart_of_isDigit (h : c.isDigit = true) : isWordStart c = false := by
  have := toNat_of_isDigit h
  refine Bool.of_not_eq_true fun hstart => ?_
  have := toNat_of_isWordStart hstart
  omega

theorem isWordChar_of_isWordStart (h : isWordStart c = true) : isWordChar c = true := by
  simp only [isWordStart, isWordChar, Char.isAlphanum, Bool.or_eq_true] at h ⊢
  exact h.imp_left .inl

theorem isWordChar_of_isDigit (h : c.isDigit = true) : isWordChar c = true := by
  simp [isWordChar, Char.isAlphanum, h]

theorem notMark_of_isWordChar (h : isWordChar c = true) :
    isBlank c = false ∧ c ≠ '*' ∧ c ≠ '[' ∧ c ≠ ']' := by
  have hrange : (48 ≤ c.toNat ∧ c.toNat ≤ 57) ∨
      65 ≤ c.toNat ∧ c.toNat ≤ 90 ∨ c.toNat = 95 ∨ 97 ≤ c.toNat ∧ c.toNat ≤ 122 := by
    simp only [isWordChar, Char.isAlphanum, Bool.or_eq_true] at h
    rcases h with (halpha | hdigit) | hunder
    · exact .inr (toNat_of_isWordStart (by simp [isWordStart, halpha]))
    · exact .inl (toNat_of_isDigit hdigit)
    · exact .inr (toNat_of_isWordStart (by simp [isWordStart, hunder]))
  refine ⟨isBlank_eq_false (by omega) (by omega), ?_, ?_, ?_⟩ <;> rintro rfl <;> simp at hrange

theorem IsWord.ne_nil (h : IsWord cs) : cs ≠ [] := by
  rintro rfl
  exact h

theorem IsWord.isWordChar (h : IsWord cs) : ∀ c ∈ cs, isWordChar c = true := by
  cases cs with
  | nil => exact h.elim
  | cons c rest =>
    exact List.forall_mem_cons.2 ⟨isWordChar_of_isWordStart h.1, h.2⟩

/-! ### Scanning -/

theorem head?_dropWhile {p : Char → Bool} {cs : List Char} :
    ∀ c ∈ (cs.dropWhile p).head?, p c = false := by
  intro c hc
  have := List.head?_dropWhile_not p cs
  rw [hc] at this
  simpa using this

theorem scan_of_spells (h : Spells cs ts) : scan cs = some ts := by
  induction h with
  | nil => exact scan_nil
  | blank hc _ ih => rw [scan, if_pos hc, ih]
  | star _ ih => rw [scan, if_neg (by decide), if_pos (by decide), ih]; rfl
  | opening _ ih =>
    rw [scan, if_neg (by decide), if_neg (by decide), if_pos (by decide), ih]; rfl
  | closing _ ih =>
    rw [scan, if_neg (by decide), if_neg (by decide), if_neg (by decide), if_pos (by decide), ih]
    rfl
  | @word w cs ts hw hstop _ ih =>
    cases w with
    | nil => exact hw.elim
    | cons c rest =>
      obtain ⟨hstart, hrest⟩ := hw
      obtain ⟨hblank, hstar, hopening, hclosing⟩ :=
        notMark_of_isWordChar (isWordChar_of_isWordStart hstart)
      obtain ⟨htake, hdrop⟩ := Text.takeWhile_append_of_stops hrest hstop
      rw [List.cons_append, scan]
      simp [hblank, hstar, hopening, hclosing, hstart, htake, hdrop, ih]
  | @number digits cs ts hdigits hstop _ ih =>
    obtain ⟨hne, hall⟩ := hdigits
    cases digits with
    | nil => exact absurd rfl hne
    | cons c rest =>
      obtain ⟨hdigit, hrest⟩ := List.forall_mem_cons.1 hall
      obtain ⟨hblank, hstar, hopening, hclosing⟩ :=
        notMark_of_isWordChar (isWordChar_of_isDigit hdigit)
      obtain ⟨htake, hdrop⟩ := Text.takeWhile_append_of_stops hrest hstop
      rw [List.cons_append, scan]
      simp [hblank, hstar, hopening, hclosing, isWordStart_of_isDigit hdigit, hdigit, htake, hdrop,
        ih]

theorem spells_of_scan (h : scan cs = some ts) : Spells cs ts := by
  fun_induction scan cs generalizing ts with
  | case1 => cases h; exact .nil
  | case2 c rest hblank ih => exact .blank hblank (ih h)
  | case3 c rest hblank hstar ih =>
    obtain ⟨tail, htail, rfl⟩ := Option.map_eq_some_iff.1 h
    obtain rfl : c = '*' := by simpa using hstar
    exact .star (ih htail)
  | case4 c rest hblank hstar hopening ih =>
    obtain ⟨tail, htail, rfl⟩ := Option.map_eq_some_iff.1 h
    obtain rfl : c = '[' := by simpa using hopening
    exact .opening (ih htail)
  | case5 c rest hblank hstar hopening hclosing ih =>
    obtain ⟨tail, htail, rfl⟩ := Option.map_eq_some_iff.1 h
    obtain rfl : c = ']' := by simpa using hclosing
    exact .closing (ih htail)
  | case6 c rest hblank hstar hopening hclosing hstart ih =>
    obtain ⟨tail, htail, rfl⟩ := Option.map_eq_some_iff.1 h
    have hword : IsWord (c :: rest.takeWhile isWordChar) :=
      ⟨hstart, fun d hd => List.mem_takeWhile_imp hd⟩
    have := Spells.word hword head?_dropWhile (ih htail)
    rwa [List.cons_append, List.takeWhile_append_dropWhile] at this
  | case7 c rest hblank hstar hopening hclosing hstart hdigit ih =>
    obtain ⟨tail, htail, rfl⟩ := Option.map_eq_some_iff.1 h
    have hnumber : IsNumber (c :: rest.takeWhile Char.isDigit) :=
      ⟨by simp, List.forall_mem_cons.2 ⟨hdigit, fun d hd => List.mem_takeWhile_imp hd⟩⟩
    have := Spells.number hnumber head?_dropWhile (ih htail)
    rwa [List.cons_append, List.takeWhile_append_dropWhile] at this
  | case8 => cases h

theorem scan_eq_some : scan cs = some ts ↔ Spells cs ts :=
  ⟨spells_of_scan, scan_of_spells⟩

/-! ### Declarations as tokens -/

namespace Declaration

/-- A dimension in its brackets. -/
def dimensionTokens (digits : List Char) : List Token := [.opening, .number digits, .closing]

/-- The tokens of a declaration. -/
def tokens (decl : Declaration) : List Token :=
  decl.words.map .word ++
    (List.replicate decl.stars .star ++ decl.dimensions.flatMap dimensionTokens)

theorem splitWords_append (tokens : List Token) :
    (splitWords tokens).1.map .word ++ (splitWords tokens).2 = tokens := by
  fun_induction splitWords tokens with
  | case1 text rest words rest' h ih =>
    rw [h] at ih
    exact congrArg (Token.word text :: ·) ih
  | case2 => rfl

theorem splitWords_words (words : List String) {rest : List Token}
    (hrest : ∀ text, rest.head? ≠ some (.word text)) :
    splitWords (words.map .word ++ rest) = (words, rest) := by
  induction words with
  | nil =>
    cases rest with
    | nil => rfl
    | cons token rest =>
      cases token with
      | word text => exact absurd rfl (hrest text)
      | _ => rfl
  | cons text words ih =>
    rw [List.map_cons, List.cons_append, splitWords, ih]

theorem splitStars_append (tokens : List Token) :
    List.replicate (splitStars tokens).1 .star ++ (splitStars tokens).2 = tokens := by
  fun_induction splitStars tokens with
  | case1 rest stars rest' h ih =>
    rw [h] at ih
    exact congrArg (Token.star :: ·) ih
  | case2 => rfl

theorem splitStars_stars (stars : Nat) {rest : List Token} (hrest : rest.head? ≠ some .star) :
    splitStars (List.replicate stars .star ++ rest) = (stars, rest) := by
  induction stars with
  | zero =>
    cases rest with
    | nil => rfl
    | cons token rest =>
      cases token with
      | star => exact absurd rfl hrest
      | _ => rfl
  | succ stars ih => rw [List.replicate_succ, List.cons_append, splitStars, ih]

theorem dimensions?_eq_some {tokens : List Token} {dimensions : List (List Char)} :
    dimensions? tokens = some dimensions ↔ tokens = dimensions.flatMap dimensionTokens := by
  constructor
  · intro h
    fun_induction dimensions? tokens generalizing dimensions with
    | case1 => cases h; rfl
    | case2 digits rest ih =>
      obtain ⟨tail, htail, rfl⟩ := Option.map_eq_some_iff.1 h
      rw [List.flatMap_cons, ← ih htail]
      rfl
    | case3 => cases h
  · rintro rfl
    induction dimensions with
    | nil => rfl
    | cons digits tail ih =>
      rw [List.flatMap_cons, dimensionTokens]
      simp only [List.cons_append, List.nil_append, dimensions?, ih, Option.map_some]

theorem head?_dimensions (dimensions : List (List Char)) :
    ∀ token ∈ (dimensions.flatMap dimensionTokens).head?, token = .opening := by
  cases dimensions <;> simp [dimensionTokens]

theorem ofTokens?_eq_some {tokens : List Token} {decl : Declaration} :
    ofTokens? tokens = some decl ↔ decl.words ≠ [] ∧ tokens = decl.tokens := by
  unfold ofTokens?
  constructor
  · intro h
    have hwords := splitWords_append tokens
    have hstars := splitStars_append (splitWords tokens).2
    dsimp only at h
    split at h
    · cases h
    · next hne =>
      obtain ⟨dimensions, hdimensions, rfl⟩ := Option.map_eq_some_iff.1 h
      rw [dimensions?_eq_some.1 hdimensions] at hstars
      exact ⟨by simpa using hne, hwords.symm.trans (congrArg (_ ++ ·) hstars.symm)⟩
  · rintro ⟨hne, rfl⟩
    have hdimensions : dimensions? (decl.dimensions.flatMap dimensionTokens) = _ :=
      dimensions?_eq_some.2 rfl
    have hopening := head?_dimensions decl.dimensions
    unfold tokens
    generalize decl.dimensions.flatMap dimensionTokens = rest at hdimensions hopening
    have hstars : splitStars (List.replicate decl.stars .star ++ rest) = (decl.stars, rest) :=
      splitStars_stars decl.stars fun h => nomatch hopening _ h
    have hwords : splitWords (decl.words.map .word ++ (List.replicate decl.stars .star ++ rest)) =
        (decl.words, List.replicate decl.stars .star ++ rest) := by
      refine splitWords_words decl.words fun text hword => ?_
      cases hzero : decl.stars with
      | zero =>
        rw [hzero] at hword
        cases hopening _ hword
      | succ stars => simp [hzero, List.replicate_succ] at hword
    rw [hwords]
    dsimp only
    rw [hstars]
    simp [hne, hdimensions]

end Declaration

end StructSync
