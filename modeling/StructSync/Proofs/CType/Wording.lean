import Mathlib
import StructSync.Proofs.CType.Spelling

/-!
# The grammar of texts

`Declaration.Renders` says character by character which texts are a declaration: white space, words
with white space between them, stars, dimensions, white space, a run of `;`, white space. It knows
of no tokens and of no trimming. Main statement (`parseDeclaration_grammar`): the texts that are
refused for their shape are those that render no declaration, and what becomes of the others
depends on their tokens alone, qualifiers left out.
-/

namespace StructSync

/-- Nothing but white space. -/
def IsGap (cs : List Char) : Prop := ∀ c ∈ cs, isBlank c = true

theorem IsGap.nil : IsGap [] := by simp [IsGap]

theorem IsGap.append {front back : List Char} (hfront : IsGap front) (hback : IsGap back) :
    IsGap (front ++ back) := by
  intro c hc
  exact (List.mem_append.1 hc).elim (hfront c) (hback c)

namespace Declaration

/-- Words with white space between them. -/
inductive WordsText : List Char → List String → Prop
  | last {w : List Char} : IsWord w → WordsText w [String.ofList w]
  | more {w gap cs : List Char} {words : List String} : IsWord w → gap ≠ [] → IsGap gap →
    WordsText cs words → WordsText (w ++ (gap ++ cs)) (String.ofList w :: words)

/-- Stars, with any white space before each. -/
inductive StarsText : List Char → Nat → Prop
  | none : StarsText [] 0
  | more {gap cs : List Char} {stars : Nat} : IsGap gap → StarsText cs stars →
    StarsText (gap ++ '*' :: cs) (stars + 1)

/-- Digits in brackets, with any white space before and inside the brackets. -/
inductive DimensionsText : List Char → List (List Char) → Prop
  | none : DimensionsText [] []
  | more {gap before digits behind cs : List Char} {dimensions : List (List Char)} : IsGap gap →
    IsGap before → IsNumber digits → IsGap behind → DimensionsText cs dimensions →
    DimensionsText (gap ++ '[' :: (before ++ (digits ++ (behind ++ ']' :: cs))))
      (digits :: dimensions)

/-- The text is the declaration: words, stars and dimensions one behind the other, then white space
and a run of `;`, and white space around all of it. -/
inductive Renders (decl : Declaration) : List Char → Prop
  | intro {front words stars dimensions gap marks back : List Char} : IsGap front →
    WordsText words decl.words → StarsText stars decl.stars →
    DimensionsText dimensions decl.dimensions → IsGap gap → (∀ c ∈ marks, c = ';') → IsGap back →
    Renders decl (front ++ (words ++ (stars ++ dimensions)) ++ (gap ++ marks ++ back))

/-- The same tokens, qualifiers left out. -/
structure Alike (decl decl' : Declaration) : Prop where
  words : decl.words.filter (!isQualifier ·) = decl'.words.filter (!isQualifier ·)
  stars : decl.stars = decl'.stars
  dimensions : decl.dimensions = decl'.dimensions

end Declaration

/-! ### Texts and their tokens -/

namespace Token

/-- The characters that spell the token. -/
def chars : Token → List Char
  | word text => text.toList
  | number digits => digits
  | star => ['*']
  | opening => ['[']
  | closing => [']']

/-- The token ends before these characters. -/
def Stops : Token → List Char → Prop
  | word _, cs => ∀ c ∈ cs.head?, isWordChar c = false
  | number _, cs => ∀ c ∈ cs.head?, c.isDigit = false
  | _, _ => True

end Token

namespace Spells

variable {cs gap back : List Char} {token : Token} {ts : List Token}

theorem behind_gap (hgap : IsGap gap) (h : Spells cs ts) : Spells (gap ++ cs) ts := by
  induction gap with
  | nil => exact h
  | cons c gap ih =>
    obtain ⟨hc, hgap⟩ := List.forall_mem_cons.1 hgap
    exact .blank hc (ih hgap)

theorem isGap (h : Spells cs []) : IsGap cs := by
  generalize hts : ([] : List Token) = ts at h
  induction h with
  | nil => exact IsGap.nil
  | blank hc _ ih => exact List.forall_mem_cons.2 ⟨hc, ih hts⟩
  | _ => cases hts

theorem uncons (h : Spells cs (token :: ts)) :
    ∃ gap back, cs = gap ++ (token.chars ++ back) ∧ IsGap gap ∧ token.Formed ∧
      token.Stops back ∧ Spells back ts := by
  generalize hall : token :: ts = all at h
  induction h with
  | nil => cases hall
  | @blank c cs _ hc _ ih =>
    obtain ⟨gap, back, rfl, hgap, hrest⟩ := ih hall
    exact ⟨c :: gap, back, rfl, List.forall_mem_cons.2 ⟨hc, hgap⟩, hrest⟩
  | @word w back _ hw hstops h _ =>
    cases hall
    have hchars : (Token.word (String.ofList w)).chars = w := String.toList_ofList
    refine ⟨[], back, by rw [hchars]; rfl, IsGap.nil, ?_, hstops, h⟩
    change IsWord (String.ofList w).toList
    rwa [String.toList_ofList]
  | @number digits back _ hdigits hstops h _ =>
    cases hall
    exact ⟨[], back, rfl, IsGap.nil, hdigits, hstops, h⟩
  | @star back _ h _ | @opening back _ h _ | @closing back _ h _ =>
    cases hall
    exact ⟨[], back, rfl, IsGap.nil, trivial, trivial, h⟩

theorem mark_not_mem (h : Spells cs ts) : ';' ∉ cs := by
  induction h with
  | nil => exact List.not_mem_nil
  | blank hc _ ih =>
    refine List.not_mem_cons_of_ne_of_not_mem ?_ ih
    rintro rfl
    exact absurd hc (by decide)
  | star _ ih | opening _ ih | closing _ ih =>
    exact List.not_mem_cons_of_ne_of_not_mem (by decide) ih
  | word hw _ _ ih =>
    rw [List.mem_append, not_or]
    exact ⟨fun hmem => absurd (hw.isWordChar _ hmem) (by decide), ih⟩
  | number hdigits _ _ ih =>
    rw [List.mem_append, not_or]
    exact ⟨fun hmem => absurd (hdigits.2 _ hmem) (by decide), ih⟩

end Spells

namespace Declaration

variable {cs back : List Char} {ts : List Token} {words : List String} {stars : Nat}
  {dimensions : List (List Char)}

theorem not_isWordChar_of_isBlank {c : Char} (h : isBlank c = true) : isWordChar c = false := by
  refine Bool.of_not_eq_true fun hchar => ?_
  have hblank := (notMark_of_isWordChar hchar).1
  rw [h] at hblank
  cases hblank

theorem stops_of_gap {gap : List Char} (hgap : IsGap gap)
    (hback : ∀ c ∈ back.head?, isWordChar c = false) :
    ∀ c ∈ (gap ++ back).head?, isWordChar c = false := by
  cases gap with
  | nil => exact hback
  | cons c gap =>
    rintro _ ⟨⟩
    exact not_isWordChar_of_isBlank (hgap c List.mem_cons_self)

namespace WordsText

theorem ne_nil (h : WordsText cs words) : words ≠ [] := by
  cases h <;> exact List.cons_ne_nil _ _

theorem exists_cons (h : WordsText cs words) : ∃ c rest, cs = c :: rest ∧ isWordChar c = true := by
  have hword {w : List Char} (hw : IsWord w) (rest : List Char) :
      ∃ c rest', w ++ rest = c :: rest' ∧ isWordChar c = true := by
    obtain ⟨c, rest', rfl⟩ := List.exists_cons_of_ne_nil hw.ne_nil
    exact ⟨c, rest' ++ rest, rfl, hw.isWordChar c List.mem_cons_self⟩
  cases h with
  | last hw => simpa using hword hw []
  | more hw _ _ _ => exact hword hw _

theorem endsBare (h : WordsText cs words) : EndsBare cs := by
  induction h with
  | last hw => exact endsBare_of_isWord hw
  | more _ _ _ _ ih => exact .append (.append ih _) _

theorem spells (h : WordsText cs words) (hstops : ∀ c ∈ back.head?, isWordChar c = false)
    (hback : Spells back ts) : Spells (cs ++ back) (words.map .word ++ ts) := by
  induction h with
  | last hw => exact .word hw hstops hback
  | @more w gap cs words hw hne hgap _ ih =>
    rw [List.append_assoc, List.append_assoc]
    refine .word hw ?_ (.behind_gap hgap ih)
    obtain ⟨c, rest, rfl⟩ := List.exists_cons_of_ne_nil hne
    rintro _ ⟨⟩
    exact not_isWordChar_of_isBlank (hgap c List.mem_cons_self)

theorem of_spells (hne : words ≠ []) (h : Spells cs (words.map .word ++ ts)) :
    ∃ front text back, cs = front ++ (text ++ back) ∧ IsGap front ∧ WordsText text words ∧
      Spells back ts := by
  induction words generalizing cs with
  | nil => exact absurd rfl hne
  | cons w words ih =>
    obtain ⟨front, back, rfl, hfront, hw, hstops, hback⟩ := h.uncons
    have hlast : WordsText w.toList [w] := by
      simpa using WordsText.last (w := w.toList) hw
    cases words with
    | nil => exact ⟨front, w.toList, back, rfl, hfront, hlast, hback⟩
    | cons next words =>
      obtain ⟨gap, text, back, rfl, hgap, htext, hback⟩ := ih (List.cons_ne_nil _ _) hback
      refine ⟨front, w.toList ++ (gap ++ text), back, by simp [Token.chars], hfront, ?_, hback⟩
      -- without a gap the first word would go on in the second
      have hne : gap ≠ [] := by
        rintro rfl
        obtain ⟨c, rest, rfl, hc⟩ := htext.exists_cons
        have := hstops c (by simp)
        rw [hc] at this
        cases this
      simpa using WordsText.more (w := w.toList) hw hne hgap htext

end WordsText

namespace StarsText

theorem spells (h : StarsText cs stars) (hback : Spells back ts) :
    Spells (cs ++ back) (List.replicate stars .star ++ ts) := by
  induction h with
  | none => exact hback
  | more hgap _ ih =>
    rw [List.append_assoc]
    exact .behind_gap hgap (.star ih)

theorem of_spells (h : Spells cs (List.replicate stars .star ++ ts)) :
    ∃ text back, cs = text ++ back ∧ StarsText text stars ∧ Spells back ts := by
  induction stars generalizing cs with
  | zero => exact ⟨[], cs, rfl, .none, h⟩
  | succ stars ih =>
    obtain ⟨gap, back, rfl, hgap, -, -, hback⟩ := h.uncons
    obtain ⟨text, back, rfl, htext, hback⟩ := ih hback
    exact ⟨gap ++ '*' :: text, back, by simp [Token.chars], .more hgap htext, hback⟩

theorem endsBare {front : List Char} (h : StarsText cs stars) (hfront : EndsBare front) :
    EndsBare (front ++ cs) := by
  induction h generalizing front with
  | none => rwa [List.append_nil]
  | @more gap cs _ _ _ ih =>
    have hstar : EndsBare (front ++ gap ++ ['*']) :=
      .append ⟨[], '*', rfl, by decide, by decide⟩ _
    simpa using ih hstar

theorem stops (h : StarsText cs stars) (hback : ∀ c ∈ back.head?, isWordChar c = false) :
    ∀ c ∈ (cs ++ back).head?, isWordChar c = false := by
  cases h with
  | none => exact hback
  | more hgap _ =>
    rw [List.append_assoc]
    exact stops_of_gap hgap (by simp [isWordChar])

end StarsText

namespace DimensionsText

theorem spells (h : DimensionsText cs dimensions) (hback : Spells back ts) :
    Spells (cs ++ back) (dimensions.flatMap dimensionTokens ++ ts) := by
  induction h with
  | none => exact hback
  | @more gap before digits behind cs dimensions hgap hbefore hdigits hbehind _ ih =>
    have hclosing : Spells (behind ++ ']' :: (cs ++ back))
        (.closing :: (dimensions.flatMap dimensionTokens ++ ts)) :=
      .behind_gap hbehind (.closing ih)
    have hstops : ∀ c ∈ (behind ++ ']' :: (cs ++ back)).head?, c.isDigit = false := by
      intro c hc
      refine Bool.of_not_eq_true fun hdigit => ?_
      have := stops_of_gap hbehind (by simp [isWordChar]) c hc
      rw [isWordChar_of_isDigit hdigit] at this
      cases this
    have hinside := Spells.behind_gap hbefore (.number hdigits hstops hclosing)
    have := Spells.behind_gap hgap (.opening hinside)
    simpa [dimensionTokens] using this

theorem of_spells (h : Spells cs (dimensions.flatMap dimensionTokens)) :
    ∃ text gap, cs = text ++ gap ∧ DimensionsText text dimensions ∧ IsGap gap := by
  induction dimensions generalizing cs with
  | nil => exact ⟨[], cs, rfl, .none, h.isGap⟩
  | cons digits dimensions ih =>
    obtain ⟨gap, cs, rfl, hgap, -, -, hcs⟩ := h.uncons
    obtain ⟨before, cs, rfl, hbefore, hdigits, -, hcs⟩ := hcs.uncons
    obtain ⟨behind, cs, rfl, hbehind, -, -, hcs⟩ := hcs.uncons
    obtain ⟨text, rest, rfl, htext, hrest⟩ := ih hcs
    exact ⟨_, rest, by simp [Token.chars], .more hgap hbefore hdigits hbehind htext, hrest⟩

theorem append {dimensions' : List (List Char)} (h : DimensionsText cs dimensions)
    (hback : DimensionsText back dimensions') :
    DimensionsText (cs ++ back) (dimensions ++ dimensions') := by
  induction h with
  | none => exact hback
  | more hgap hbefore hdigits hbehind _ ih =>
    have := DimensionsText.more hgap hbefore hdigits hbehind ih
    simpa using this

theorem behind_gap {gap digits : List Char} (hgap : IsGap gap)
    (h : DimensionsText cs (digits :: dimensions)) :
    DimensionsText (gap ++ cs) (digits :: dimensions) := by
  cases h with
  | more hfront hbefore hdigits hbehind hrest =>
    rw [← List.append_assoc]
    exact .more (hgap.append hfront) hbefore hdigits hbehind hrest

theorem endsBare {front : List Char} (h : DimensionsText cs dimensions) (hfront : EndsBare front) :
    EndsBare (front ++ cs) := by
  induction h generalizing front with
  | none => rwa [List.append_nil]
  | @more gap before digits behind cs _ _ _ _ _ _ ih =>
    have hclosing : EndsBare (front ++ (gap ++ '[' :: (before ++ (digits ++ behind))) ++ [']']) :=
      .append ⟨[], ']', rfl, by decide, by decide⟩ _
    simpa using ih hclosing

theorem stops (h : DimensionsText cs dimensions)
    (hback : ∀ c ∈ back.head?, isWordChar c = false) :
    ∀ c ∈ (cs ++ back).head?, isWordChar c = false := by
  cases h with
  | none => exact hback
  | more hgap _ _ _ _ =>
    rw [List.append_assoc]
    exact stops_of_gap hgap (by simp [isWordChar])

end DimensionsText

/-! ### White space and marks around a declaration -/

variable {front core gap marks : List Char}

theorem reverse_dropWhile_append {p : Char → Bool} (hcore : ∀ c ∈ core.getLast?, p c = false)
    (hback : ∀ c ∈ back, p c = true) : ((core ++ back).reverse.dropWhile p).reverse = core := by
  have hstops : ∀ c ∈ core.reverse.head?, p c = false := by rwa [List.head?_reverse]
  have hall : ∀ c ∈ back.reverse, p c = true := by simpa using hback
  rw [List.reverse_append, (Text.takeWhile_append_of_stops hall hstops).2, List.reverse_reverse]

theorem exists_reverse_dropWhile (p : Char → Bool) (cs : List Char) :
    ∃ back, cs = (cs.reverse.dropWhile p).reverse ++ back ∧ ∀ c ∈ back, p c = true := by
  refine ⟨(cs.reverse.takeWhile p).reverse, ?_, fun c hc => ?_⟩
  · rw [← List.reverse_append, List.takeWhile_append_dropWhile, List.reverse_reverse]
  · exact List.mem_takeWhile_imp (List.mem_reverse.1 hc)

theorem trim_around (hfront : IsGap front) (hback : IsGap back)
    (hhead : ∀ c ∈ (core ++ back).head?, isBlank c = false)
    (hlast : ∀ c ∈ core.getLast?, isBlank c = false) :
    Text.trim (front ++ (core ++ back)) = core := by
  unfold Text.trim Text.trimEnd Text.trimStart
  rw [(Text.takeWhile_append_of_stops hfront hhead).2]
  exact reverse_dropWhile_append hlast hback

theorem exists_trim (cs : List Char) :
    ∃ front back, cs = front ++ (Text.trim cs ++ back) ∧ IsGap front ∧ IsGap back := by
  obtain ⟨back, hback, hgap⟩ := exists_reverse_dropWhile isBlank (cs.dropWhile isBlank)
  refine ⟨cs.takeWhile isBlank, back, ?_, fun c hc => List.mem_takeWhile_imp hc, hgap⟩
  exact List.takeWhile_append_dropWhile.symm.trans (congrArg (_ ++ ·) hback)

theorem exists_body (cs : List Char) :
    ∃ front gap marks back, cs = front ++ body cs ++ (gap ++ marks ++ back) ∧ IsGap front ∧
      IsGap gap ∧ (∀ c ∈ marks, c = ';') ∧ IsGap back := by
  obtain ⟨front, back, hcs, hfront, hback⟩ := exists_trim cs
  obtain ⟨marks, htrim, hmarks⟩ := exists_reverse_dropWhile (· == ';') (Text.trim cs)
  obtain ⟨inner, gap, hinner, hgap, hgap'⟩ :=
    exists_trim ((Text.trim cs).reverse.dropWhile (· == ';')).reverse
  refine ⟨front ++ inner, gap, marks, back, ?_, hfront.append hgap, hgap',
    fun c hc => by simpa using hmarks c hc, hback⟩
  rw [htrim, hinner] at hcs
  simpa [body] using hcs

theorem body_around {c : Char} (hhead : isBlank c = false) (hend : EndsBare (c :: core))
    (hfront : IsGap front) (hgap : IsGap gap) (hmarks : ∀ c ∈ marks, c = ';') (hback : IsGap back) :
    body (front ++ (c :: core) ++ (gap ++ marks ++ back)) = c :: core := by
  obtain ⟨init, d, heq, hblank, hne⟩ := hend
  have hlast : ∀ e ∈ (c :: core).getLast?, isBlank e = false ∧ e ≠ ';' := by
    rw [heq, List.getLast?_concat]
    rintro _ ⟨⟩
    exact ⟨hblank, hne⟩
  have hmiddle : ∀ (rest : List Char), ∀ e ∈ (c :: core ++ rest).head?, isBlank e = false := by
    rintro rest _ ⟨⟩
    exact hhead
  have hkept : ∃ kept, IsGap kept ∧
      Text.trim (front ++ (c :: core) ++ (gap ++ marks ++ back)) = c :: core ++ kept ++ marks := by
    rcases List.eq_nil_or_concat marks with rfl | ⟨init', mark, rfl⟩
    · refine ⟨[], IsGap.nil, ?_⟩
      have := trim_around hfront (hgap.append hback) (hmiddle _) fun e he => (hlast e he).1
      simpa using this
    · refine ⟨gap, hgap, ?_⟩
      have hmark : ∀ e ∈ (c :: core ++ gap ++ (init' ++ [mark])).getLast?, isBlank e = false := by
        rw [← List.append_assoc, List.getLast?_concat]
        rintro _ ⟨⟩
        rw [hmarks mark (by simp)]
        decide
      have := trim_around hfront hback (by rintro _ ⟨⟩; exact hhead) hmark
      simpa using this
  obtain ⟨kept, hkept, htrim⟩ := hkept
  have hbare : ∀ e ∈ (c :: core ++ kept).getLast?, (e == ';') = false := by
    intro e he
    rw [List.getLast?_append, Option.mem_def, Option.or_eq_some_iff] at he
    rcases he with he | ⟨-, he⟩
    · have hblank' := hkept e (List.mem_of_getLast? he)
      refine Bool.of_not_eq_true fun hsemi => ?_
      rw [beq_iff_eq.1 hsemi] at hblank'
      exact absurd hblank' (by decide)
    · simpa using (hlast e he).2
  unfold body
  rw [htrim, reverse_dropWhile_append hbare (by simpa using hmarks)]
  exact trim_around IsGap.nil hkept (hmiddle _) fun e he => (hlast e he).1

/-! ### Texts that render a declaration -/

variable {decl decl' : Declaration} {text text' : String}

theorem spells_tokens {wordsText starsText dimensionsText : List Char}
    (hwords : WordsText wordsText decl.words) (hstars : StarsText starsText decl.stars)
    (hdimensions : DimensionsText dimensionsText decl.dimensions) :
    Spells (wordsText ++ (starsText ++ dimensionsText)) decl.tokens := by
  have hspells := hdimensions.spells .nil
  have hstops : ∀ c ∈ (dimensionsText ++ []).head?, isWordChar c = false :=
    hdimensions.stops (by simp)
  simp only [List.append_nil] at hspells hstops
  exact hwords.spells (hstars.stops hstops) (hstars.spells hspells)

theorem ofText?_eq_some : ofText? text = some decl ↔ decl.Renders text.toList := by
  rw [ofText?_eq, Option.bind_eq_some_iff]
  simp only [scan_eq_some, ofTokens?_eq_some]
  constructor
  · rintro ⟨_, hspells, hne, rfl⟩
    obtain ⟨front, gap, marks, back, htext, hfront, hgap, hmarks, hback⟩ := exists_body text.toList
    obtain ⟨front', words, cs, hbody, hfront', hwords, hspells⟩ := WordsText.of_spells hne hspells
    obtain ⟨stars, cs, rfl, hstars, hspells⟩ := StarsText.of_spells hspells
    obtain ⟨dimensions, gap', rfl, hdimensions, hgap'⟩ := DimensionsText.of_spells hspells
    have := Renders.intro (hfront.append hfront') hwords hstars hdimensions (hgap'.append hgap)
      hmarks hback
    rw [htext, hbody]
    simpa using this
  · generalize htext : text.toList = cs
    rintro @⟨front, words, stars, dimensions, gap, marks, back, hfront, hwords, hstars, hdimensions,
      hgap, hmarks, hback⟩
    have hend := hdimensions.endsBare (hstars.endsBare hwords.endsBare)
    have hspells := spells_tokens hwords hstars hdimensions
    refine ⟨decl.tokens, ?_, hwords.ne_nil, rfl⟩
    obtain ⟨c, rest, rfl, hc⟩ := hwords.exists_cons
    rw [List.append_assoc, List.cons_append] at hend
    rw [List.cons_append, body_around (notMark_of_isWordChar hc).1 hend hfront hgap hmarks hback]
    exact hspells

theorem Renders.unique (h : decl.Renders text.toList) (h' : decl'.Renders text.toList) :
    decl = decl' :=
  Option.some.inj ((ofText?_eq_some.2 h).symm.trans (ofText?_eq_some.2 h'))

theorem Renders.behind_mark {front back : List Char} (h : decl.Renders (front ++ ';' :: back)) :
    ∀ c ∈ back, c = ';' ∨ isBlank c = true := by
  generalize htext : front ++ ';' :: back = cs at h
  obtain @⟨before, words, stars, dimensions, gap, marks, behind, hbefore, hwords, hstars,
    hdimensions, hgap, hmarks, hbehind⟩ := h
  have hcore := (spells_tokens hwords hstars hdimensions).mark_not_mem
  have hnot : ';' ∉ before ++ (words ++ (stars ++ dimensions)) := by
    rw [List.mem_append, not_or]
    exact ⟨fun hmem => absurd (hbefore _ hmem) (by decide), hcore⟩
  have hend : ∀ c ∈ gap ++ marks ++ behind, c = ';' ∨ isBlank c = true := by
    intro c hc
    simp only [List.mem_append] at hc
    rcases hc with (hc | hc) | hc
    · exact .inr (hgap c hc)
    · exact .inl (hmarks c hc)
    · exact .inr (hbehind c hc)
  -- the mark is not in the declaration, so it is in what stands behind
  rcases List.append_eq_append_iff.1 htext with ⟨rest, hrest, hmark⟩ | ⟨rest, -, hmark⟩
  · cases rest with
    | nil =>
      rw [List.nil_append] at hmark
      exact fun c hc => hend c (hmark ▸ List.mem_cons_of_mem _ hc)
    | cons c rest =>
      obtain rfl : ';' = c := (List.cons.inj hmark).1
      exact absurd (hrest ▸ List.mem_append_right _ List.mem_cons_self) hnot
  · exact fun c hc => hend c (hmark ▸ List.mem_append_right _ (List.mem_cons_of_mem _ hc))

/-- If dimensions are put behind the text of a declaration and a declaration comes of it, then it
has got these dimensions more. -/
theorem Renders.dimensions_behind {back : String} {dimensions : List (List Char)}
    (h : decl.Renders text.toList) (hback : DimensionsText back.toList dimensions)
    (h' : decl'.Renders (text ++ back).toList) :
    decl' = { decl with dimensions := decl.dimensions ++ dimensions } := by
  refine h'.unique ?_
  rw [String.toList_append] at h' ⊢
  generalize back.toList = bs at hback h' ⊢
  cases dimensions with
  | nil =>
    cases hback
    rwa [List.append_nil, List.append_nil]
  | cons digits dimensions =>
    generalize text.toList = cs at h h' ⊢
    obtain @⟨front, words, stars, dims, gap, marks, behind, hfront, hwords, hstars, hdims, hgap,
      hmarks, hbehind⟩ := h
    cases marks with
    | nil =>
      have hall := hdims.append (hback.behind_gap (hgap.append hbehind))
      have hnone : ∀ c ∈ ([] : List Char), c = ';' := nofun
      have : { decl with dimensions := decl.dimensions ++ digits :: dimensions }.Renders _ :=
        .intro hfront hwords hstars hall IsGap.nil hnone IsGap.nil
      simpa using this
    | cons mark marks =>
      obtain rfl : mark = ';' := hmarks mark List.mem_cons_self
      have hbracket : '[' ∈ marks ++ behind ++ bs := by
        cases hback
        simp
      have hmark : decl'.Renders (front ++ (words ++ (stars ++ dims)) ++ gap ++
          ';' :: (marks ++ behind ++ bs)) := by
        simpa using h'
      rcases hmark.behind_mark '[' hbracket with hc | hc <;> exact absurd hc (by decide)

theorem Alike.resolve_eq (h : decl.Alike decl') (scope : TypeScope) :
    decl.resolve scope = decl'.resolve scope := by
  unfold resolve
  rw [h.words, h.stars, h.dimensions]

end Declaration

/-! ### Refusals -/

/-- It is not refused for the shape of the text. -/
def PastShape {α : Type} (x : Except DeclarationError α) : Prop :=
  x ≠ .error .empty ∧ x ≠ .error .malformed

namespace PastShape

variable {α β : Type}

theorem ok (a : α) : PastShape (.ok a) := ⟨nofun, nofun⟩

theorem bind {x : Except DeclarationError α} {f : α → Except DeclarationError β} (h : PastShape x)
    (hf : ∀ a, PastShape (f a)) : PastShape (x >>= f) := by
  cases x with
  | ok a => exact hf a
  | error e => exact ⟨fun he => h.1 (by cases he; rfl), fun he => h.2 (by cases he; rfl)⟩

theorem mapM {f : α → Except DeclarationError β} (hf : ∀ a, PastShape (f a)) (l : List α) :
    PastShape (l.mapM f) := by
  induction l with
  | nil => exact ok []
  | cons a l ih =>
    rw [List.mapM_cons]
    exact (hf a).bind fun b => ih.bind fun bs => ok (b :: bs)

theorem base (scope : TypeScope) (words : List String) (behindPointer : Bool) :
    PastShape (scope.base words behindPointer) := by
  unfold TypeScope.base TypeScope.aggregate TypeScope.plain
  constructor <;> grind

theorem dimensionCount (digits : List Char) : PastShape (dimensionCount digits) := by
  unfold StructSync.dimensionCount
  constructor <;> grind

theorem arrayShape (element : CType) (counts : List UInt64) :
    PastShape (element.arrayShape counts) := by
  induction counts with
  | nil => exact ok _
  | cons count counts ih =>
    refine ih.bind fun ⟨size, kind⟩ => ?_
    constructor <;> grind

theorem resolve (scope : TypeScope) (decl : Declaration) : PastShape (decl.resolve scope) := by
  refine (base scope _ _).bind fun b => (mapM dimensionCount _).bind fun counts => ?_
  refine ((arrayShape _ counts).bind fun shape => ok _).bind fun type => ?_
  constructor <;> grind

end PastShape

theorem parseDeclaration_eq (scope : TypeScope) (text : String) :
    parseDeclaration scope text =
      match Declaration.ofText? text with
      | some decl => decl.resolve scope
      | none => if Declaration.body text.toList = [] then .error .empty else .error .malformed := by
  unfold parseDeclaration Declaration.ofText?
  cases Declaration.body text.toList with
  | nil => rfl
  | cons c rest =>
    dsimp only
    cases (scan (c :: rest)).bind Declaration.ofTokens? with
    | some decl => rfl
    | none => exact (if_neg (List.cons_ne_nil _ _)).symm

theorem parseDeclaration_of_renders {decl : Declaration} {text : String}
    (h : decl.Renders text.toList) (scope : TypeScope) :
    parseDeclaration scope text = decl.resolve scope := by
  rw [parseDeclaration_eq, Declaration.ofText?_eq_some.2 h]

theorem pastShape_parseDeclaration {scope : TypeScope} {text : String} :
    PastShape (parseDeclaration scope text) ↔ ∃ decl : Declaration, decl.Renders text.toList := by
  simp only [← Declaration.ofText?_eq_some]
  rw [parseDeclaration_eq]
  cases Declaration.ofText? text with
  | some decl => exact ⟨fun _ => ⟨decl, rfl⟩, fun _ => .resolve scope decl⟩
  | none =>
    refine ⟨fun ⟨hempty, hmalformed⟩ => ?_, nofun⟩
    dsimp only at hempty hmalformed
    split at hempty
    · exact absurd rfl hempty
    · next hbody => exact absurd (if_neg hbody) hmalformed

/-- The texts that are not refused for their shape are those that render a declaration; what they
stand for, or why they stand for nothing, depends on their tokens alone, qualifiers left out. -/
theorem parseDeclaration_grammar (scope : TypeScope) :
    (∀ text : String, PastShape (parseDeclaration scope text) ↔
      ∃ decl : Declaration, decl.Renders text.toList) ∧
    ∀ (text text' : String) (decl decl' : Declaration), decl.Renders text.toList →
      decl'.Renders text'.toList → decl.Alike decl' →
      parseDeclaration scope text = parseDeclaration scope text' := by
  refine ⟨fun text => pastShape_parseDeclaration, fun text text' decl decl' h h' hsame => ?_⟩
  rw [parseDeclaration_of_renders h, parseDeclaration_of_renders h', hsame.resolve_eq]

/-- White space, a qualifier and a run of `;` change nothing. -/
theorem parseDeclaration_grammar_qualified :
    (⟨["int", "const"], 1, [['2']]⟩ : Declaration).Renders " int\tconst* [ 2\n] ;; ".toList ∧
      (⟨["int"], 1, [['2']]⟩ : Declaration).Renders "int*[2]".toList ∧
      parseDeclaration ⟨8, fun _ => none⟩ " int\tconst* [ 2\n] ;; " =
        parseDeclaration ⟨8, fun _ => none⟩ "int*[2]" := by
  have h : (⟨["int", "const"], 1, [['2']]⟩ : Declaration).Renders
      " int\tconst* [ 2\n] ;; ".toList :=
    Declaration.ofText?_eq_some.1 (by decide +kernel)
  have h' : (⟨["int"], 1, [['2']]⟩ : Declaration).Renders "int*[2]".toList :=
    Declaration.ofText?_eq_some.1 (by decide +kernel)
  exact ⟨h, h', (parseDeclaration_grammar _).2 _ _ _ _ h h' ⟨by decide, rfl, rfl⟩⟩

end StructSync
