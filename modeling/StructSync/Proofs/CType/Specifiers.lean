import Mathlib
import StructSync.Proofs.CType.Spelling

/-!
# Which words make an integer type

A sign and `int` aside, the words of an integer type are one of a few groups (`IntegerType.Form`).
The specifiers name a type exactly if they make one of these groups with a sign at most
(`IntegerType.ofSpecifiers?_eq_some`), and this does not see the order they stand in. Main statement
(`IntegerType.specifiers_combine`): which lists of words name an integer type, and what their order,
their sign and the words of the name that they get have to do with each other.
-/

namespace StructSync

namespace Specifier

/-- The word that is the specifier. -/
def word : Specifier → String
  | signed => "signed"
  | unsigned => "unsigned"
  | short => "short"
  | long => "long"
  | int => "int"
  | char => "char"
  | sized width => width.name

theorem ofWord?_word (s : Specifier) : ofWord? s.word = some s := by
  rcases s with _ | _ | _ | _ | _ | _ | ⟨_ | _ | _ | _ | _⟩ <;> rfl

theorem word_injective : Function.Injective word := by
  intro s s' h
  exact Option.some.inj ((ofWord?_word s).symm.trans ((congrArg ofWord? h).trans (ofWord?_word s')))

theorem ofWord?_eq_some {w : String} {s : Specifier} : ofWord? w = some s ↔ w = s.word := by
  constructor
  · intro h
    unfold ofWord? at h
    split at h <;> cases h <;> rfl
  · rintro rfl
    exact ofWord?_word s

theorem mapM_ofWord?_eq_some {words : List String} {specifiers : List Specifier} :
    words.mapM ofWord? = some specifiers ↔ words = specifiers.map word := by
  induction words generalizing specifiers with
  | nil => cases specifiers <;> simp
  | cons w words ih =>
    rw [List.mapM_cons]
    cases specifiers with
    | nil => simp [Option.bind_eq_some_iff]
    | cons s specifiers => simp [Option.bind_eq_some_iff, ofWord?_eq_some, ih]

theorem contains_word (specifiers : List Specifier) (s : Specifier) :
    (specifiers.map word).contains s.word = specifiers.contains s := by
  rw [Bool.eq_iff_iff, List.contains_iff_mem, List.contains_iff_mem,
    List.mem_map_of_injective word_injective]

/-- It is neither a sign nor `int`. -/
def isOwn (s : Specifier) : Bool := s ∉ [signed, unsigned, int]

theorem count_sized (specifiers : List Specifier) (width : SizedInt) :
    specifiers.count (.sized width) = (specifiers.filterMap width?).count width := by
  induction specifiers with
  | nil => rfl
  | cons s specifiers ih =>
    cases s <;> simp [width?, List.filterMap_cons, List.count_cons, ih]

theorem filterMap_width?_filter (specifiers : List Specifier) :
    (specifiers.filter isOwn).filterMap width? = specifiers.filterMap width? := by
  rw [List.filterMap_filter]
  refine List.filterMap_congr fun s _ => ?_
  cases s <;> rfl

end Specifier

namespace IntegerType

/-- What is left of the specifiers of an integer type without a sign and without `int`. -/
inductive Form where
  | sized (width : SizedInt)
  | char
  | short
  | long
  | longLong
  /-- nothing: the sign or `int` stands alone -/
  | bare

namespace Form

/-- The specifiers of the form. -/
def own : Form → List Specifier
  | sized width => [.sized width]
  | char => [.char]
  | short => [.short]
  | long => [.long]
  | longLong => [.long, .long]
  | bare => []

/-- May `int` be said too? -/
def takesInt : Form → Bool
  | sized _ | char => false
  | short | long | longLong | bare => true

/-- The specifiers make the form, in any order and with any signs: what is neither a sign nor `int`
is the form's, `int` is said once at most and only where it may be, and something is said. -/
structure MadeOf (form : Form) (specifiers : List Specifier) : Prop where
  own : (specifiers.filter Specifier.isOwn).Perm form.own
  int : specifiers.count .int ≤ if form.takesInt then 1 else 0
  ne_nil : specifiers ≠ []

/-- The type of the form with a sign. -/
def type (isSigned isUnsigned : Bool) : Form → IntegerType
  | sized width => ranked isUnsigned (.sized width)
  | char => if isSigned then signedChar else if isUnsigned then unsignedChar else .char
  | short => ranked isUnsigned .short
  | long => ranked isUnsigned .long
  | longLong => ranked isUnsigned .longLong
  | bare => ranked isUnsigned .int

theorem own_injective {form form' : Form} (h : form.own.Perm form'.own) : form = form' := by
  cases form <;> cases form' <;> simp_all [own]

variable {form other : Form} {specifiers others : List Specifier}

theorem MadeOf.unique (h : form.MadeOf specifiers) (h' : other.MadeOf specifiers) : other = form :=
  own_injective (h'.own.symm.trans h.own)

theorem MadeOf.of_perm (h : form.MadeOf specifiers) (hperm : specifiers.Perm others) :
    form.MadeOf others where
  own := (hperm.filter _).symm.trans h.own
  int := hperm.count_eq .int ▸ h.int
  ne_nil := fun hnil => h.ne_nil (hnil ▸ hperm).eq_nil

theorem isOwn_of_mem_own {s : Specifier} (h : s ∈ form.own) : s.isOwn = true := by
  cases form <;> simp only [own, List.mem_cons, List.not_mem_nil, or_false, or_self] at h <;>
    subst h <;> rfl

/-- What is the form's can be told by counting. -/
theorem own_perm_iff : (specifiers.filter Specifier.isOwn).Perm form.own ↔
    specifiers.count .char = form.own.count .char ∧
      specifiers.count .short = form.own.count .short ∧
      specifiers.count .long = form.own.count .long ∧
      specifiers.filterMap Specifier.width? = form.own.filterMap Specifier.width? := by
  constructor
  · intro h
    have hcount (s : Specifier) (hs : s.isOwn = true) : specifiers.count s = form.own.count s := by
      rw [← h.count_eq s, List.count_filter hs]
    refine ⟨hcount _ rfl, hcount _ rfl, hcount _ rfl, ?_⟩
    have hwidths := h.filterMap Specifier.width?
    rw [Specifier.filterMap_width?_filter] at hwidths
    -- there is one width at most, so there is but one order
    cases form with
    | sized width => exact List.perm_singleton.1 hwidths
    | _ => exact List.perm_nil.1 hwidths
  · rintro ⟨hchar, hshort, hlong, hwidths⟩
    refine List.perm_iff_count.2 fun s => ?_
    cases hs : s.isOwn with
    | false =>
      have hout : s ∉ specifiers.filter Specifier.isOwn := by simp [hs]
      have hout' : s ∉ form.own := fun hmem => absurd (isOwn_of_mem_own hmem) (by simp [hs])
      rw [List.count_eq_zero_of_not_mem hout, List.count_eq_zero_of_not_mem hout']
    | true =>
      rw [List.count_filter hs]
      cases s with
      | signed | unsigned | int => cases hs
      | char => exact hchar
      | short => exact hshort
      | long => exact hlong
      | sized width => rw [Specifier.count_sized, Specifier.count_sized, hwidths]

end Form

open Form

variable {specifiers others : List Specifier} {form : Form} {t : IntegerType}

theorem exists_own (h : ofSpecifiers? specifiers = some t) :
    ∃ form : Form, (specifiers.filter Specifier.isOwn).Perm form.own := by
  simp only [own_perm_iff]
  unfold ofSpecifiers? at h
  dsimp only at h
  split at h
  · cases h
  split at h
  · next width hwidths hchar hshort hlong => exact ⟨.sized width, hchar, hshort, hlong, hwidths⟩
  · next hwidths hchar hshort hlong => exact ⟨.char, hchar, hshort, hlong, hwidths⟩
  · next hwidths hchar hshort hlong => exact ⟨.short, hchar, hshort, hlong, hwidths⟩
  · next hwidths hchar hshort hlong => exact ⟨.long, hchar, hshort, hlong, hwidths⟩
  · next hwidths hchar hshort hlong => exact ⟨.longLong, hchar, hshort, hlong, hwidths⟩
  · next hwidths hchar hshort hlong => exact ⟨.bare, hchar, hshort, hlong, hwidths⟩
  · cases h

theorem count_eq_one {s : Specifier} (h : specifiers.count s ≤ 1) :
    (specifiers.count s == 1) = specifiers.contains s := by
  have hpos := List.count_pos_iff (a := s) (l := specifiers)
  rw [Bool.eq_iff_iff, beq_iff_eq, List.contains_iff_mem, ← hpos]
  omega

theorem madeOf_iff (h : (specifiers.filter Specifier.isOwn).Perm form.own) :
    form.MadeOf specifiers ↔ specifiers.count .int ≤ (if form.takesInt then 1 else 0) ∧
      (form.own = [] →
        0 < specifiers.count .signed + specifiers.count .unsigned + specifiers.count .int) := by
  constructor
  · intro hmade
    refine ⟨hmade.int, fun hown => ?_⟩
    obtain ⟨s, rest, rfl⟩ := List.exists_cons_of_ne_nil hmade.ne_nil
    rw [hown] at h
    have hs := List.filter_eq_nil_iff.1 (List.perm_nil.1 h) s List.mem_cons_self
    cases s <;> simp [Specifier.isOwn] at hs ⊢
  · rintro ⟨hint, hsaid⟩
    refine ⟨h, hint, ?_⟩
    rintro rfl
    simpa using hsaid (List.nil_perm.1 h)

theorem ofSpecifiers?_of_own (h : (specifiers.filter Specifier.isOwn).Perm form.own) :
    ofSpecifiers? specifiers = some t ↔
      specifiers.count .signed + specifiers.count .unsigned ≤ 1 ∧ form.MadeOf specifiers ∧
        form.type (specifiers.contains .signed) (specifiers.contains .unsigned) = t := by
  obtain ⟨hchar, hshort, hlong, hwidths⟩ := own_perm_iff.1 h
  rw [madeOf_iff h]
  unfold ofSpecifiers?
  dsimp only
  split
  · next hmany =>
    simp only [Bool.or_eq_true, decide_eq_true_eq] at hmany
    refine ⟨nofun, ?_⟩
    rintro ⟨hsigns, ⟨hint, -⟩, -⟩
    split at hint <;> omega
  next hfew =>
    simp only [Bool.or_eq_true, decide_eq_true_eq, not_or, not_lt] at hfew
    obtain ⟨hsigns, hint⟩ := hfew
    rw [← count_eq_one (s := .signed) (by omega), ← count_eq_one (s := .unsigned) (by omega)]
    rw [and_iff_right hsigns, hchar, hshort, hlong, hwidths]
    cases form with
    | char =>
      by_cases hs : specifiers.count .signed = 1 <;>
        by_cases hu : specifiers.count .unsigned = 1 <;>
        simp [own, Specifier.width?, List.filterMap_cons, takesInt, type, hs, hu]
    | _ => simp [own, Specifier.width?, List.filterMap_cons, takesInt, type, hint]

theorem ofSpecifiers?_eq_some : ofSpecifiers? specifiers = some t ↔
    specifiers.count .signed + specifiers.count .unsigned ≤ 1 ∧ ∃ form : Form,
      form.MadeOf specifiers ∧
        form.type (specifiers.contains .signed) (specifiers.contains .unsigned) = t := by
  constructor
  · intro h
    obtain ⟨form, hown⟩ := exists_own h
    obtain ⟨hsigns, hmade⟩ := (ofSpecifiers?_of_own hown).1 h
    exact ⟨hsigns, form, hmade⟩
  · rintro ⟨hsigns, form, hmade, htype⟩
    exact (ofSpecifiers?_of_own hmade.own).2 ⟨hsigns, hmade, htype⟩

theorem ofSpecifiers?_perm (h : specifiers.Perm others) :
    ofSpecifiers? specifiers = ofSpecifiers? others := by
  refine Option.ext fun t => ?_
  have hmem (s : Specifier) : specifiers.contains s = others.contains s := h.contains_eq
  rw [ofSpecifiers?_eq_some, ofSpecifiers?_eq_some, h.count_eq, h.count_eq, hmem, hmem]
  refine and_congr_right fun _ => exists_congr fun form => and_congr_left fun _ => ?_
  exact ⟨fun hmade => hmade.of_perm h, fun hmade => hmade.of_perm h.symm⟩

/-! ### Words -/

variable {words : List String}

theorem ofWords?_eq_some : ofWords? words = some t ↔
    ∃ specifiers, words = specifiers.map Specifier.word ∧ ofSpecifiers? specifiers = some t := by
  simp only [ofWords?, Option.bind_eq_some_iff, Specifier.mapM_ofWord?_eq_some]

theorem ofWords?_perm {others : List String} (h : words.Perm others) :
    ofWords? words = ofWords? others := by
  have hof {words others : List String} (h : words.Perm others) (t : IntegerType)
      (ht : ofWords? words = some t) : ofWords? others = some t := by
    obtain ⟨specifiers, rfl, hspecifiers⟩ := ofWords?_eq_some.1 ht
    obtain ⟨specifiers', rfl, hperm⟩ :
        ∃ specifiers' : List Specifier,
          others = specifiers'.map Specifier.word ∧ specifiers'.Perm specifiers := by
      have := congrFun (congrFun (List.eq_map_comp_perm Specifier.word) others) specifiers
      exact this.mpr h.symm
    exact ofWords?_eq_some.2 ⟨specifiers', rfl, (ofSpecifiers?_perm hperm).trans hspecifiers⟩
  exact Option.ext fun t => ⟨hof h t, hof h.symm t⟩

theorem ofText?_name (t : IntegerType) : Declaration.ofText? t.name = some ⟨t.words, 0, []⟩ := by
  obtain ⟨hne, hplain⟩ := t.words_plain
  have hwritten : (⟨t.words, 0, []⟩ : Declaration).Written :=
    ⟨hne, fun w hw => (hplain w hw).1, by simp⟩
  have htext := Declaration.ofText?_text hwritten
  rwa [Declaration.text, List.flatMap_nil, Declaration.starsText, List.append_nil, List.append_nil,
    String.ofList_toList, t.intercalate_words] at htext

/-- Where there is one sign at most, the words of the name keep `unsigned`, and `signed` only where
it tells `signed char` from `char`. -/
theorem Form.signs_words (form : Form) {isSigned isUnsigned : Bool}
    (h : (isSigned && isUnsigned) = false) :
    ("unsigned" ∈ (form.type isSigned isUnsigned).words ↔ isUnsigned = true) ∧
      ("signed" ∈ (form.type isSigned isUnsigned).words ↔
        isSigned = true ∧ Specifier.char ∈ form.own) := by
  rcases form with ⟨_ | _ | _ | _ | _⟩ | _ | _ | _ | _ | _ <;> cases isSigned <;>
    cases isUnsigned <;> revert h <;> decide +kernel

/-- Words name an integer type, in whatever order they stand, exactly if all are specifiers with one
sign at most that make one of the forms. The type is that of the form with its sign. It is an
integer to every host; its name keeps `unsigned`, and `signed` only for `char`; and the words of the
name are those of the same type again. -/
theorem specifiers_combine (words : List String) :
    (∀ others, words.Perm others → ofWords? words = ofWords? others) ∧
    ((∃ t, ofWords? words = some t) ↔
      ∃ specifiers : List Specifier, words = specifiers.map Specifier.word ∧
        specifiers.count .signed + specifiers.count .unsigned ≤ 1 ∧
        ∃! form : Form, form.MadeOf specifiers) ∧
    ∀ t, ofWords? words = some t →
      (∀ (form : Form) (specifiers : List Specifier), words = specifiers.map Specifier.word →
        form.MadeOf specifiers →
        form.type (words.contains "signed") (words.contains "unsigned") = t) ∧
      (∃ size, builtin? t.name = some (.integer size)) ∧
      ∃ parts, Declaration.ofText? t.name = some ⟨parts, 0, []⟩ ∧
        ("unsigned" ∈ parts ↔ "unsigned" ∈ words) ∧
        ("signed" ∈ parts ↔ "signed" ∈ words ∧ "char" ∈ words) ∧
        ofWords? parts = some t := by
  refine ⟨fun others h => ofWords?_perm h, ⟨?_, ?_⟩, ?_⟩
  · rintro ⟨t, ht⟩
    obtain ⟨specifiers, hwords, hspecifiers⟩ := ofWords?_eq_some.1 ht
    obtain ⟨hsigns, form, hmade, -⟩ := ofSpecifiers?_eq_some.1 hspecifiers
    exact ⟨specifiers, hwords, hsigns, form, hmade, fun other hother => hmade.unique hother⟩
  · rintro ⟨specifiers, hwords, hsigns, form, hmade, -⟩
    exact ⟨_, ofWords?_eq_some.2
      ⟨specifiers, hwords, ofSpecifiers?_eq_some.2 ⟨hsigns, form, hmade, rfl⟩⟩⟩
  · intro t ht
    obtain ⟨specifiers, rfl, hspecifiers⟩ := ofWords?_eq_some.1 ht
    obtain ⟨hsigns, form, hmade, rfl⟩ := ofSpecifiers?_eq_some.1 hspecifiers
    have hsaid (s : Specifier) : s.word ∈ specifiers.map Specifier.word ↔ s ∈ specifiers :=
      List.mem_map_of_injective Specifier.word_injective
    have hchar : Specifier.char ∈ specifiers ↔ Specifier.char ∈ form.own := by
      rw [← hmade.own.mem_iff, List.mem_filter]
      exact (and_iff_left rfl).symm
    have hboth : (specifiers.contains .signed && specifiers.contains .unsigned) = false := by
      refine Bool.eq_false_iff.2 fun hboth => ?_
      simp only [Bool.and_eq_true, List.contains_iff_mem, ← List.count_pos_iff] at hboth
      omega
    obtain ⟨hunsigned, hsigned⟩ := form.signs_words hboth
    refine ⟨?_, builtin?_name _, _, ofText?_name _, ?_, ?_, ofWords?_words _⟩
    · intro form' specifiers' hwords hmade'
      obtain rfl := List.map_injective_iff.2 Specifier.word_injective hwords
      obtain rfl := hmade.unique hmade'
      rw [← Specifier.contains_word, ← Specifier.contains_word]
      rfl
    · rw [hunsigned, List.contains_iff_mem]
      exact (hsaid .unsigned).symm
    · rw [hsigned, List.contains_iff_mem, ← hchar]
      exact and_congr (hsaid .signed).symm (hsaid .char).symm

/-- The words of `unsigned long long` in another order, and more of them than fit. -/
theorem specifiers_combine_mixed :
    ["long", "unsigned", "int", "long"].Perm ["unsigned", "long", "long", "int"] ∧
      ofWords? ["long", "unsigned", "int", "long"] = ofWords? ["unsigned", "long", "long", "int"] ∧
      (∃ parts, Declaration.ofText? "unsigned long long" = some ⟨parts, 0, []⟩ ∧
        "unsigned" ∈ parts ∧ ofWords? parts = some (.ranked true .longLong)) ∧
      ¬∃ t, ofWords? ["long", "int", "long", "long"] = some t := by
  have hperm : ["long", "unsigned", "int", "long"].Perm ["unsigned", "long", "long", "int"] := by
    decide
  have hnamed : ofWords? ["long", "unsigned", "int", "long"] = some (.ranked true .longLong) := by
    decide +kernel
  obtain ⟨horder, -, hname⟩ := specifiers_combine ["long", "unsigned", "int", "long"]
  obtain ⟨-, -, parts, hparts, hunsigned, -, hagain⟩ := hname _ hnamed
  refine ⟨hperm, horder _ hperm, ⟨parts, hparts, hunsigned.2 (by decide), hagain⟩, ?_⟩
  rw [(specifiers_combine ["long", "int", "long", "long"]).2.1]
  rintro ⟨specifiers, hwords, -, form, ⟨hown, -, -⟩, -⟩
  obtain rfl : [Specifier.long, .int, .long, .long] = specifiers :=
    List.map_injective_iff.2 Specifier.word_injective hwords
  have hlength := hown.length_eq
  cases form <;> simp [Form.own, Specifier.isOwn] at hlength

end IntegerType

end StructSync
