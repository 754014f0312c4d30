import Mathlib
import StructSync.Json.Decoder
import StructSync.Json.Writer
import StructSync.Text.Blank

/-!
# Reading back the words of JSON

The strings and the natural numbers that are written are read back, with all that stands behind
them: `stringBody_escaped` and `numeral_digits`. A number can only be told from what follows it if
that is nothing that could be part of a number (`Ends`).
-/

namespace StructSync.Json

/-! ### White space -/

theorem skipSpace_cons {c : Char} (h : isSpace c = false) (cs : List Char) :
    skipSpace (c :: cs) = c :: cs := by
  simp [skipSpace, h]

theorem skipSpace_newline (style : Style) (depth : Nat) (cs : List Char) :
    skipSpace (style.newline depth ++ cs) = skipSpace cs := by
  cases style with
  | compact => rfl
  | pretty =>
    have hblanks : ∀ n, skipSpace (List.replicate n ' ' ++ cs) = skipSpace cs := by
      intro n
      induction n with
      | zero => rfl
      | succ n ih =>
        rw [List.replicate_succ, List.cons_append]
        exact ih
    exact hblanks _

/-! ### Strings -/

theorem hexValue?_digitChar : ∀ n < 16, Text.hexValue? n.digitChar = some n := by decide

theorem hexFour_byte {n : Nat} (hn : n < 0x20) (cs : List Char) :
    ∃ shorter, hexFour ('0' :: '0' :: Nat.digitChar (n / 16) :: Nat.digitChar (n % 16) :: cs) =
      .ok (n, ⟨cs, shorter⟩) := by
  have hlength : ¬Text.utf8Length
      ('0' :: '0' :: Nat.digitChar (n / 16) :: Nat.digitChar (n % 16) :: cs) < 4 := by
    have hhigh := (Nat.digitChar (n / 16)).utf8Size_pos
    have hlow := (Nat.digitChar (n % 16)).utf8Size_pos
    have hzero : '0'.utf8Size = 1 := rfl
    simp only [Text.utf8Length, hzero]
    omega
  have hhigh := hexValue?_digitChar (n / 16) (by omega)
  have hlow := hexValue?_digitChar (n % 16) (by omega)
  have hzero : Text.hexValue? '0' = some 0 := rfl
  have hvalue : ((0 * 16 + 0) * 16 + n / 16) * 16 + n % 16 = n := by omega
  have hshorter : cs.length < ('0' :: '0' :: Nat.digitChar (n / 16) :: Nat.digitChar (n % 16)
      :: cs).length := by
    simp only [List.length_cons]
    omega
  refine ⟨hshorter, ?_⟩
  unfold hexFour
  simp only [hlength, if_false, hzero, hhigh, hlow, hvalue]

theorem stringBody_escape {c : Char} {cs : List Char}
    {after : { r : List Char // r.length < cs.length }}
    (h : escape cs = .ok (c, after)) :
    stringBody ('\\' :: cs) = (stringBody after.1).map fun read => (c :: read.1, read.2) := by
  rw [stringBody, h]
  cases hbody : stringBody after.1 with
  | error e => simp [bind, Except.bind, Except.map, hbody]
  | ok read => simp [bind, Except.bind, Except.map, hbody]

theorem stringBody_letter {letter c : Char} (h : letterEscape? letter = some c) (hu : letter ≠ 'u')
    (cs : List Char) :
    stringBody ('\\' :: letter :: cs) = (stringBody cs).map fun read => (c :: read.1, read.2) := by
  have hescape : escape (letter :: cs) = .ok (c, ⟨cs, by simp⟩) := by
    rw [escape, h]
    exact hu
  exact stringBody_escape hescape

theorem stringBody_plain {c : Char} (hquote : c ≠ '"') (hslash : c ≠ '\\')
    (hcontrol : ¬c.toNat < 0x20) (cs : List Char) :
    stringBody (c :: cs) = (stringBody cs).map fun read => (c :: read.1, read.2) := by
  rw [stringBody, if_neg hcontrol]
  · cases stringBody cs <;> rfl
  · exact hquote
  · exact hslash

theorem stringBody_control {c : Char} (hcontrol : c.toNat < 0x20) (cs : List Char) :
    stringBody ('\\' :: 'u' :: '0' :: '0' :: Nat.digitChar (c.toNat / 16) ::
      Nat.digitChar (c.toNat % 16) :: cs) =
        (stringBody cs).map fun read => (c :: read.1, read.2) := by
  obtain ⟨shorter, hfour⟩ := hexFour_byte hcontrol cs
  have hlow : ¬0xDC00 ≤ c.toNat := by omega
  have hhigh : c.toNat < 0xD800 := by omega
  have hunicode : unicodeEscape ('0' :: '0' :: Nat.digitChar (c.toNat / 16) ::
      Nat.digitChar (c.toNat % 16) :: cs) = .ok (c, ⟨cs, shorter⟩) := by
    unfold unicodeEscape
    rw [hfour]
    simp [bind, Except.bind, hlow, hhigh]
  have hescape : escape ('u' :: '0' :: '0' :: Nat.digitChar (c.toNat / 16) ::
      Nat.digitChar (c.toNat % 16) :: cs) = .ok (c, ⟨cs, Nat.lt_succ_of_lt shorter⟩) := by
    rw [escape, hunicode]
    rfl
  exact stringBody_escape hescape

theorem stringBody_escapeChar (c : Char) (cs : List Char) :
    stringBody (escapeChar c ++ cs) =
      (stringBody cs).map fun read => (c :: read.1, read.2) := by
  unfold escapeChar
  split
  iterate 7 exact stringBody_letter rfl (by decide) cs
  split
  · exact stringBody_control ‹_› cs
  · exact stringBody_plain ‹_› ‹_› ‹_› cs

theorem stringBody_escaped (text rest : List Char) :
    stringBody (text.flatMap escapeChar ++ '"' :: rest) = .ok (text, rest) := by
  induction text with
  | nil =>
    rw [List.flatMap_nil, List.nil_append, stringBody]
  | cons c text ih =>
    rw [List.flatMap_cons, List.append_assoc, stringBody_escapeChar, ih]
    rfl

/-! ### Numbers -/

/-- What follows is no part of a number. -/
def Ends (rest : List Char) : Prop :=
  ∀ c ∈ rest.head?, c.isDigit = false ∧ c ≠ '.' ∧ c ≠ 'e' ∧ c ≠ 'E'

theorem ofWhole_append_digitChar (digits : List Char) {n d : Nat} (hd : d < 10)
    (hn : n * 10 + d < UInt64.size) (h : Significand.ofWhole digits = ⟨n, 0⟩) :
    Significand.ofWhole (digits ++ [d.digitChar]) = ⟨n * 10 + d, 0⟩ := by
  rw [Significand.ofWhole, List.foldl_append]
  rw [Significand.ofWhole] at h
  rw [h, List.foldl_cons, List.foldl_nil, Nat.toNat_digitChar_sub_48_of_lt_ten hd]
  simp [hn]

theorem ofWhole_toDigits {n : Nat} (hn : n < UInt64.size) :
    Significand.ofWhole (Nat.toDigits 10 n) = ⟨n, 0⟩ := by
  induction n using Nat.strongRecOn with
  | ind n ih =>
    have hmod : n % 10 < 10 := Nat.mod_lt _ (by decide)
    by_cases hlt : n < 10
    · rw [Nat.toDigits_of_lt_base hlt]
      simpa using ofWhole_append_digitChar [] (n := 0) hlt (by omega) rfl
    · rw [Nat.toDigits_of_base_le (by decide) (by omega)]
      have hdiv : n / 10 * 10 + n % 10 = n := by omega
      have h := ofWhole_append_digitChar _ hmod (by omega) (ih (n / 10) (by omega) (by omega))
      rwa [hdiv] at h

theorem toDigits_of_head {n : Nat} (h : (Nat.toDigits 10 n).head? = some '0') : n = 0 := by
  induction n using Nat.strongRecOn with
  | ind n ih =>
    by_cases hlt : n < 10
    · rw [Nat.toDigits_of_lt_base hlt] at h
      exact Nat.digitChar_eq_zero.1 (Option.some.inj h)
    · rw [Nat.toDigits_of_base_le (by decide) (by omega),
        List.head?_append_of_ne_nil _ Nat.toDigits_ne_nil] at h
      have := ih (n / 10) (by omega) h
      omega

theorem fractionPart_ends (s : Significand) (isNegative : Bool) {rest : List Char} (h : Ends rest) :
    fractionPart s isNegative rest = .ok (none, rest) := by
  unfold fractionPart
  split
  · exact absurd rfl (h '.' (by simp)).2.1
  · exact absurd rfl (h 'e' (by simp)).2.2.1
  · exact absurd rfl (h 'E' (by simp)).2.2.2
  · rfl

theorem numeral_zero {rest : List Char} (hrest : Ends rest) :
    numeral false ('0' :: rest) = .ok (.word 0, rest) := by
  have hnext : ∀ next ∈ rest.head?, next.isDigit = false := fun c hc => (hrest c hc).1
  unfold numeral
  cases rest with
  | nil => rfl
  | cons next rest =>
    have hdigit := hnext next (by simp)
    have hzero : '0'.isDigit = true := rfl
    simp only [hzero, Bool.not_true, Bool.false_eq_true, ↓reduceIte, List.head?_cons, hdigit,
      fractionPart_ends _ _ hrest]
    rfl

theorem numeral_digits {n : Nat} (hn : n < UInt64.size) {rest : List Char} (hrest : Ends rest) :
    numeral false (Nat.toDigits 10 n ++ rest) = .ok (.word (UInt64.ofNat n), rest) := by
  by_cases hzero : n = 0
  · subst hzero
    exact numeral_zero hrest
  · have hdigits : ∀ c ∈ Nat.toDigits 10 n, c.isDigit = true := fun c hc =>
      Nat.isDigit_of_mem_toDigits (by decide) (by decide) hc
    have hvalue := ofWhole_toDigits hn
    obtain ⟨c, tail, hcons⟩ := List.exists_cons_of_ne_nil (Nat.toDigits_ne_nil (n := n) (b := 10))
    have hne : c ≠ '0' := fun hc => hzero (toDigits_of_head (by rw [hcons, hc]; rfl))
    rw [hcons] at hdigits hvalue ⊢
    have hc := hdigits c (by simp)
    have htail : ∀ c ∈ tail, c.isDigit = true := fun x hx => hdigits x (by simp [hx])
    obtain ⟨htake, hdrop⟩ := Text.takeWhile_append_of_stops htail fun c hc => (hrest c hc).1
    unfold numeral
    simp only [List.cons_append, hc, Bool.not_true, Bool.false_eq_true, ↓reduceIte, hne, htake,
      hdrop, hvalue, fractionPart_ends _ _ hrest]
    split
    · exact absurd rfl hne
    · rfl

end StructSync.Json
