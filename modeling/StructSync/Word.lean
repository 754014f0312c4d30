/-!
# Machine words

Sizes, offsets and ids are 64-bit words. Sums and products that leave the range are refused or
clamped, never wrapped; the lemmas state the result as a natural number.
-/

namespace StructSync

/-- The largest word. -/
def maxWord : UInt64 := 0xFFFFFFFFFFFFFFFF

/-- The word of that value, if there is one. -/
def wordOfNat? (n : Nat) : Option UInt64 :=
  if n < UInt64.size then some (UInt64.ofNat n) else none

/-- The sum, if it is a word. -/
def addWord? (a b : UInt64) : Option UInt64 := wordOfNat? (a.toNat + b.toNat)

/-- The product, if it is a word. -/
def mulWord? (a b : UInt64) : Option UInt64 := wordOfNat? (a.toNat * b.toNat)

/-- The word that decimal digits stand for, perhaps with a `+` before them. -/
def wordOfText? (s : String) : Option UInt64 :=
  let digits := match s.toList with
    | '+' :: digits => digits
    | digits => digits
  if digits.isEmpty || !digits.all Char.isDigit then none
  else wordOfNat? (Nat.ofDigitChars 10 digits 0)

/-- The sum, or the largest word if the sum is none. -/
def addClamped (a b : UInt64) : UInt64 := (addWord? a b).getD maxWord

/-- The difference, or zero if it would be negative. -/
def subClamped (a b : UInt64) : UInt64 := if b ≤ a then a - b else 0

theorem word_size_eq : UInt64.size = 18446744073709551616 := rfl

theorem wordOfNat?_eq_some {n : Nat} {w : UInt64} :
    wordOfNat? n = some w ↔ w.toNat = n := by
  unfold wordOfNat?
  constructor
  · intro h
    split at h
    · next hn =>
      injection h with h
      subst h
      exact UInt64.toNat_ofNat_of_lt' hn
    · simp at h
  · rintro rfl
    rw [if_pos w.toNat_lt, UInt64.ofNat_toNat]

theorem addWord?_eq_some {a b c : UInt64} : addWord? a b = some c ↔ c.toNat = a.toNat + b.toNat :=
  wordOfNat?_eq_some

theorem addWord?_eq_none {a b : UInt64} :
    addWord? a b = none ↔ UInt64.size ≤ a.toNat + b.toNat := by
  simp [addWord?, wordOfNat?]

theorem mulWord?_eq_some {a b c : UInt64} : mulWord? a b = some c ↔ c.toNat = a.toNat * b.toNat :=
  wordOfNat?_eq_some

theorem toNat_add_of_lt {a b : UInt64} (h : a.toNat + b.toNat < UInt64.size) :
    (a + b).toNat = a.toNat + b.toNat := by
  rw [UInt64.toNat_add]
  exact Nat.mod_eq_of_lt h

theorem toNat_addClamped (a b : UInt64) :
    (addClamped a b).toNat = min (a.toNat + b.toNat) (UInt64.size - 1) := by
  have hsize := word_size_eq
  unfold addClamped
  cases h : addWord? a b with
  | none =>
    have := addWord?_eq_none.1 h
    simp only [Option.getD_none, maxWord, UInt64.reduceToNat]
    omega
  | some c =>
    have := addWord?_eq_some.1 h
    have := c.toNat_lt
    simp only [Option.getD_some]
    omega

theorem toNat_subClamped (a b : UInt64) : (subClamped a b).toNat = a.toNat - b.toNat := by
  unfold subClamped
  split
  · exact UInt64.toNat_sub_of_le _ _ ‹_›
  · have : a.toNat < b.toNat := by
      have h := ‹¬b ≤ a›
      rw [UInt64.le_iff_toNat_le] at h
      omega
    simp only [UInt64.toNat_zero]
    omega

end StructSync
