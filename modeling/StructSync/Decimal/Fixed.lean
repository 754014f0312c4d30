import StructSync.Decimal.Shortest
import StructSync.Text.Numeral

/-!
# Fixed places

Rounding a quotient to the nearest natural number, a half to the even one, and the text of a
binary fraction with a fixed number of decimal places.
-/

namespace StructSync.Decimal

/-- The natural number nearest to the quotient; of two as near the even one. -/
def roundDiv (num den : Nat) : Nat :=
  let below := num / den
  let rest := 2 * (num % den)
  if den < rest || (den = rest && below % 2 = 1) then below + 1 else below

theorem roundDiv_near (num den : Nat) (h : 0 < den) :
    2 * num ≤ 2 * (roundDiv num den * den) + den ∧
      2 * (roundDiv num den * den) ≤ 2 * num + den := by
  have hdiv : num / den * den + num % den = num := Nat.div_add_mod' num den
  have hlt := Nat.mod_lt num h
  have hnext : (num / den + 1) * den = num / den * den + den := Nat.succ_mul _ _
  unfold roundDiv
  simp only [Bool.or_eq_true, Bool.and_eq_true, decide_eq_true_eq]
  split
  · rw [hnext]
    omega
  · omega

/-- The fraction with that many decimal places. -/
def BinaryFraction.fixedText (v : BinaryFraction) (places : Nat) : String :=
  let scaled := roundDiv (v.mantissa * Nat.pow 2 v.exponent.toNat * Nat.pow 10 places)
    (Nat.pow 2 (-v.exponent).toNat)
  Text.decimal (scaled / Nat.pow 10 places) ++ "."
    ++ Text.padLeft places '0' (Text.decimal (scaled % Nat.pow 10 places))

end StructSync.Decimal
