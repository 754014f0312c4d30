import Mathlib
import StructSync.Word

/-!
# Exchanging neighbours

`Reordered`: a list whose elements have owners, with neighbours of different owners exchanged any
number of times. Main statement (`Reordered.of_filter`): if every owner has the same elements in the
same order in two lists, the one is the other reordered. `exchange` exchanges two blocks of words.
-/

namespace StructSync

open Equiv (Perm)

/-! ### The same calls in another order -/

/-- The second list is the first one with neighbours of different owners exchanged. -/
inductive Reordered {ι α : Type} : List (ι × α) → List (ι × α) → Prop
  | nil : Reordered [] []
  | cons (x : ι × α) {u v : List (ι × α)} (h : Reordered u v) : Reordered (x :: u) (x :: v)
  | swap (x y : ι × α) (h : x.1 ≠ y.1) (l : List (ι × α)) : Reordered (x :: y :: l) (y :: x :: l)
  | trans {u v w : List (ι × α)} (h : Reordered u v) (h' : Reordered v w) : Reordered u w

namespace Reordered

variable {ι α : Type} {u v : List (ι × α)} {x : ι × α}

theorem refl (u : List (ι × α)) : Reordered u u := by
  induction u with
  | nil => exact .nil
  | cons x u ih => exact .cons x ih

theorem perm (h : Reordered u v) : u.Perm v := by
  induction h with
  | nil => exact .nil
  | cons x h ih => exact .cons x ih
  | swap x y h l => exact .swap y x l
  | trans h h' ih ih' => exact ih.trans ih'

/-- What has an owner of its own can be moved to the front. -/
theorem move {before : List (ι × α)} (h : ∀ y ∈ before, y.1 ≠ x.1) (rest : List (ι × α)) :
    Reordered (x :: (before ++ rest)) (before ++ x :: rest) := by
  induction before with
  | nil => exact refl _
  | cons y before ih =>
    obtain ⟨hy, hbefore⟩ := List.forall_mem_cons.1 h
    exact .trans (.swap x y (Ne.symm hy) _) (.cons y (ih hbefore))

variable [DecidableEq ι]

/-- Lists in which every owner has the same are reorderings of each other. -/
theorem of_filter (h : ∀ i, u.filter (·.1 = i) = v.filter (·.1 = i)) : Reordered u v := by
  induction u generalizing v with
  | nil =>
    cases v with
    | nil => exact .nil
    | cons y v => simpa using h y.1
  | cons x u ih =>
    have hx := h x.1
    rw [List.filter_cons_of_pos (by simp)] at hx
    -- the first of its owner stands in the other list too, behind those of other owners
    obtain ⟨before, rest, rfl, hbefore, -, hrest⟩ := List.filter_eq_cons_iff.1 hx.symm
    have hbefore' : ∀ y ∈ before, y.1 ≠ x.1 := fun y hy => by simpa using hbefore y hy
    refine .trans (.cons x (ih fun i => ?_)) (move hbefore' rest)
    have hi := h i
    by_cases hxi : x.1 = i
    · subst hxi
      rw [List.filter_append, List.filter_eq_nil_iff.2 hbefore, List.nil_append]
      exact hrest.symm
    · rw [List.filter_cons_of_neg (by simpa using hxi)] at hi
      rw [hi, List.filter_append, List.filter_append, List.filter_cons_of_neg (by simpa using hxi)]

end Reordered

/-! ### Permutations of words -/

/-- The permutation moves the words from `lo` up to `hi` by `δ`. -/
def Moves (ρ : Perm UInt64) (δ lo hi : UInt64) : Prop := ∀ x, lo ≤ x → x < hi → ρ x = x + δ

namespace Moves

variable {ρ : Perm UInt64} {δ lo lo' hi hi' : UInt64}

theorem mono (h : Moves ρ δ lo hi) (hlo : lo ≤ lo') (hhi : hi' ≤ hi) : Moves ρ δ lo' hi' :=
  fun x hx hx' => h x (UInt64.le_trans hlo hx) (UInt64.lt_of_lt_of_le hx' hhi)

end Moves

/-- Exchanges the `a` words from `n` with the `b` words behind them. -/
def slide (n a b x : UInt64) : UInt64 :=
  if x < n then x else if x < n + a then x + b else if x < n + a + b then x - a else x

theorem slide_slide {n a b : UInt64} (h : n.toNat + a.toNat + b.toNat < UInt64.size) (x : UInt64) :
    slide n b a (slide n a b x) = x := by
  have hna : (n + a).toNat = n.toNat + a.toNat := toNat_add_of_lt (by omega)
  have hnb : (n + b).toNat = n.toNat + b.toNat := toNat_add_of_lt (by omega)
  have hnab : (n + a + b).toNat = n.toNat + a.toNat + b.toNat := by
    rw [toNat_add_of_lt (by omega), hna]
  have hcomm : n + b + a = n + a + b := by ac_rfl
  unfold slide
  rw [hcomm]
  simp only [UInt64.lt_iff_toNat_lt, hna, hnb, hnab]
  by_cases h₁ : x.toNat < n.toNat
  · simp only [if_pos h₁]
  by_cases h₂ : x.toNat < n.toNat + a.toNat
  · have hxb : (x + b).toNat = x.toNat + b.toNat := toNat_add_of_lt (by omega)
    simp only [if_neg h₁, if_pos h₂, hxb]
    rw [if_neg (by omega), if_neg (by omega), if_pos (by omega)]
    exact UInt64.add_sub_cancel x b
  by_cases h₃ : x.toNat < n.toNat + a.toNat + b.toNat
  · have hxa : (x - a).toNat = x.toNat - a.toNat :=
      UInt64.toNat_sub_of_le x a (UInt64.le_iff_toNat_le.2 (by omega))
    simp only [if_neg h₁, if_neg h₂, if_pos h₃, hxa]
    rw [if_neg (by omega), if_pos (by omega)]
    exact UInt64.sub_add_cancel x a
  · simp only [if_neg h₁, if_neg h₂, if_neg h₃]
    rw [if_neg (by omega)]

/-- Sliding as a permutation. -/
def exchange (n a b : UInt64) (h : n.toNat + a.toNat + b.toNat < UInt64.size) : Perm UInt64 where
  toFun := slide n a b
  invFun := slide n b a
  left_inv := slide_slide h
  right_inv := slide_slide (by omega)

section
variable {n a b x : UInt64} {h : n.toNat + a.toNat + b.toNat < UInt64.size}

theorem exchange_of_lt (hx : x < n) : exchange n a b h x = x := if_pos hx

theorem exchange_moves : Moves (exchange n a b h) b n (n + a) := fun _ hn hx =>
  (if_neg (UInt64.not_lt.2 hn)).trans (if_pos hx)

theorem exchange_of_le (hx : n + a + b ≤ x) : exchange n a b h x = x := by
  have hna : (n + a).toNat = n.toNat + a.toNat := toNat_add_of_lt (by omega)
  have hnab : (n + a + b).toNat = n.toNat + a.toNat + b.toNat := by
    rw [toNat_add_of_lt (by omega), hna]
  rw [UInt64.le_iff_toNat_le, hnab] at hx
  show slide n a b x = x
  unfold slide
  simp only [UInt64.lt_iff_toNat_lt, hna, hnab]
  rw [if_neg (by omega), if_neg (by omega), if_neg (by omega)]

end

end StructSync
