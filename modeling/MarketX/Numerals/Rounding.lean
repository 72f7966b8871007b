/-
Module: MarketX.Numerals.Rounding
Purpose: Rounding to the nearest integer with ties away from zero, and how a
  division with remainder computes it.
Trusted boundary: none
Main exports: roundAway, roundAway_nearest, roundAway_error, roundAway_neg
-/
import Mathlib.Data.Int.ConditionallyCompleteOrder
import Mathlib.Algebra.Order.Round
import Mathlib.Tactic.Ring

namespace Numerals

variable {α : Type} [Field α] [LinearOrder α] [IsStrictOrderedRing α] [FloorRing α]

/-- The nearest integer; of two that are equally near, the one further from
zero. -/
def roundAway (x : α) : ℤ :=
  if 0 ≤ x then round x else -round (-x)

theorem roundAway_of_nonneg {x : α} (nonneg : 0 ≤ x) :
    roundAway x = ⌊x + 1 / 2⌋ := by rw [roundAway, if_pos nonneg, round_eq]

@[simp] theorem roundAway_neg (x : α) : roundAway (-x) = -roundAway x := by
  rcases lt_trichotomy x 0 with below | zero | above
  · have positive : 0 ≤ -x := by linarith
    rw [roundAway, roundAway, if_pos positive, if_neg (not_le.mpr below), neg_neg]
  · subst zero
    simp [roundAway]
  · have negative : ¬ 0 ≤ -x := by linarith
    rw [roundAway, roundAway, if_neg negative, if_pos above.le, neg_neg]

@[simp] theorem roundAway_intCast (n : ℤ) : roundAway (n : α) = n := by
  unfold roundAway
  split
  · exact round_intCast n
  · rw [← Int.cast_neg, round_intCast, neg_neg]

/-- No integer is nearer. -/
theorem roundAway_nearest (x : α) (n : ℤ) :
    |x - roundAway x| ≤ |x - n| := by
  unfold roundAway
  split
  · exact round_le x n
  · have near := round_le (-x) (-n)
    grind

/-- Rounding moves a number by a half at most. -/
theorem roundAway_error (x : α) : |x - roundAway x| ≤ 1 / 2 :=
  (roundAway_nearest x (round x)).trans (abs_sub_round x)

/-- An integer that is nearer than one to an integer is that integer. -/
theorem eq_of_near {n m : ℤ} (near : |(n : α) - m| < 1) : n = m := by
  have small : |n - m| < 1 := by
    have cast : ((|n - m| : ℤ) : α) < (1 : ℤ) := by
      push_cast
      exact near
    exact_mod_cast cast
  exact sub_eq_zero.mp (Int.abs_lt_one_iff.mp small)

/-- Scaled and rounded there and back, an integer moves by the two roundings,
of which the first is scaled back. -/
theorem roundAway_back (n : ℤ) {r : α} (positive : 0 < r) :
    |(roundAway (roundAway (n * r) / r) : α) - n| ≤ 1 / 2 + 1 / (2 * r) := by
  have there := roundAway_error ((n : α) * r)
  have back := roundAway_error ((roundAway ((n : α) * r) : α) / r)
  have scaled : |(roundAway ((n : α) * r) : α) / r - n| ≤ 1 / (2 * r) := by
    have apart : (roundAway ((n : α) * r) : α) / r - n = (roundAway ((n : α) * r) - n * r) / r := by
      field_simp
    rw [apart, abs_div, abs_of_pos positive, abs_sub_comm, div_le_div_iff₀ positive (by positivity)]
    calc |(n : α) * r - roundAway (n * r)| * (2 * r) ≤ 1 / 2 * (2 * r) :=
          mul_le_mul_of_nonneg_right there (by positivity)
      _ = 1 * r := by ring
  grind

theorem roundAway_tie (n : ℕ) : roundAway (n + 1 / 2 : α) = n + 1 := by
  have nonneg : (0 : α) ≤ n + 1 / 2 := by positivity
  rw [roundAway_of_nonneg nonneg, Int.floor_eq_iff]
  push_cast
  constructor <;> linarith

theorem roundAway_nonneg {x : α} (nonneg : 0 ≤ x) : 0 ≤ roundAway x := by
  rw [roundAway_of_nonneg nonneg]
  apply Int.floor_nonneg.mpr
  linarith

theorem roundAway_mono : Monotone (roundAway : α → ℤ) := by
  have above : ∀ {x y : α}, 0 ≤ x → x ≤ y → roundAway x ≤ roundAway y := by
    intro x y nonneg le
    rw [roundAway_of_nonneg nonneg, roundAway_of_nonneg (nonneg.trans le)]
    exact Int.floor_le_floor (by linarith)
  intro x y le
  rcases le_or_gt 0 x with nonneg | negative <;> grind [roundAway_neg, neg_le_neg]

/-- Division with remainder: the quotient, or the next integer where the
remainder is half of the divisor at least. -/
theorem roundAway_div {n d : ℤ} (nonneg : 0 ≤ n) (positive : 0 < d) :
    roundAway (n / d : α) = if d ≤ 2 * (n % d) then n / d + 1 else n / d := by
  have divisor : (0 : α) < d := by exact_mod_cast positive
  have dividend : (0 : α) ≤ n := by exact_mod_cast nonneg
  have split : (n : α) = d * (n / d : ℤ) + (n % d : ℤ) := by
    exact_mod_cast (Int.mul_ediv_add_emod n d).symm
  have small : ((n % d : ℤ) : α) < d := by exact_mod_cast Int.emod_lt_of_pos n positive
  have remains : (0 : α) ≤ (n % d : ℤ) := by exact_mod_cast Int.emod_nonneg n positive.ne'
  have quotient : (n : α) / d = (n / d : ℤ) + (n % d : ℤ) / d := by
    rw [split]
    field_simp
  have fraction : ((n % d : ℤ) : α) / d < 1 := (div_lt_one divisor).mpr small
  have atLeast : (0 : α) ≤ (n % d : ℤ) / d := div_nonneg remains divisor.le
  rw [roundAway_of_nonneg (div_nonneg dividend divisor.le), quotient, Int.floor_eq_iff]
  split_ifs with up
  · have half : (1 / 2 : α) ≤ (n % d : ℤ) / d := by
      rw [div_le_div_iff₀ two_pos divisor]
      have doubled : (d : α) ≤ 2 * (n % d : ℤ) := by exact_mod_cast up
      linarith
    push_cast
    constructor <;> linarith
  · have half : ((n % d : ℤ) : α) / d < 1 / 2 := by
      rw [div_lt_div_iff₀ divisor two_pos]
      have doubled : 2 * ((n % d : ℤ) : α) < d := by exact_mod_cast not_le.mp up
      linarith
    constructor <;> linarith

end Numerals
