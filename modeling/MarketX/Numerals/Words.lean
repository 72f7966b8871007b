/-
Module: MarketX.Numerals.Words
Purpose: Numbers as words of 32 bits (`^`, `>>>`), their absolute values and
  remainders; and the products of integers that are exact as doubles.
Trusted boundary: follows the language definition
Main exports: truncate, toInt32, Number.xor, Number.unsigned
-/
import MarketX.Numerals.Printing

namespace Numerals

/-! ### Words -/

/-- The integer part. -/
def truncate (x : ℚ) : ℤ := if 0 ≤ x then ⌊x⌋ else ⌈x⌉

/-- `ToInt32`, as the bits it leaves. -/
def toInt32 : Number → BitVec 32
  | .finite x => BitVec.ofInt 32 (truncate x)
  | _ => 0

namespace Number

/-- `x ^ y`. -/
def xor (x y : Number) : Number := .finite ((toInt32 x ^^^ toInt32 y).toInt : ℤ)

/-- `x >>> 0`. -/
def unsigned (x : Number) : Number := .finite ((toInt32 x).toNat : ℕ)

/-- `Math.abs`. -/
def abs : Number → Number
  | .finite x => .finite |x|
  | .infinity _ => .infinity false
  | .nan => .nan

/-- `x % y`, with the sign of the first. -/
def rem : Number → Number → Number
  | .finite x, .finite y =>
    if y = 0 then .nan else .finite (x - y * truncate (x / y))
  | .finite x, .infinity _ => .finite x
  | _, _ => .nan

end Number

@[simp] theorem truncate_intCast (n : ℤ) : truncate n = n := by
  unfold truncate
  split <;> simp

@[simp] theorem toInt32_word (word : BitVec 32) :
    toInt32 (.finite (word.toInt : ℤ)) = word := by
  rw [toInt32, truncate_intCast, BitVec.ofInt_toInt]

namespace Number

theorem xor_word (n : ℤ) (code : ℕ) :
    xor (.finite n) (.finite code) =
      .finite ((BitVec.ofInt 32 n ^^^ BitVec.ofNat 32 code).toInt : ℤ) := by
  have second : toInt32 (.finite code) = BitVec.ofNat 32 code := by
    have cast : ((code : ℕ) : ℚ) = ((code : ℤ) : ℚ) := by norm_cast
    rw [toInt32, cast, truncate_intCast, BitVec.ofInt_natCast]
  rw [xor, second, toInt32, truncate_intCast]

theorem unsigned_word (word : BitVec 32) :
    unsigned (.finite (word.toInt : ℤ)) = .finite (word.toNat : ℕ) := by rw [unsigned, toInt32_word]

theorem abs_natCast (n : ℕ) : abs (.finite n) = .finite n := by
  rw [abs, abs_of_nonneg (Nat.cast_nonneg n)]

theorem rem_natCast (n : ℕ) {m : ℕ} (positive : 0 < m) :
    rem (.finite n) (.finite m) = .finite (n % m : ℕ) := by
  have nonzero : (m : ℚ) ≠ 0 := by exact_mod_cast positive.ne'
  have whole : truncate (n / m : ℚ) = ((n / m : ℕ) : ℤ) := by
    rw [truncate, if_pos (by positivity)]
    exact Rat.floor_natCast_div_natCast n m
  have split : (m : ℚ) * (n / m : ℕ) + (n % m : ℕ) = n := by exact_mod_cast Nat.div_add_mod n m
  rw [rem, if_neg nonzero, whole, Int.cast_natCast]
  congr 1
  linarith

end Number

/-! ### Integers that are doubles -/

theorem roundHalfEven_intCast (n : ℤ) : roundHalfEven n = n := by simp [roundHalfEven]

theorem toDouble_natCast {n : ℕ} (positive : 0 < n) (small : n < 2 ^ 53) :
    toDouble n = n := by
  have above : (0 : ℚ) < n := by exact_mod_cast positive
  have bound : (n : ℚ) < 2 ^ 53 := by exact_mod_cast small
  have exponent : binaryExponent n < 53 := by
    have least := (twoTo_binaryExponent_le above).trans_lt bound
    rw [twoTo_eq] at least
    have two : (1 : ℚ) < 2 := by norm_num
    exact (zpow_lt_zpow_iff_right₀ two).mp (by exact_mod_cast least)
  obtain ⟨shift, is⟩ : ∃ shift : ℕ, max (binaryExponent n) (-1022) - 52 = -(shift : ℤ) := by
    refine ⟨(52 - max (binaryExponent n) (-1022)).toNat, ?_⟩
    omega
  have unit : twoTo (-(shift : ℤ)) = (2 ^ shift)⁻¹ := by rw [twoTo_eq, zpow_neg, zpow_natCast]
  have scaled : (n : ℚ) / (2 ^ shift)⁻¹ = ((n * 2 ^ shift : ℤ) : ℚ) := by
    rw [div_inv_eq_mul]
    push_cast
    ring
  unfold toDouble
  dsimp only
  rw [is, unit, scaled, roundHalfEven_intCast]
  simp_all

theorem nearestDouble_intCast {n : ℤ} (small : |n| < 2 ^ 53) :
    nearestDouble n = n := by
  obtain ⟨m, rfl | rfl⟩ := n.eq_nat_or_neg
  · rw [Nat.abs_cast] at small
    rw [nearestDouble, Int.cast_natCast]
    split_ifs with zero negative
    · exact zero.symm
    · exact absurd negative (Nat.cast_nonneg m).not_gt
    · simp_all [toDouble_natCast, Nat.pos_of_ne_zero]
  · rw [abs_neg, Nat.abs_cast] at small
    rw [nearestDouble, Int.cast_neg, Int.cast_natCast, neg_neg]
    split_ifs with zero negative
    · exact zero.symm
    · simp_all [toDouble_natCast]
    · simp_all

theorem Number.double_intCast {n : ℤ} (small : |n| < 2 ^ 53) :
    (Number.finite n).double = .finite n := by
  have finite : |(n : ℚ)| < twoTo 1024 - twoTo 970 := by
    have bound : |(n : ℚ)| < 2 ^ 53 := by exact_mod_cast small
    have room : (2 : ℚ) ^ 53 < tenTo 16 := by
      rw [tenTo_eq]
      norm_num
    exact (bound.trans room).trans (tenTo_lt_double (by norm_num))
  rw [Number.double_finite finite, nearestDouble_intCast small]

end Numerals
