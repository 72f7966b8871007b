/-
Module: MarketX.Numerals.Printing
Purpose: The decimal number that is printed for a finite number: its value,
  its places behind the point, and how its text denotes it; how far doubles
  and what is printed for them are from a number, and how decimals are read.
Trusted boundary: none
Main exports: printed, places, pointed_plain, pointed_exponent
-/
import Mathlib.Data.List.Induction
import MarketX.Numerals.Number
import MarketX.Numerals.Rounding

namespace Numerals

/-! ### The printed decimal -/

/-- How many digits are printed behind the point; a negative number of them
stands for zeros before it. -/
def places (x : ℚ) : ℤ :=
  if x = 0 then 0 else (shortest |x|).1.length - (shortest |x|).2

/-- The decimal number that the text of a number denotes. -/
def printed (x : ℚ) : ℚ :=
  if x = 0 then 0
  else (if x < 0 then -1 else 1) * (valueOf (shortest |x|).1 * tenTo (-places x))

theorem tenTo_pos (e : ℤ) : 0 < tenTo e := by
  rw [tenTo_eq]
  exact zpow_pos (by norm_num) _

theorem tenTo_natCast (n : ℕ) : tenTo n = 10 ^ n := by rw [tenTo_eq, zpow_natCast]

theorem tenTo_neg_natCast (n : ℕ) : tenTo (-n) = 1 / 10 ^ n := by
  rw [tenTo_eq, zpow_neg, zpow_natCast, one_div]

variable {d e point : ℤ} {digits : List Char} {digit : Char} {count n : ℕ} {x y : ℚ}

theorem tenTo_lt : tenTo d < tenTo e ↔ d < e := by
  rw [tenTo_eq, tenTo_eq, zpow_lt_zpow_iff_right₀ (by norm_num)]

theorem tenTo_le : tenTo d ≤ tenTo e ↔ d ≤ e := by
  rw [tenTo_eq, tenTo_eq, zpow_le_zpow_iff_right₀ (by norm_num)]

theorem tenTo_add (d e : ℤ) : tenTo (d + e) = tenTo d * tenTo e := by
  rw [tenTo_eq, tenTo_eq, tenTo_eq, zpow_add₀ (by norm_num)]

/-- The zeros that are written behind the digits or before them. -/
theorem allDigits_zeros (count : ℕ) : AllDigits (List.replicate count '0') := by
  intro c member
  rw [List.eq_of_mem_replicate member]
  rfl

theorem valueOf_zeros (count : ℕ) :
    valueOf (List.replicate count '0') = 0 := by simp [valueOf]

/-- The value of a literal, from the value of all its digits. -/
theorem DecimalLiteral.value_of_digits {literal : DecimalLiteral} {value : ℕ}
    (digits : valueOf (literal.integer ++ literal.decimals) = value) :
    literal.value = (if literal.negative then -1 else 1) *
      (value * tenTo (-literal.decimals.length)) := by
  have scaled := literal.value_eq
  rw [digits] at scaled
  rw [tenTo_neg_natCast, mul_one_div, ← mul_div_assoc, eq_div_iff (by positivity)]
  exact scaled

/-- With its point among these places, a number is written out. -/
theorem pointed_plain (all : AllDigits digits) (low : -6 < point) (high : point ≤ 21)
    (negative : Bool) :
    ∃ literal : DecimalLiteral, literal.negative = negative ∧
      pointed digits point = literal.unsigned ∧ literal.value = (if negative then -1 else 1) *
        (valueOf digits * tenTo (-(digits.length - point))) ∧
      (literal.decimals.length : ℤ) = max 0 (digits.length - point) := by
  have none_digits : AllDigits [] := List.forall_mem_nil _
  unfold pointed
  split
  next short =>
    obtain ⟨spare, total⟩ := Int.eq_ofNat_of_zero_le (sub_nonneg.mpr short.1)
    have zeros : (point - digits.length).toNat = spare := by omega
    let literal : DecimalLiteral :=
      ⟨negative, digits ++ List.replicate spare '0', none,
        all.append (allDigits_zeros spare), none_digits⟩
    have read : valueOf (literal.integer ++ literal.decimals) = valueOf digits * 10 ^ spare := by
      show valueOf ((digits ++ List.replicate spare '0') ++ []) = _
      rw [List.append_nil, valueOf_append, valueOf_zeros, List.length_replicate, add_zero]
    have value := DecimalLiteral.value_of_digits read
    refine ⟨literal, rfl, ?_, ?_, ?_⟩
    · rw [zeros]
      exact (List.append_nil _).symm
    · grind [tenTo_natCast, DecimalLiteral.decimals]
    · show ((0 : ℕ) : ℤ) = _
      omega
  next long =>
  split
  next inside =>
    obtain ⟨front, same⟩ := Int.eq_ofNat_of_zero_le inside.1.le
    have before : point.toNat = front := by omega
    let literal : DecimalLiteral :=
      ⟨negative, digits.take front, some (digits.drop front),
        fun c member => all c (List.mem_of_mem_take member),
        fun c member => all c (List.mem_of_mem_drop member)⟩
    have behind : (literal.decimals.length : ℤ) = digits.length - point := by
      grind [DecimalLiteral.decimals]
    have read : valueOf (literal.integer ++ literal.decimals) =
        valueOf digits := by
      show valueOf (digits.take front ++ digits.drop front) = _
      rw [List.take_append_drop]
    have value := DecimalLiteral.value_of_digits read
    refine ⟨literal, rfl, ?_, ?_, ?_⟩
    · rw [before]
      rfl
    · rw [value, behind]
    · rw [behind]
      omega
  next outside =>
  split
  next small =>
    obtain ⟨front, same⟩ := Int.eq_ofNat_of_zero_le (by omega : 0 ≤ -point)
    have before : (-point).toNat = front := by omega
    let literal : DecimalLiteral :=
      ⟨negative, ['0'], some (List.replicate front '0' ++ digits),
        allDigits_zeros 1, (allDigits_zeros front).append all⟩
    have behind : (literal.decimals.length : ℤ) = digits.length - point := by
      grind [DecimalLiteral.decimals]
    have read : valueOf (literal.integer ++ literal.decimals) =
        valueOf digits := by
      show valueOf (['0'] ++ (List.replicate front '0' ++ digits)) = _
      simp [valueOf_zero_cons, valueOf_append, valueOf_zeros]
    have value := DecimalLiteral.value_of_digits read
    refine ⟨literal, rfl, ?_, ?_, ?_⟩
    · rw [before]
      rfl
    · rw [value, behind]
    · rw [behind]
      omega
  next large => omega

/-- Elsewhere the first digit stands before the point, and the exponent
follows. -/
theorem pointed_exponent (nonempty : digits ≠ [])
    (all : AllDigits digits) (far : point ≤ -6 ∨ 21 < point) (negative : Bool) :
    ∃ literal : DecimalLiteral, literal.negative = negative ∧
      pointed digits point = literal.unsigned ++ 'e' :: (if point - 1 < 0 then '-' else '+') ::
          Nat.toDigits 10 (point - 1).natAbs ∧ literal.decimals.length = digits.length - 1 ∧
      (literal.fraction = none ↔ digits.length = 1) ∧
      literal.integer ++ literal.decimals = digits := by
  have none_digits : AllDigits [] := List.forall_mem_nil _
  unfold pointed
  rw [if_neg (by omega), if_neg (by omega), if_neg (by omega)]
  cases digits with
  | nil => exact absurd rfl nonempty
  | cons digit others =>
    have first : AllDigits [digit] := by
      intro c member
      exact all c (List.mem_singleton.mp member ▸ List.mem_cons_self)
    cases others with
    | nil => exact ⟨⟨negative, [digit], none, first, none_digits⟩, rfl, rfl, rfl, by simp, rfl⟩
    | cons next others =>
      exact ⟨⟨negative, [digit], some (next :: others), first,
        fun c member => all c (List.mem_cons_of_mem _ member)⟩, rfl, rfl, rfl, by simp, rfl⟩

theorem DecimalLiteral.filter_unsigned (literal : DecimalLiteral) :
    literal.unsigned.filter Char.isDigit = literal.integer ++ literal.decimals := by
  have kept := List.filter_eq_self.mpr literal.integer_digits
  have digits := List.filter_eq_self.mpr literal.fraction_digits
  rw [DecimalLiteral.unsigned, List.filter_append, kept, DecimalLiteral.decimals]
  cases fraction : literal.fraction <;> simp_all

/-- The digits are those before the letter, the exponent is behind it. -/
theorem pointed_parts (nonempty : digits ≠ []) (all : AllDigits digits) (low : point ≤ -6) :
    ((pointed digits point).takeWhile (· ≠ 'e')).filter Char.isDigit = digits ∧
      (pointed digits point).dropWhile (· ≠ 'e') =
        'e' :: '-' :: Nat.toDigits 10 (point - 1).natAbs := by
  obtain ⟨literal, _, text, _, _, same⟩ := pointed_exponent nonempty all (.inl low) false
  have letter : ∀ c ∈ literal.unsigned, decide (c ≠ 'e') = true := by
    intro c member
    refine decide_eq_true ?_
    rintro rfl
    exact literal.not_mem_unsigned rfl (by decide) member
  rw [text, if_pos (by omega), List.takeWhile_append_of_pos letter,
    List.dropWhile_append_of_pos letter]
  refine ⟨?_, rfl⟩
  exact (congrArg _ (List.append_nil _)).trans (literal.filter_unsigned.trans same)

/-- What is written with a negative exponent tells the digits and the
point. -/
theorem pointed_injective {others : List Char} {other : ℤ}
    (nonempty : digits ≠ []) (nonempty' : others ≠ [])
    (all : AllDigits digits) (also : AllDigits others) (low : point ≤ -6)
    (below : other ≤ -6) (same : pointed digits point = pointed others other) :
    digits = others ∧ point = other := by grind [pointed_parts, valueOf_toDigits]

theorem valueOf_of_length_one (all : AllDigits digits)
    (one : digits.length = 1) : valueOf digits < 10 := by
  obtain ⟨digit, rfl⟩ := List.length_eq_one_iff.mp one
  have bounds := code_of_isDigit (all digit (List.mem_singleton_self digit))
  have value : valueOf [digit] = digit.toNat - 48 := by simp [valueOf, Nat.ofDigitChars_cons]
  omega

/-! ### Zeros at the end -/

/-- Digits without the zeros at their end. -/
def withoutZeros (digits : List Char) : List Char :=
  (digits.reverse.dropWhile (· = '0')).reverse

theorem withoutZeros_concat_zero (digits : List Char) :
    withoutZeros (digits ++ ['0']) = withoutZeros digits := by simp [withoutZeros]

theorem withoutZeros_concat (nonzero : digit ≠ '0') (digits : List Char) :
    withoutZeros (digits ++ [digit]) = digits ++ [digit] := by simp [withoutZeros, nonzero]

theorem AllDigits.withoutZeros (all : AllDigits digits) :
    AllDigits (withoutZeros digits) := fun c member =>
  all c (List.mem_reverse.mp ((List.dropWhile_sublist _).subset (List.mem_reverse.mp member)))

theorem valueOf_concat (digits : List Char) (digit : Char) :
    valueOf (digits ++ [digit]) = valueOf digits * 10 + valueOf [digit] := by
  rw [valueOf_append, List.length_singleton, pow_one]

theorem valueOf_digit (isDigit : digit.isDigit = true) (nonzero : digit ≠ '0') :
    0 < valueOf [digit] ∧ valueOf [digit] < 10 := by
  have bounds := code_of_isDigit isDigit
  have value : valueOf [digit] = digit.toNat - 48 := by simp [valueOf, Nat.ofDigitChars_cons]
  have other : digit.toNat ≠ 48 := fun same => nonzero (Char.toNat_inj.mp same)
  omega

/-- Without the zeros the value is the same, at the places that are left. -/
theorem valueOf_withoutZeros (digits : List Char) :
    (withoutZeros digits).length ≤ digits.length ∧ valueOf digits = valueOf (withoutZeros digits) *
        10 ^ (digits.length - (withoutZeros digits).length) := by
  induction digits using List.reverseRecOn with
  | nil => exact ⟨le_rfl, rfl⟩
  | append_singleton digits digit ih =>
    obtain ⟨shorter, value⟩ := ih
    by_cases zero : digit = '0'
    · subst zero
      rw [withoutZeros_concat_zero, List.length_append,
        List.length_singleton, Nat.sub_add_comm shorter, pow_succ,
        ← mul_assoc, ← value, valueOf_concat]
      exact ⟨by omega, rfl⟩
    · simp_all [withoutZeros_concat]

/-- How many places are left shows in which power of ten divides the
value. -/
theorem length_withoutZeros_le (all : AllDigits digits) (fewer : count ≤ digits.length) :
    (withoutZeros digits).length ≤ count ↔ 10 ^ (digits.length - count) ∣ valueOf digits := by
  induction digits using List.reverseRecOn generalizing count with
  | nil => simp [withoutZeros]
  | append_singleton digits digit ih =>
    have front : AllDigits digits := fun c member => all c (List.mem_append_left _ member)
    rw [List.length_append, List.length_singleton] at fewer ⊢
    rcases Nat.lt_or_ge digits.length count with full | room
    · have whole : count = digits.length + 1 := by omega
      have shorter := (valueOf_withoutZeros (digits ++ [digit])).1
      simp_all
    · rw [Nat.sub_add_comm room, pow_succ, valueOf_concat]
      by_cases zero : digit = '0'
      · subst zero
        rw [withoutZeros_concat_zero, ih front room]
        exact (Nat.mul_dvd_mul_iff_right (by decide)).symm
      · rw [withoutZeros_concat zero, List.length_append, List.length_singleton]
        have last := valueOf_digit (all digit (by simp)) zero
        constructor
        · intro above
          omega
        · intro divides
          have ten : 10 ∣ valueOf digits * 10 + valueOf [digit] :=
            (Dvd.intro_left _ rfl).trans divides
          omega

/-! ### Where the point stands -/

/-- The power of ten before the point's is not above the number. -/
theorem tenTo_le_decimalPoint (positive : 0 < x) :
    tenTo (decimalPoint x - 1) ≤ x := by
  have numerator : 0 < x.num.natAbs := Int.natAbs_pos.mpr (Rat.num_pos.mpr positive).ne'
  have above := pow_length_toDigits_le numerator
  have below := lt_pow_length_toDigits x.den
  have some : 0 < (Nat.toDigits 10 x.num.natAbs).length :=
    List.length_pos_iff.mpr Nat.toDigits_ne_nil
  simp only [decimalPoint]
  generalize (Nat.toDigits 10 x.num.natAbs).length = width at above some ⊢
  generalize (Nat.toDigits 10 x.den).length = depth at below ⊢
  split
  · have numerator : (10 : ℚ) ^ (width - 1) ≤ x.num := by
      have cast : ((10 : ℚ)) ^ (width - 1) ≤ ((x.num.natAbs : ℤ) : ℚ) := by exact_mod_cast above
      rwa [Int.natAbs_of_nonneg (Rat.num_nonneg.mpr positive.le)] at cast
    have denominator : (x.den : ℚ) ≤ 10 ^ depth := by exact_mod_cast below.le
    have exponent : (width : ℤ) - depth - 1 = (width - 1 : ℕ) - depth := by omega
    rw [tenTo_eq, exponent, zpow_sub₀ (by norm_num), zpow_natCast,
      zpow_natCast, div_le_iff₀ (by positivity)]
    calc (10 : ℚ) ^ (width - 1) ≤ x.num := numerator
      _ = x * x.den := (Rat.mul_den_eq_num x).symm
      _ ≤ x * 10 ^ depth := mul_le_mul_of_nonneg_left denominator positive.le
  next notBelow =>
    rw [add_sub_cancel_right]
    exact not_lt.mp notBelow

/-! ### Rounding to digits -/

theorem le_roundHalfUp (le : n ≤ y) :
    n ≤ (roundHalfUp y).toNat := by
  have below : (n : ℤ) ≤ roundHalfUp y := by
    rw [roundHalfUp, Int.le_floor, Int.cast_natCast]
    linarith
  omega

theorem roundHalfUp_le (less : y < n) :
    (roundHalfUp y).toNat ≤ n := by
  have above : roundHalfUp y < n + 1 := by
    rw [roundHalfUp, Int.floor_lt]
    push_cast
    linarith
  omega

theorem roundHalfUp_near (nonneg : 0 ≤ y) :
    |y - (roundHalfUp y).toNat| ≤ 1 / 2 := by
  have above : 0 ≤ y + 1 / 2 := by linarith
  have same : (((roundHalfUp y).toNat : ℤ) : ℚ) = ⌊y + 1 / 2⌋ := by
    rw [roundHalfUp, Int.toNat_of_nonneg (Int.floor_nonneg.mpr above)]
  have least := Int.floor_le (y + 1 / 2)
  have next := Int.lt_floor_add_one (y + 1 / 2)
  rw [← Int.cast_natCast, same, abs_le]
  constructor <;> linarith

/-- The digits are as many as they are meant to be, or the power of ten
above. -/
theorem roundHalfUp_digits (positive : 0 < x) (nonzero : 0 < count) :
    10 ^ (count - 1) ≤ (roundHalfUp (x * tenTo (count - decimalPoint x))).toNat ∧
      (roundHalfUp (x * tenTo (count - decimalPoint x))).toNat ≤ 10 ^ count := by
  have scale := tenTo_pos (count - decimalPoint x)
  constructor
  · apply le_roundHalfUp
    calc ((10 ^ (count - 1) : ℕ) : ℚ) = tenTo ((count - 1 : ℕ) : ℤ) := by rfl
      _ = tenTo (decimalPoint x - 1) * tenTo (count - decimalPoint x) := by
          rw [← tenTo_add]
          congr 1
          omega
      _ ≤ x * tenTo (count - decimalPoint x) :=
          mul_le_mul_of_nonneg_right (tenTo_le_decimalPoint positive) scale.le
  · apply roundHalfUp_le
    calc x * tenTo (count - decimalPoint x)
        < tenTo (decimalPoint x) * tenTo (count - decimalPoint x) :=
          mul_lt_mul_of_pos_right (lt_tenTo_decimalPoint positive) scale
      _ = tenTo (count : ℤ) := by
          rw [← tenTo_add]
          congr 1
          omega
      _ = ((10 ^ count : ℕ) : ℚ) := by rfl

theorem length_toDigits (nonzero : 0 < count) (low : 10 ^ (count - 1) ≤ n) (high : n < 10 ^ count) :
    (Nat.toDigits 10 n).length = count := by
  have short := (Nat.length_toDigits_le_iff (by decide) nonzero).mpr high
  by_contra other
  have shorter : (Nat.toDigits 10 n).length ≤ count - 1 := by omega
  have below := lt_pow_length_toDigits n
  have bounded := Nat.pow_le_pow_right (by decide : 0 < 10) shorter
  omega

theorem digits_near (positive : 0 < x) (count : ℕ) :
    |x - (roundHalfUp (x * tenTo (count - decimalPoint x))).toNat *
        tenTo (decimalPoint x - count)| ≤ 1 / 2 * tenTo (decimalPoint x - count) := by
  have close := roundHalfUp_near (mul_pos positive (tenTo_pos (count - decimalPoint x))).le
  generalize (roundHalfUp _).toNat = n at close ⊢
  have inverse : tenTo (count - decimalPoint x) * tenTo (decimalPoint x - count) = 1 := by
    rw [← tenTo_add, sub_add_sub_cancel', sub_self]
    rfl
  have apart : x - n * tenTo (decimalPoint x - count) = (x * tenTo (count - decimalPoint x) - n) *
        tenTo (decimalPoint x - count) := by rw [sub_mul, mul_assoc, inverse, mul_one]
  simp_all [abs_of_pos, tenTo_pos]

theorem digitCount_pos (enough : ℕ → Bool) :
    0 < (((List.range 17).map (· + 1)).find? enough).getD 17 := by simp_all

theorem pow_mul_tenTo (count : ℕ) (point : ℤ) :
    (10 : ℚ) ^ count * tenTo (point - count) = tenTo point := by
  rw [← tenTo_natCast, ← tenTo_add, add_sub_cancel]

/-- What is printed for a positive number: its first digit is not zero, and
the number is read back from it, or agrees with it to seventeen digits, which
are counted from its own point. -/
theorem shortest_precise (positive : 0 < x) :
    let digits := (shortest x).1
    let point := (shortest x).2
    let value := valueOf digits * tenTo (point - digits.length)
    0 < digits.length ∧ 10 ^ (digits.length - 1) ≤ valueOf digits ∧
      decimalPoint x ≤ point ∧ point ≤ decimalPoint x + 1 ∧ (toDouble value = x ∨
        |x - value| ≤ 1 / 2 * tenTo (decimalPoint x - 17)) := by
  unfold shortest
  dsimp only
  generalize chosen : ((List.range 17).map (· + 1)).find? _ = found
  have nonzero : 0 < found.getD 17 := by
    rw [← chosen]
    exact digitCount_pos _
  have near : toDouble ((roundHalfUp (x * tenTo (found.getD 17 - decimalPoint x))).toNat *
          tenTo (decimalPoint x - found.getD 17)) = x ∨ found.getD 17 = 17 := by
    cases found <;> grind
  generalize found.getD 17 = count at nonzero near ⊢
  obtain ⟨low, high⟩ := roundHalfUp_digits positive nonzero
  have error : count = 17 →
      |x - (roundHalfUp (x * tenTo (count - decimalPoint x))).toNat *
          tenTo (decimalPoint x - count)| ≤ 1 / 2 * tenTo (decimalPoint x - 17) := by
    rintro rfl
    exact digits_near positive 17
  split
  next full =>
    rw [full, Nat.cast_pow] at near error
    have value := pow_mul_tenTo count (decimalPoint x)
    rw [show ((10 : ℕ) : ℚ) = 10 from rfl, value] at near error
    refine ⟨Nat.one_pos, le_rfl, (Int.lt_succ _).le, le_rfl, ?_⟩
    rw [show valueOf ['1'] = 1 from rfl, List.length_singleton, Nat.cast_one,
      Nat.cast_one, one_mul, add_sub_cancel_right]
    exact near.imp_right error
  next less =>
    have length := length_toDigits nonzero low (lt_of_le_of_ne high less)
    rw [length, valueOf_toDigits]
    exact ⟨nonzero, low, le_rfl, (Int.lt_succ _).le, near.imp_right error⟩

/-- The same, with the seventeen digits counted from the printed point. -/
theorem shortest_spec (positive : 0 < x) :
    let digits := (shortest x).1
    let point := (shortest x).2
    let value := valueOf digits * tenTo (point - digits.length)
    0 < digits.length ∧ 10 ^ (digits.length - 1) ≤ valueOf digits ∧
      decimalPoint x ≤ point ∧ point ≤ decimalPoint x + 1 ∧
      (toDouble value = x ∨ |x - value| ≤ 1 / 2 * tenTo (point - 17)) := by
  obtain ⟨some, first, behind, next, near⟩ := shortest_precise positive
  refine ⟨some, first, behind, next, near.imp_right fun error => ?_⟩
  have wider : tenTo (decimalPoint x - 17) ≤ tenTo ((shortest x).2 - 17) := tenTo_le.mpr (by omega)
  linarith

/-- What is printed differs from the number by half a unit of its last digit
at most. -/
theorem shortest_near (positive : 0 < x) :
    let unit := tenTo ((shortest x).2 - (shortest x).1.length)
    |x - valueOf (shortest x).1 * unit| ≤ 1 / 2 * unit := by
  unfold shortest
  dsimp only
  generalize chosen : ((List.range 17).map (· + 1)).find? _ = found
  have nonzero : 0 < found.getD 17 := by
    rw [← chosen]
    exact digitCount_pos _
  generalize found.getD 17 = count at nonzero ⊢
  have near := digits_near positive count
  obtain ⟨low, high⟩ := roundHalfUp_digits positive nonzero
  split
  next full =>
    have value := pow_mul_tenTo count (decimalPoint x)
    have wider : tenTo (decimalPoint x - count) ≤ tenTo (decimalPoint x) := tenTo_le.mpr (by omega)
    rw [full, Nat.cast_pow, show ((10 : ℕ) : ℚ) = 10 from rfl, value] at near
    rw [show valueOf ['1'] = 1 from rfl, List.length_singleton, Nat.cast_one,
      Nat.cast_one, one_mul, add_sub_cancel_right]
    linarith
  next less =>
    rw [length_toDigits nonzero low (lt_of_le_of_ne high less), valueOf_toDigits]
    exact near

/-! ### The text -/

/-- With its point among these places, a number is written as a literal that
denotes what is printed. -/
theorem written_plain (near : x = 0 ∨ -6 < (shortest |x|).2 ∧ (shortest |x|).2 ≤ 21) :
    ∃ literal : DecimalLiteral, String.ofList (written x) = literal.text ∧
      literal.value = printed x ∧ (literal.decimals.length : ℤ) = max 0 (places x) := by
  by_cases zero : x = 0
  · refine ⟨⟨false, ['0'], none, by simp [AllDigits], by simp [AllDigits]⟩, ?_, ?_, ?_⟩
    · rw [written, if_pos zero]
      rfl
    · rw [printed, if_pos zero]
      decide +kernel
    · rw [places, if_pos zero]
      rfl
  · obtain ⟨low, high⟩ := near.resolve_left zero
    obtain ⟨literal, negative, text, value, length⟩ :=
      pointed_plain (shortest_digits |x|) low high (decide (x < 0))
    refine ⟨literal, ?_, ?_, ?_⟩
    · simp only [written, if_neg zero, text, DecimalLiteral.text, negative, decide_eq_true_eq]
    · simp_all [printed, places]
    · rw [length, places, if_neg zero]

theorem written_exponent (nonzero : x ≠ 0) (far : (shortest |x|).2 ≤ -6 ∨ 21 < (shortest |x|).2) :
    ∃ literal : DecimalLiteral, written x = literal.text.toList ++ 'e' ::
        (if (shortest |x|).2 - 1 < 0 then '-' else '+') ::
          Nat.toDigits 10 ((shortest |x|).2 - 1).natAbs ∧
      literal.decimals.length = (shortest |x|).1.length - 1 ∧
      (literal.fraction = none ↔ (shortest |x|).1.length = 1) := by
  have nonempty : (shortest |x|).1 ≠ [] :=
    List.length_pos_iff.mp (shortest_spec (abs_pos.mpr nonzero)).1
  obtain ⟨literal, negative, text, length, shape, _⟩ :=
    pointed_exponent nonempty (shortest_digits |x|) far (decide (x < 0))
  refine ⟨literal, ?_, length, shape⟩
  simp_all [written, DecimalLiteral.text]

theorem abs_printed (nonzero : x ≠ 0) :
    |printed x| = valueOf (shortest |x|).1 *
      tenTo ((shortest |x|).2 - (shortest |x|).1.length) := by
  have magnitude : (0 : ℚ) ≤ valueOf (shortest |x|).1 *
      tenTo ((shortest |x|).2 - (shortest |x|).1.length) :=
    mul_nonneg (Nat.cast_nonneg _) (tenTo_pos _).le
  rw [printed, if_neg nonzero, places, if_neg nonzero, neg_sub, abs_mul, abs_of_nonneg magnitude]
  split <;> norm_num

theorem printed_nonneg (positive : 0 < x) : 0 ≤ printed x := by
  rw [printed, if_neg positive.ne', if_neg positive.not_gt, one_mul]
  exact mul_nonneg (Nat.cast_nonneg _) (tenTo_pos _).le

theorem printed_nonpos (negative : x < 0) : printed x ≤ 0 := by
  rw [printed, if_neg negative.ne, if_pos negative, neg_one_mul]
  exact neg_nonpos.mpr (mul_nonneg (Nat.cast_nonneg _) (tenTo_pos _).le)

theorem tenTo_le_abs_printed (nonzero : x ≠ 0) :
    tenTo ((shortest |x|).2 - 1) ≤ |printed x| := by
  obtain ⟨some, first, _⟩ := shortest_spec (abs_pos.mpr nonzero)
  have cast : tenTo (((shortest |x|).1.length - 1 : ℕ) : ℤ) ≤ valueOf (shortest |x|).1 := by
    rw [tenTo_natCast]
    exact_mod_cast first
  have split : (shortest |x|).2 - 1 = ((shortest |x|).1.length - 1 : ℕ) +
        ((shortest |x|).2 - (shortest |x|).1.length) := by omega
  rw [abs_printed nonzero, split, tenTo_add]
  exact mul_le_mul_of_nonneg_right cast (tenTo_pos _).le

theorem abs_lt_tenTo_shortest (nonzero : x ≠ 0) :
    |x| < tenTo (shortest |x|).2 :=
  (lt_tenTo_decimalPoint (abs_pos.mpr nonzero)).trans_le
    (tenTo_le.mpr (decimalPoint_le_shortest |x|))

/-! ### The double next to a number -/

/-- The double next to a number. -/
def nearestDouble (x : ℚ) : ℚ :=
  if x = 0 then 0 else if x < 0 then -toDouble (-x) else toDouble x

namespace Number

/-- The result of an operation, as a double. -/
def double (x : Number) : Number :=
  match x.clip with
  | .finite value => .finite (nearestDouble value)
  | number => number

/-- `Math.round`. -/
def round : Number → Number
  | .finite x => .finite (roundHalfUp x)
  | number => number

end Number

theorem twoTo_eq (e : ℤ) : twoTo e = 2 ^ e := by cases e <;> simp [twoTo, Rat.mkRat_eq_div]

theorem twoTo_pos (e : ℤ) : 0 < twoTo e := by
  rw [twoTo_eq]
  exact zpow_pos (by norm_num) _

theorem twoTo_binaryExponent_le (positive : 0 < x) :
    twoTo (binaryExponent x) ≤ x := by
  have nonzero : x.num.natAbs ≠ 0 := Int.natAbs_ne_zero.mpr (Rat.num_pos.mpr positive).ne'
  have numerator : (2 : ℚ) ^ Nat.log2 x.num.natAbs ≤ x.num := by
    have cast : (2 : ℚ) ^ Nat.log2 x.num.natAbs ≤ ((x.num.natAbs : ℤ) : ℚ) := by
      exact_mod_cast Nat.log2_self_le nonzero
    rwa [Int.natAbs_of_nonneg (Rat.num_nonneg.mpr positive.le)] at cast
  have denominator : (x.den : ℚ) ≤ 2 ^ (Nat.log2 x.den + 1) := by
    exact_mod_cast (Nat.lt_log2_self (n := x.den)).le
  simp only [binaryExponent]
  generalize Nat.log2 x.num.natAbs = width at numerator ⊢
  generalize Nat.log2 x.den = depth at denominator ⊢
  split
  · have exponent : (width : ℤ) - depth - 1 = width - (depth + 1 : ℕ) := by omega
    rw [twoTo_eq, exponent, zpow_sub₀ (by norm_num), zpow_natCast,
      zpow_natCast, div_le_iff₀ (by positivity)]
    calc (2 : ℚ) ^ width ≤ x.num := numerator
      _ = x * x.den := (Rat.mul_den_eq_num x).symm
      _ ≤ x * 2 ^ (depth + 1) := mul_le_mul_of_nonneg_left denominator positive.le
  next notBelow => exact not_lt.mp notBelow

theorem roundHalfEven_near (y : ℚ) : |roundHalfEven y - y| ≤ 1 / 2 := by
  have least := Int.floor_le y
  have next := Int.lt_floor_add_one y
  unfold roundHalfEven
  dsimp only
  rw [abs_le]
  split_ifs <;> push_cast <;> constructor <;> linarith

theorem twoTo_le (le : d ≤ e) : twoTo d ≤ twoTo e := by simp_all [twoTo_eq]

/-- A double differs from the number it is next to in the sixteenth digit at
most. -/
theorem toDouble_near (large : tenTo (-60) ≤ x) :
    |toDouble x - x| ≤ x * tenTo (-15) := by
  have positive : 0 < x := (tenTo_pos _).trans_le large
  have normal : twoTo (-1022) ≤ x :=
    calc twoTo (-1022) ≤ twoTo (-200) := twoTo_le (by decide)
      _ ≤ tenTo (-60) := by norm_num [twoTo_eq, tenTo_eq]
      _ ≤ x := large
  have exponent : twoTo (max (binaryExponent x) (-1022)) ≤ x := by grind [twoTo_binaryExponent_le]
  have unit : twoTo (max (binaryExponent x) (-1022) - 52) ≤ x * tenTo (-15) := by
    have split : ∀ e : ℤ, twoTo (e - 52) = twoTo e * twoTo (-52) := by
      simp [twoTo_eq, sub_eq_add_neg, zpow_add₀]
    have fine : twoTo (-52) ≤ tenTo (-15) := by norm_num [twoTo_eq, tenTo_eq]
    rw [split]
    exact mul_le_mul exponent fine (twoTo_pos _).le positive.le
  unfold toDouble
  have some := twoTo_pos (max (binaryExponent x) (-1022) - 52)
  generalize twoTo (max (binaryExponent x) (-1022) - 52) = step at unit some ⊢
  have apart : (roundHalfEven (x / step) : ℚ) * step - x =
      (roundHalfEven (x / step) - x / step) * step := by rw [sub_mul, div_mul_cancel₀ _ some.ne']
  calc |(roundHalfEven (x / step) : ℚ) * step - x|
      = |roundHalfEven (x / step) - x / step| * step := by rw [apart, abs_mul, abs_of_pos some]
    _ ≤ 1 / 2 * step := mul_le_mul_of_nonneg_right (roundHalfEven_near _) some.le
    _ ≤ x * tenTo (-15) := by linarith

/-- What is printed for a positive number differs from it in the sixteenth
digit at most. -/
theorem printed_near (large : tenTo (-50) ≤ x) :
    |printed x - x| ≤ 2 * tenTo (-15) * x := by
  have positive : 0 < x := (tenTo_pos _).trans_le large
  obtain ⟨nonempty, first, low, high, near⟩ := shortest_spec positive
  have value := tenTo_le_abs_printed positive.ne'
  have same := abs_printed positive.ne'
  have nonneg := printed_nonneg positive
  have point := tenTo_le_decimalPoint positive
  have above := lt_tenTo_decimalPoint positive
  rw [abs_of_nonneg nonneg, abs_of_pos positive] at value same
  rw [← same] at near
  have fine : tenTo (-15) ≤ 1 / 2 := by norm_num [tenTo_eq]
  rcases near with read | close
  · have coarse : tenTo (-60) ≤ printed x := by
      refine le_trans (tenTo_le.mpr ?_) value
      have behind := tenTo_lt.mp (large.trans_lt above)
      omega
    have error := toDouble_near coarse
    rw [read, abs_sub_comm] at error
    have half := mul_le_mul_of_nonneg_left fine nonneg
    have twice : printed x ≤ 2 * x := by linarith [(abs_le.mp error).2]
    have scaled := mul_le_mul_of_nonneg_right twice (tenTo_pos (-15)).le
    linarith
  · have unit : tenTo ((shortest x).2 - 17) ≤ x * tenTo (-15) :=
      calc tenTo ((shortest x).2 - 17) ≤ tenTo (decimalPoint x - 1 + -15) := tenTo_le.mpr (by omega)
        _ = tenTo (decimalPoint x - 1) * tenTo (-15) := tenTo_add _ _
        _ ≤ x * tenTo (-15) := mul_le_mul_of_nonneg_right point (tenTo_pos _).le
    have some := mul_pos positive (tenTo_pos (-15))
    rw [abs_sub_comm]
    linarith

theorem printed_neg (x : ℚ) : printed (-x) = -printed x := by
  unfold printed places
  grind

/-- What is printed for the double next to a number agrees with the number to
fifteen digits. -/
theorem printed_nearestDouble (large : x = 0 ∨ tenTo (-40) ≤ |x|) :
    |printed (nearestDouble x) - x| ≤ 4 * tenTo (-15) * |x| := by
  have ofPositive : ∀ {x : ℚ}, tenTo (-40) ≤ x →
      |printed (toDouble x) - x| ≤ 4 * tenTo (-15) * x := by
    intro x large
    have positive : 0 < x := (tenTo_pos _).trans_le large
    have error := toDouble_near ((tenTo_le.mpr (by decide)).trans large : tenTo (-60) ≤ x)
    have fine : tenTo (-15) ≤ 1 / 2 := by norm_num [tenTo_eq]
    have half := mul_le_mul_of_nonneg_left fine positive.le
    obtain ⟨low, high⟩ := abs_le.mp error
    have small : tenTo (-50) ≤ tenTo (-40) / 2 := by norm_num [tenTo_eq]
    have printing := printed_near (by linarith : tenTo (-50) ≤ toDouble x)
    have scaled := mul_le_mul_of_nonneg_left
      (by linarith : toDouble x ≤ 3 / 2 * x) (tenTo_pos (-15)).le
    calc |printed (toDouble x) - x| ≤ |printed (toDouble x) - toDouble x| + |toDouble x - x| :=
          abs_sub_le _ _ _
      _ ≤ 4 * tenTo (-15) * x := by linarith
  unfold nearestDouble
  rcases lt_trichotomy x 0 with below | zero | above
  · have apart := large.resolve_left below.ne
    rw [abs_of_neg below] at apart ⊢
    rw [if_neg below.ne, if_pos below, printed_neg, ← abs_neg, neg_sub', neg_neg]
    exact ofPositive apart
  · rw [if_pos zero, zero]
    simp [printed]
  · have apart := large.resolve_left above.ne'
    grind

/-! ### Decimals that are read -/

theorem isAlpha_of_isDigit {c : Char} (digit : c.isDigit = true) :
    c.isAlpha = false := by
  obtain ⟨low, high⟩ := code_of_isDigit digit
  have alpha : c.isAlpha = (decide ('A'.val ≤ c.val ∧ c.val ≤ 'Z'.val) ||
      (decide ('a'.val ≤ c.val) && decide (c.val ≤ 'z'.val))) := rfl
  have upper : ¬ ('A'.val ≤ c.val ∧ c.val ≤ 'Z'.val) := by
    rintro ⟨above, _⟩
    have code : 65 ≤ c.toNat := UInt32.le_iff_toNat_le.mp above
    omega
  have lower : ¬ 'a'.val ≤ c.val := by
    intro above
    have code : 97 ≤ c.toNat := UInt32.le_iff_toNat_le.mp above
    omega
  rw [alpha, decide_eq_false upper, decide_eq_false lower]
  rfl

/-- A text without letters is read as a number of base ten. -/
theorem numberOf_plain {text : List Char} (nonempty : text ≠ [])
    (visible : Visible text) (plain : ∀ c ∈ text, c.isAlpha = false)
    (numeral : isNumeral text = true) (parsed : parseFloatText text = .finite x) :
    numberOf (String.ofList text) = .finite (nearestDouble x) := by
  unfold numberOf
  rw [String.toList_ofList, trimmed_visible visible]
  have letter : ∀ (front : List Char) {c : Char} {back : List Char},
      text = front ++ c :: back → c.isAlpha = true → False := by simp_all
  split
  next => exact absurd rfl nonempty
  next rest => exact (letter ['0'] rfl rfl).elim
  next rest => exact (letter ['0'] rfl rfl).elim
  next rest => exact (letter ['0'] rfl rfl).elim
  next rest => exact (letter ['0'] rfl rfl).elim
  next rest => exact (letter ['0'] rfl rfl).elim
  next rest => exact (letter ['0'] rfl rfl).elim
  next =>
    rw [if_pos numeral, parsed]
    dsimp only
    unfold nearestDouble
    split_ifs <;> rfl

namespace DecimalLiteral

variable (literal : DecimalLiteral)

theorem takeWhile_unsigned :
    literal.unsigned.takeWhile Char.isDigit = literal.integer := by
  unfold unsigned
  rw [List.takeWhile_append_of_pos literal.integer_digits]
  cases literal.fraction <;> simp

theorem dropWhile_unsigned :
    literal.unsigned.dropWhile Char.isDigit = (literal.fraction.map ('.' :: ·)).getD [] := by
  unfold unsigned
  rw [List.dropWhile_append_of_pos literal.integer_digits]
  cases literal.fraction with
  | none => rfl
  | some digits => rfl

theorem takeWhile_decimals :
    literal.decimals.takeWhile Char.isDigit = literal.decimals :=
  List.takeWhile_eq_self_iff.mpr literal.fraction_digits

theorem dropWhile_decimals :
    literal.decimals.dropWhile Char.isDigit = [] :=
  List.dropWhile_eq_nil_iff.mpr literal.fraction_digits

theorem mem_text {c : Char} (member : c ∈ literal.text.toList) :
    c = '-' ∨ c = '.' ∨ c.isDigit = true := by
  by_contra other
  simp only [not_or, Bool.not_eq_true] at other
  exact literal.not_mem_text other.2.2 other.2.1 other.1 member

theorem visible_text : Visible literal.text.toList := by
  intro c member
  rcases literal.mem_text member with rfl | rfl | digit
  · rfl
  · rfl
  · exact isBlank_of_isDigit digit

theorem unsigned_cons (some : literal.integer ≠ []) :
    ∃ first others, literal.unsigned = first :: others ∧ first.isDigit = true := by
  obtain ⟨first, others, shape⟩ := List.exists_cons_of_ne_nil some
  refine ⟨first, others ++ (literal.fraction.map ('.' :: ·)).getD [], ?_, ?_⟩
  · rw [unsigned, shape, List.cons_append]
  · exact literal.integer_digits first (by simp [shape])

theorem isNumeral_text (some : literal.integer ≠ []) :
    isNumeral literal.text.toList = true := by
  obtain ⟨first, others, shape, digit⟩ := literal.unsigned_cons some
  have noMinus : first ≠ '-' := by rintro rfl; cases digit
  have noPlus : first ≠ '+' := by rintro rfl; cases digit
  unfold isNumeral
  extract_lets unsigned integer behind fraction tail exponent
  have signless : unsigned = literal.unsigned := by
    simp only [unsigned, text, String.toList_ofList]
    grind
  have front : integer = literal.integer := by simp only [integer, signless, takeWhile_unsigned]
  have back : tail = [] := by
    simp only [tail, behind, signless, dropWhile_unsigned]
    cases fraction : literal.fraction with
    | none => rfl
    | some digits =>
      have none := literal.dropWhile_decimals
      rwa [decimals, fraction, Option.getD_some] at none
  grind

theorem parseFloatText_text (some : literal.integer ≠ [])
    (fits : |literal.value| < twoTo 1024 - twoTo 970) :
    parseFloatText literal.text.toList = .finite literal.value := by
  obtain ⟨first, others, shape, digit⟩ := literal.unsigned_cons some
  have noMinus : first ≠ '-' := by rintro rfl; cases digit
  have noPlus : first ≠ '+' := by rintro rfl; cases digit
  have noLetter : first ≠ 'I' := by rintro rfl; cases digit
  unfold parseFloatText
  extract_lets unsigned
  have magnitude : ∀ negative, unsigned negative literal.unsigned =
      Number.ofRat ((if negative then -1 else 1) * (valueOf (literal.integer ++ literal.decimals) *
          tenTo (-literal.decimals.length))) := by
    intro negative
    have noInfinity :
        "Infinity".toList.isPrefixOf literal.unsigned = false := by grind
    simp only [unsigned, noInfinity, takeWhile_unsigned, dropWhile_unsigned]
    cases fraction : literal.fraction with
    | none => simp [some, decimals, fraction]
    | some digits =>
      have front := literal.takeWhile_decimals
      have none := literal.dropWhile_decimals
      rw [decimals, fraction, Option.getD_some] at none front
      simp [front, none, some, decimals, fraction]
  have value : literal.value = (if literal.negative then -1 else 1) *
      (valueOf (literal.integer ++ literal.decimals) * tenTo (-literal.decimals.length)) := by
    have scaled := literal.value_eq
    rw [tenTo_neg_natCast, mul_one_div, ← mul_div_assoc, ← scaled,
      mul_div_cancel_right₀ _ (by positivity)]
  have read : unsigned literal.negative literal.unsigned =
      .finite literal.value := by rw [magnitude, ← value, Number.ofRat, if_pos fits]
  rw [dropWhile_isBlank literal.visible_text, text, String.toList_ofList, shape]
  rw [shape] at read
  cases negative : literal.negative <;> simp_all

/-- The text is read as the double next to its value. -/
theorem numberOf_text (some : literal.integer ≠ [])
    (fits : |literal.value| < twoTo 1024 - twoTo 970) :
    numberOf literal.text = .finite (nearestDouble literal.value) := by
  have same : literal.text = String.ofList literal.text.toList := by simp
  obtain ⟨first, others, shape, digit⟩ := literal.unsigned_cons some
  rw [same]
  refine numberOf_plain ?_ literal.visible_text ?_
    (literal.isNumeral_text some) (literal.parseFloatText_text some fits)
  · rw [text, String.toList_ofList, shape]
    simp
  · intro c member
    rcases literal.mem_text member with rfl | rfl | digit <;> simp_all [isAlpha_of_isDigit]

end DecimalLiteral

theorem tenTo_lt_double (small : e ≤ 60) :
    tenTo e < twoTo 1024 - twoTo 970 := by
  have double : twoTo 971 = 2 * twoTo 970 := by
    rw [twoTo_eq, twoTo_eq]
    exact zpow_add_one₀ (by norm_num) 970 |>.trans (mul_comm _ _)
  calc tenTo e ≤ tenTo 60 := tenTo_le.mpr small
    _ < twoTo 200 := by norm_num [tenTo_eq, twoTo_eq]
    _ ≤ twoTo 970 := twoTo_le (by decide)
    _ = twoTo 971 - twoTo 970 := by rw [double]; ring
    _ ≤ twoTo 1024 - twoTo 970 := sub_le_sub_right (twoTo_le (by decide)) _

theorem roundHalfUp_natCast (n : ℕ) : (roundHalfUp n).toNat = n := by
  have whole : roundHalfUp (n : ℚ) = n := by
    rw [roundHalfUp, Int.floor_natCast_add]
    norm_num
  rw [whole, Int.toNat_natCast]

/-- What `toFixed` writes is a literal of the number, rounded to the last
decimal place. -/
theorem exists_literal_of_toFixed (x : ℚ) {places : ℕ} (some : 0 < places)
    (small : |x| < tenTo 21) :
    ∃ literal : DecimalLiteral, literal.integer ≠ [] ∧
      literal.value = roundAway (x * 10 ^ places) / 10 ^ places ∧
      (Number.finite x).toFixed places = literal.text := by
  have scale : (0 : ℚ) < 10 ^ places := by positivity
  have nonneg : 0 ≤ |x| * 10 ^ places := by positivity
  have digits : 0 ≤ roundHalfUp (|x| * 10 ^ places) := Int.floor_nonneg.mpr (by linarith)
  obtain ⟨units, count⟩ := Int.eq_ofNat_of_zero_le digits
  let literal : DecimalLiteral :=
    { negative := x < 0
      integer := Nat.toDigits 10 (units / 10 ^ places)
      fraction := (Nat.toDigits 10 (units % 10 ^ places)).leftpad places '0'
      integer_digits := allDigits_toDigits _
      fraction_digits := (allDigits_toDigits _).leftpad _ }
  have width : literal.decimals.length = places :=
    length_leftpad_toDigits some (Nat.mod_lt _ (by positivity))
  have rounded : (roundAway (x * 10 ^ places) : ℚ) =
      (if decide (x < 0) then -1 else 1) * (units : ℚ) := by
    have magnitude : roundAway (|x| * 10 ^ places) = units := by
      rw [roundAway_of_nonneg nonneg]
      exact count
    by_cases below : x < 0
    · rw [abs_of_neg below, neg_mul, roundAway_neg] at magnitude
      have whole : roundAway (x * 10 ^ places) = -(units : ℤ) := by omega
      rw [whole]
      simp [below]
    · simp_all [abs_of_nonneg]
  have value : literal.value = roundAway (x * 10 ^ places) / 10 ^ places := by
    have whole := Nat.div_add_mod units (10 ^ places)
    have digits : valueOf (literal.integer ++ literal.decimals) = units := by
      rw [valueOf_append, width, ← whole, mul_comm]
      exact congrArg₂ _ (congrArg (10 ^ places * ·) (valueOf_toDigits _))
        ((valueOf_leftpad _ _).trans (valueOf_toDigits _))
    have scaled := literal.value_eq
    grind
  have text : (Number.finite x).toFixed places = literal.text := by
    have taken : (roundHalfUp (|x| * tenTo places)).toNat = units := by
      rw [tenTo_natCast, count]
      rfl
    simp only [Number.toFixed, not_le.mpr small, if_false, taken,
      Number.fixedDigits, some.ne', DecimalLiteral.text,
      DecimalLiteral.unsigned, decide_eq_true_eq, literal, Option.map_some, Option.getD_some]
  exact ⟨literal, Nat.toDigits_ne_nil, value, text⟩

/-- Of a number of units of the last decimal place it is a literal of that
value. -/
theorem exists_literal_toFixed (units : ℤ) {places : ℕ} (some : 0 < places)
    (small : |(units / 10 ^ places : ℚ)| < tenTo 21) :
    ∃ literal : DecimalLiteral, literal.integer ≠ [] ∧ literal.value = units / 10 ^ places ∧
      (Number.finite (units / 10 ^ places)).toFixed places =
        literal.text := by grind [exists_literal_of_toFixed, roundAway_intCast]

theorem numberOf_toFixed (units : ℤ) {places : ℕ} (some : 0 < places)
    (small : |(units / 10 ^ places : ℚ)| < tenTo 21) :
    numberOf ((Number.finite (units / 10 ^ places)).toFixed places) =
      .finite (nearestDouble (units / 10 ^ places)) := by
  obtain ⟨literal, digits, value, text⟩ := exists_literal_toFixed units some small
  rw [text, literal.numberOf_text digits, value]
  rw [value]
  exact small.trans (tenTo_lt_double (by decide))

theorem parseFloatText_toFixed (units : ℤ) {places : ℕ} (some : 0 < places)
    (small : |(units / 10 ^ places : ℚ)| < tenTo 21) :
    parseFloatText ((Number.finite (units / 10 ^ places)).toFixed places).toList =
      .finite (units / 10 ^ places) := by
  obtain ⟨literal, digits, value, text⟩ := exists_literal_toFixed units some small
  rw [text, literal.parseFloatText_text digits, value]
  rw [value]
  exact small.trans (tenTo_lt_double (by decide))

/-- A number to so many decimal places. -/
def fixed (places : ℕ) (x : ℚ) : ℚ := roundAway (x * 10 ^ places) / 10 ^ places

theorem fixed_near (places : ℕ) (x : ℚ) :
    |fixed places x - x| ≤ 1 / (2 * 10 ^ places) := by
  have scale : (0 : ℚ) < 10 ^ places := by positivity
  have error := roundAway_error (x * 10 ^ places)
  have apart : fixed places x - x =
      -(x * 10 ^ places - roundAway (x * 10 ^ places)) / 10 ^ places := by
    rw [fixed]
    field_simp
    ring
  rw [apart, abs_div, abs_neg, abs_of_pos scale, div_le_div_iff₀ scale (by positivity)]
  nlinarith

/-- `toFixed` rounds to units of the last decimal place. -/
theorem toFixed_eq {units places : ℕ} (nonneg : 0 ≤ x)
    (below : x < tenTo 21) (small : (units / 10 ^ places : ℚ) < tenTo 21)
    (rounded : roundHalfUp (x * 10 ^ places) = units) :
    (Number.finite x).toFixed places = (Number.finite (units / 10 ^ places)).toFixed places := by
  have scale : (10 : ℚ) ^ places ≠ 0 := by positivity
  rw [toFixed_below places nonneg below,
    toFixed_below places (by positivity) small, tenTo_natCast, rounded,
    div_mul_cancel₀ _ scale, roundHalfUp_natCast, Int.toNat_natCast]

/-! ### Results of operations -/

theorem Number.double_finite (small : |x| < twoTo 1024 - twoTo 970) :
    (Number.finite x).double = .finite (nearestDouble x) := by
  simp [Number.double, Number.clip, Number.ofRat, small]

theorem nearestDouble_near (large : tenTo (-60) ≤ x) :
    |nearestDouble x - x| ≤ x * tenTo (-15) := by
  have positive : 0 < x := (tenTo_pos _).trans_le large
  rw [nearestDouble, if_neg positive.ne', if_neg positive.not_gt]
  exact toDouble_near large

/-- What is printed for the double next to a number of units of a decimal
place is rounded to these units. -/
theorem roundAway_printed {units : ℤ} {places : ℕ} (few : places ≤ 40) (small : |units| < 10 ^ 12) :
    roundAway (printed (nearestDouble (units / 10 ^ places)) * 10 ^ places) =
      units := by
  have scale : (0 : ℚ) < 10 ^ places := by positivity
  have below : (|units| : ℚ) < 10 ^ 12 := by exact_mod_cast small
  have near : |printed (nearestDouble (units / 10 ^ places)) - (units / 10 ^ places : ℚ)| ≤
        4 * tenTo (-15) * |(units / 10 ^ places : ℚ)| := by
    apply printed_nearestDouble
    by_cases zero : units = 0
    · exact .inl (by simp [zero])
    · have one : (1 : ℚ) ≤ |(units : ℚ)| := by exact_mod_cast Int.one_le_abs zero
      right
      calc tenTo (-40) ≤ tenTo (-places) := tenTo_le.mpr (by omega)
        _ = 1 / 10 ^ places := tenTo_neg_natCast places
        _ ≤ |(units : ℚ)| / 10 ^ places := div_le_div_of_nonneg_right one scale.le
        _ = |(units / 10 ^ places : ℚ)| := by rw [abs_div, abs_of_pos scale]
  generalize printed (nearestDouble (units / 10 ^ places)) = value at near ⊢
  have apart : |value * 10 ^ places - units| < 1 / 2 := by
    have tiny : 4 * tenTo (-15) * 10 ^ 12 < 1 / 2 := by norm_num [tenTo_eq]
    have bound := mul_lt_mul_of_pos_left below
      (mul_pos (by norm_num) (tenTo_pos (-15)) : 0 < 4 * tenTo (-15))
    have split : value * 10 ^ places - units = (value - units / 10 ^ places) * 10 ^ places := by
      rw [sub_mul, div_mul_cancel₀ _ scale.ne']
    rw [abs_div, abs_of_pos scale, ← mul_div_assoc, le_div_iff₀ scale] at near
    rw [split, abs_mul, abs_of_pos scale]
    linarith
  have nearest := roundAway_nearest (value * 10 ^ places) units
  have between := abs_sub_le (roundAway (value * 10 ^ places) : ℚ) (value * 10 ^ places) units
  rw [abs_sub_comm (roundAway (value * 10 ^ places) : ℚ) (value * 10 ^ places)] at between
  exact eq_of_near (α := ℚ) (by linarith)

end Numerals
