/-
Module: MarketX.Proofs.PriceLimits
Purpose: Which finite numbers the pricing service accepts as prices; and that
  the text of an accepted price decides what is stored of it.
Trusted boundary: none beyond the model; the definitions under review are
  Fits, Decides and PrintsPlainly
Main exports: Fits, Decides, decides_literal, validatePrice_decides_iff
-/
import Mathlib.Tactic.IntervalCases
import MarketX.Numerals.Printing
import MarketX.Proofs.Conversions

namespace MarketX.Products

open Effects Numerals PricingService

/-! ### The rule -/

def minPrice : Currency → ℚ
  | .XLM => 1 / 10 ^ 7
  | .USDC | .USD => 1 / 100

def maxPrice : ℚ := 10 ^ 9

/-- The printed number has no more places than the currency, and lies between
the limits. -/
def Fits (x : ℚ) (currency : Currency) : Prop := places x ≤ getCurrencyPrecision currency ∧
    minPrice currency ≤ printed x ∧ printed x ≤ maxPrice

instance (x : ℚ) (currency : Currency) : Decidable (Fits x currency) :=
  inferInstanceAs (Decidable (_ ∧ _ ∧ _))

/-- `validatePrice` accepts the number under this condition, and throws a
`BadRequestException` without it. -/
def Decides (x : ℚ) (currency : Currency) (accepts : Prop) : Prop :=
  (accepts → validatePrice (.finite x) currency = .ok ()) ∧ (¬ accepts → ∃ message,
      validatePrice (.finite x) currency = .error (.badRequest message))

variable {x y : ℚ} {currency : Currency} {first second : Prop} {literal : DecimalLiteral}
  {digits exponent : List Char} {sign : Char}

theorem Decides.congr (decides : Decides x currency first) (same : first ↔ second) :
    Decides x currency second :=
  ⟨fun holds => decides.1 (same.mpr holds), fun fails => decides.2 (mt same.mp fails)⟩

/-! ### Literals -/

theorem limits_read (currency : Currency) :
    toMinorUnitsFromString (minPriceByCurrency currency) currency = .ok 1 ∧
      toMinorUnitsFromString (maxPriceByCurrency currency) currency =
        .ok (10 ^ 9 * 10 ^ getCurrencyPrecision currency) := by
  cases currency <;> decide

theorem minPrice_scaled (currency : Currency) :
    minPrice currency * 10 ^ getCurrencyPrecision currency = 1 := by
  cases currency <;> norm_num [minPrice, getCurrencyPrecision, precisionByCurrency]

theorem minor_of_literal (literal : DecimalLiteral) {precision : ℕ}
    (precise : literal.decimals.length ≤ precision) :
    ∃ minor : ℤ, literal.value * 10 ^ precision = minor := by
  obtain ⟨spare, rfl⟩ := Nat.exists_eq_add_of_le precise
  exact ⟨_, value_scaled literal spare⟩

/-- A number that is read as a literal is decided by the value and the
decimals of that literal. -/
theorem decides_literal
    (same : normalizeNumberString (.finite x) = .ok literal.text) (currency : Currency) :
    Decides x currency (literal.decimals.length ≤ getCurrencyPrecision currency ∧
        minPrice currency ≤ literal.value ∧ literal.value ≤ maxPrice) := by
  obtain ⟨least, most⟩ := limits_read currency
  have scaled := minPrice_scaled currency
  unfold Decides
  simp only [validatePrice, validateAmountForConversion, toMinorUnits, same,
    bind, Except.bind, getScale_text, toMinorUnitsFromString_text, least, most]
  generalize getCurrencyPrecision currency = precision at scaled ⊢
  by_cases precise : literal.decimals.length ≤ precision
  · obtain ⟨minor, exact⟩ := minor_of_literal literal precise
    have power : (0 : ℚ) < 10 ^ precision := by positivity
    have above : minPrice currency ≤ literal.value ↔ 1 ≤ minor := by
      rw [← mul_le_mul_iff_left₀ power, scaled, exact]
      exact_mod_cast Iff.rfl
    have below : literal.value ≤ maxPrice ↔ minor ≤ 10 ^ 9 * 10 ^ precision := by
      rw [← mul_le_mul_iff_left₀ power, exact, maxPrice]
      exact_mod_cast Iff.rfl
    rw [exact, roundAway_intCast, if_neg (not_lt.mpr precise), above, below]
    simp only [precise, true_and, pure, Except.pure]
    constructor
    · rintro ⟨notLess, notMore⟩
      rw [if_neg (by omega)]
    · intro outside
      rw [if_pos (by omega)]
      exact ⟨_, rfl⟩
  · rw [if_pos (not_le.mp precise)]
    exact ⟨fun fits => absurd fits.1 precise, fun _ => ⟨_, rfl⟩⟩

/-! ### Texts with an exponent -/

theorem withoutTrailingZeros_append (front : List Char)
    (all : AllDigits digits) (left : withoutZeros digits ≠ []) :
    withoutTrailingZeros (front ++ digits) = front ++ withoutZeros digits := by
  have kept : digits.reverse.dropWhile (· = '0') ≠ [] := by simp_all [withoutZeros]
  have digit : ∀ c ∈ digits.reverse.dropWhile (· = '0'), c.isDigit = true :=
    fun c member => all c (List.mem_reverse.mp ((List.dropWhile_sublist _).subset member))
  unfold withoutTrailingZeros withoutZeros
  rw [List.reverse_append, List.dropWhile_append, if_neg (by simpa using kept)]
  cases ends : digits.reverse.dropWhile (· = '0') with
  | nil => exact absurd ends kept
  | cons last others =>
    have isDigit := digit last (by rw [ends]; exact List.mem_cons_self)
    split <;> simp_all

theorem withoutTrailingZeros_point (front : List Char) (none : withoutZeros digits = []) :
    withoutTrailingZeros (front ++ '.' :: digits) = front := by
  have gone : digits.reverse.dropWhile (· = '0') = [] := List.reverse_eq_nil_iff.mp none
  unfold withoutTrailingZeros
  simp [List.dropWhile_append, gone]

/-- The places of a text with an exponent are its decimals together with the
exponent. -/
theorem getScale_exponent (literal : DecimalLiteral) (signed : sign = '+' ∨ sign = '-')
    (digits : AllDigits exponent) :
    getScale (String.ofList (literal.text.toList ++ 'e' :: sign :: exponent)) =
      if literal.fraction = none then 0
      else literal.decimals.length + 2 + exponent.length := by
  have inInteger := literal.integer_digits.not_mem (c := '.') rfl
  have inFraction := literal.fraction_digits.not_mem (c := '.') rfl
  have behind : '.' ∉ 'e' :: sign :: exponent := by
    have inExponent := digits.not_mem (c := '.') rfl
    rcases signed with rfl | rfl <;> simp [inExponent]
  have noPoint : '.' ∉ (if literal.negative then ['-'] else []) ++
      literal.integer := by simp_all
  rw [getScale, String.toList_ofList, DecimalLiteral.text,
    String.toList_ofList, DecimalLiteral.unsigned, ← List.append_assoc]
  generalize (if literal.negative then ['-'] else []) ++ literal.integer = front at noPoint ⊢
  cases fraction : literal.fraction with
  | none => simp_all [List.splitOn_eq_singleton]
  | some decimals =>
    have last : '.' ∉ decimals ++ 'e' :: sign :: exponent := by simp_all
    have text : front ++ ((some decimals).map ('.' :: ·)).getD [] ++ 'e' :: sign :: exponent =
          front ++ '.' :: (decimals ++ 'e' :: sign :: exponent) := by simp
    rw [text, List.splitOn_append_cons_self_of_not_mem noPoint, List.splitOn_eq_singleton last,
      if_neg (Option.some_ne_none decimals), DecimalLiteral.decimals, fraction]
    grind

/-- A text with an exponent is refused for its places, or it throws what is
no `BadRequestException`. -/
theorem validatePrice_exponent (signed : sign = '+' ∨ sign = '-')
    (digits : AllDigits exponent) (same : normalizeNumberString (.finite x) = .ok (String.ofList
      (literal.text.toList ++ 'e' :: sign :: exponent))) (currency : Currency) :
    (∃ message, validatePrice (.finite x) currency = .error (.badRequest message)) ↔
      literal.fraction ≠ none ∧ getCurrencyPrecision currency <
        literal.decimals.length + 2 + exponent.length := by
  obtain ⟨message, thrown⟩ := parseDecimal_exponent literal signed digits
  simp only [validatePrice, validateAmountForConversion, toMinorUnits, same,
    bind, Except.bind, getScale_exponent literal signed digits, toMinorUnitsFromString, thrown]
  cases literal.fraction with
  | none => simp [pure, Except.pure]
  | some decimals =>
    have some := Option.some_ne_none decimals
    rw [if_neg some]
    by_cases longer : getCurrencyPrecision currency < literal.decimals.length + 2 + exponent.length
    · rw [if_pos longer]
      exact ⟨fun _ => ⟨some, longer⟩, fun _ => ⟨_, rfl⟩⟩
    · rw [if_neg longer]
      refine ⟨fun refused => ?_, fun far => absurd far.2 longer⟩
      obtain ⟨_, refused⟩ := refused
      cases refused

/-! ### Texts with twelve decimals -/

/-- The number without its sign, rounded to units of the twelfth decimal. -/
def fixedUnits (x : ℚ) : ℕ := (roundHalfUp (|x| * tenTo 12)).toNat

/-- Without zeros at its end, what `toFixed` writes denotes the same
number. -/
theorem fixed_literal (negative : Bool) (units : ℕ) :
    ∃ literal : DecimalLiteral, literal.text.toList =
        withoutTrailingZeros ((if negative then ['-'] else []) ++ Number.fixedDigits units 12) ∧
      literal.value = (if negative then -1 else 1) * (units * tenTo (-(12 : ℕ))) ∧ ∀ count ≤ 12,
        literal.decimals.length ≤ count ↔ 10 ^ (12 - count) ∣ units := by
  have whole := allDigits_toDigits (units / 10 ^ 12)
  have all := (allDigits_toDigits (units % 10 ^ 12)).leftpad 12
  have length : ((Nat.toDigits 10 (units % 10 ^ 12)).leftpad 12 '0').length =
      12 := length_leftpad_toDigits (by decide) (Nat.mod_lt _ (by decide))
  have value : valueOf ((Nat.toDigits 10 (units % 10 ^ 12)).leftpad 12 '0') = units % 10 ^ 12 := by
    rw [valueOf_leftpad, valueOf_toDigits]
  have fixed : Number.fixedDigits units 12 = Nat.toDigits 10 (units / 10 ^ 12) ++
        '.' :: (Nat.toDigits 10 (units % 10 ^ 12)).leftpad 12 '0' := rfl
  generalize (Nat.toDigits 10 (units % 10 ^ 12)).leftpad 12 '0' = decimals at all length value fixed
  obtain ⟨shorter, kept⟩ := valueOf_withoutZeros decimals
  have fewer : ∀ count ≤ 12, (withoutZeros decimals).length ≤ count ↔
      10 ^ (12 - count) ∣ units := by
    intro count within
    have power : 10 ^ (12 - count) ∣ 10 ^ 12 := pow_dvd_pow 10 (Nat.sub_le 12 count)
    rw [length_withoutZeros_le all (by omega), length, value, Nat.dvd_mod_iff power]
  have total : units = valueOf (Nat.toDigits 10 (units / 10 ^ 12) ++
      withoutZeros decimals) * 10 ^ (12 - (withoutZeros decimals).length) := by
    grind [valueOf_append, valueOf_toDigits, add_mul, mul_assoc, Nat.add_sub_cancel']
  have denoted : ∀ literal : DecimalLiteral, literal.negative = negative →
      literal.integer = Nat.toDigits 10 (units / 10 ^ 12) →
      literal.decimals = withoutZeros decimals → literal.value =
          (if negative then -1 else 1) * (units * tenTo (-(12 : ℕ))) := by
    intro literal sign front behind
    have exponent : -((withoutZeros decimals).length : ℤ) =
        (12 - (withoutZeros decimals).length : ℕ) + -(12 : ℕ) := by omega
    rw [DecimalLiteral.value_of_digits (by rw [front, behind]), sign, behind,
      exponent, tenTo_add, tenTo_natCast, ← mul_assoc (Nat.cast _)]
    conv_rhs => rw [total]
    push_cast
    rfl
  cases left : withoutZeros decimals with
  | nil =>
    refine ⟨⟨negative, Nat.toDigits 10 (units / 10 ^ 12), none, whole,
      List.forall_mem_nil _⟩, ?_, denoted _ rfl rfl left.symm, ?_⟩
    · rw [fixed, ← List.append_assoc, withoutTrailingZeros_point _ left]
      simp [DecimalLiteral.text, DecimalLiteral.unsigned]
    · intro count within
      rw [← fewer count within, left]
      rfl
  | cons digit others =>
    refine ⟨⟨negative, Nat.toDigits 10 (units / 10 ^ 12),
      some (withoutZeros decimals), whole, all.withoutZeros⟩, ?_, denoted _ rfl rfl rfl, fewer⟩
    rw [fixed, List.append_cons, ← List.append_assoc,
      withoutTrailingZeros_append _ all (by simp [left])]
    simp [DecimalLiteral.text, DecimalLiteral.unsigned]

theorem normalizeNumberString_letter (letter : 'e' ∈ written x) :
    normalizeNumberString (.finite x) = .ok (String.ofList
      (withoutTrailingZeros ((Number.finite x).toFixed 12).toList)) := by
  simp_all [normalizeNumberString, Number.isFinite, Number.toText]

theorem normalizeNumberString_fixed (letter : 'e' ∈ written x) (below : |x| < tenTo 21) :
    ∃ literal : DecimalLiteral, normalizeNumberString (.finite x) = .ok literal.text ∧
      literal.value = (if x < 0 then -1 else 1) * (fixedUnits x * tenTo (-(12 : ℕ))) ∧
      ∀ count ≤ 12, literal.decimals.length ≤ count ↔ 10 ^ (12 - count) ∣ fixedUnits x := by
  obtain ⟨literal, text, value, fewer⟩ := fixed_literal (decide (x < 0)) (fixedUnits x)
  simp only [decide_eq_true_eq] at text value
  refine ⟨literal, ?_, value, fewer⟩
  rw [normalizeNumberString_letter letter, Number.toFixed,
    if_neg (not_le.mpr below), String.toList_ofList]
  exact congrArg Except.ok (String.toList_inj.mp (by
    rw [String.toList_ofList, text]
    rfl))

theorem normalizeNumberString_large (large : tenTo 21 ≤ |x|) :
    ∃ literal : DecimalLiteral, ∃ sign, (sign = '+' ∨ sign = '-') ∧
      normalizeNumberString (.finite x) = .ok (String.ofList
        (literal.text.toList ++ 'e' :: sign :: withoutZeros
          (Nat.toDigits 10 ((shortest |x|).2 - 1).natAbs))) ∧
      literal.decimals.length = (shortest |x|).1.length - 1 ∧
      (literal.fraction = none ↔ (shortest |x|).1.length = 1) := by
  have positive : 0 < |x| := lt_of_lt_of_le (tenTo_pos 21) large
  have nonzero := abs_pos.mp positive
  have far : 21 < (shortest |x|).2 :=
    tenTo_lt.mp (lt_of_le_of_lt large (abs_lt_tenTo_shortest nonzero))
  obtain ⟨literal, text, length, shape⟩ := written_exponent nonzero (.inr far)
  have all := allDigits_toDigits ((shortest |x|).2 - 1).natAbs
  have left : withoutZeros (Nat.toDigits 10 ((shortest |x|).2 - 1).natAbs) ≠
      [] := by grind [valueOf_withoutZeros, valueOf_nil, valueOf_toDigits]
  have letter : 'e' ∈ written x := by
    rw [text]
    exact List.mem_append_right _ List.mem_cons_self
  refine ⟨literal, if (shortest |x|).2 - 1 < 0 then '-' else '+', ?_, ?_, length, shape⟩
  · rw [if_neg (by omega)]
    exact .inl rfl
  · rw [normalizeNumberString_letter letter, Number.toFixed, if_pos large,
      String.toList_ofList, text, List.append_cons, List.append_cons,
      withoutTrailingZeros_append _ all left]
    simp

/-! ### Tiny numbers -/

section

variable {x : ℚ} {currency : Currency} (nonzero : x ≠ 0) (tiny : (shortest |x|).2 ≤ -6)
include nonzero tiny

theorem fixedUnits_tiny : fixedUnits x ≤ 10 ^ 6 := by
  apply roundHalfUp_le
  have below := (abs_lt_tenTo_shortest nonzero).trans_le (tenTo_le.mpr tiny)
  calc |x| * tenTo 12 < tenTo (-6) * tenTo 12 := mul_lt_mul_of_pos_right below (tenTo_pos 12)
    _ = ((10 ^ 6 : ℕ) : ℚ) := by norm_num [tenTo_eq]

theorem tiny_accepts {literal : DecimalLiteral} (value : literal.value =
      (if x < 0 then -1 else 1) * (fixedUnits x * tenTo (-(12 : ℕ))))
    (fewer : ∀ count ≤ 12, literal.decimals.length ≤ count ↔ 10 ^ (12 - count) ∣ fixedUnits x) :
    (literal.decimals.length ≤ getCurrencyPrecision currency ∧
        minPrice currency ≤ literal.value ∧ literal.value ≤ maxPrice) ↔
      currency = .XLM ∧ 0 < x ∧ 0 < fixedUnits x ∧ 10 ^ 5 ∣ fixedUnits x := by
  have few := fixedUnits_tiny nonzero tiny
  have scale := tenTo_neg_natCast 12
  rw [value, scale]
  generalize fixedUnits x = units at few fewer ⊢
  have small : (units : ℚ) ≤ 10 ^ 6 := by exact_mod_cast few
  rcases lt_or_gt_of_ne nonzero with negative | positive
  · have least : 0 < minPrice currency := by
      cases currency <;> norm_num [minPrice]
    rw [if_pos negative]
    constructor
    · rintro ⟨_, above, _⟩
      linarith
    · grind
  · rw [if_neg positive.not_gt, one_mul]
    have most : (units : ℚ) * (1 / 10 ^ 12) ≤ maxPrice := by
      norm_num [maxPrice]
      linarith
    cases currency with
    | XLM =>
      have fits := fewer 7 (by decide)
      constructor
      · rintro ⟨precise, above, _⟩
        refine ⟨rfl, positive, ?_, fits.mp precise⟩
        by_contra none
        rw [Nat.eq_zero_of_not_pos none] at above
        norm_num [minPrice] at above
      · rintro ⟨_, _, counted, divides⟩
        have enough : (10 : ℚ) ^ 5 ≤ units := by exact_mod_cast Nat.le_of_dvd counted divides
        refine ⟨fits.mpr divides, ?_, most⟩
        norm_num [minPrice]
        linarith
    | USDC | USD =>
      have fits := fewer 2 (by decide)
      constructor
      · rintro ⟨precise, above, _⟩
        obtain ⟨tens, whole⟩ := fits.mp precise
        have none : units = 0 := by omega
        rw [none] at above
        norm_num [minPrice] at above
      · rintro ⟨other, _⟩
        cases other

theorem tiny_digit (precise : places x ≤ 7) :
    (shortest |x|).1.length = 1 ∧ (shortest |x|).2 = -6 ∧
      0 < valueOf (shortest |x|).1 ∧ valueOf (shortest |x|).1 < 10 := by
  obtain ⟨some, first, _⟩ := shortest_spec (abs_pos.mpr nonzero)
  rw [places, if_neg nonzero] at precise
  grind [valueOf_of_length_one, shortest_digits]

theorem tiny_fits :
    Fits x currency ↔ currency = .XLM ∧ 0 < x ∧ places x ≤ 7 := by
  obtain ⟨some, _⟩ := shortest_spec (abs_pos.mpr nonzero)
  have many : 7 ≤ places x := by
    rw [places, if_neg nonzero]
    omega
  constructor
  · rintro ⟨precise, least, _⟩
    have positive : 0 < x := by
      rcases lt_or_gt_of_ne nonzero with negative | positive
      · have below := printed_nonpos negative
        cases currency <;> norm_num [minPrice] at least <;> linarith
      · exact positive
    cases currency with
    | XLM => exact ⟨rfl, positive, precise⟩
    | USDC | USD =>
      have two : places x ≤ 2 := precise
      omega
  · rintro ⟨rfl, positive, precise⟩
    obtain ⟨one, point, atLeast, below⟩ := tiny_digit nonzero tiny precise
    have value := abs_printed nonzero
    rw [abs_of_nonneg (printed_nonneg positive), one, point] at value
    have scale : tenTo (-6 - (1 : ℕ)) = 1 / 10 ^ 7 := by norm_num [tenTo_eq]
    have high : (valueOf (shortest |x|).1 : ℚ) < 10 := by exact_mod_cast below
    refine ⟨precise, ?_, ?_⟩
    · rw [value, scale]
      norm_num [minPrice]
      linarith
    · rw [value, scale]
      norm_num [maxPrice]
      linarith

/-- Such a number is that digit also when it is rounded to twelve
decimals. -/
theorem fixedUnits_of_places (precise : places x ≤ 7) :
    fixedUnits x = valueOf (shortest |x|).1 * 10 ^ 5 ∧ 0 < fixedUnits x := by
  obtain ⟨one, point, atLeast, below⟩ := tiny_digit nonzero tiny precise
  obtain ⟨_, _, _, _, near⟩ := shortest_spec (abs_pos.mpr nonzero)
  rw [one, point] at near
  have same : fixedUnits x = valueOf (shortest |x|).1 * 10 ^ 5 := by
    unfold fixedUnits
    generalize valueOf (shortest |x|).1 = digit at atLeast below near ⊢
    rcases near with double | close
    · rw [← double]
      interval_cases digit <;> decide +kernel
    · have scale : tenTo (-6 - (1 : ℕ)) = 1 / 10 ^ 7 := by norm_num [tenTo_eq]
      have apart : tenTo (-6 - 17) = 1 / 10 ^ 23 := by norm_num [tenTo_eq]
      have twelve : tenTo 12 = 10 ^ 12 := tenTo_natCast 12
      rw [scale, apart, abs_le] at close
      have rounded : roundHalfUp (|x| * tenTo 12) = ((digit * 10 ^ 5 : ℕ) : ℤ) := by
        rw [roundHalfUp, Int.floor_eq_iff, twelve]
        push_cast
        constructor <;> linarith
      rw [rounded, Int.toNat_natCast]
  exact ⟨same, by omega⟩

end

/-! ### All numbers -/

theorem Decides.iff (decides : Decides x currency first) :
    Decides x currency second ↔ (first ↔ second) := by
  constructor
  · intro others
    constructor
    · intro holds
      by_contra fails
      obtain ⟨message, refused⟩ := others.2 fails
      rw [decides.1 holds] at refused
      cases refused
    · intro holds
      by_contra fails
      obtain ⟨message, refused⟩ := decides.2 fails
      rw [others.1 holds] at refused
      cases refused
  · exact decides.congr

theorem not_fits_of_large (nonzero : x ≠ 0) (far : 21 < (shortest |x|).2) : ¬ Fits x currency := by
  rintro ⟨_, least, most⟩
  have huge : tenTo 21 ≤ |printed x| :=
    (tenTo_le.mpr (by omega)).trans (tenTo_le_abs_printed nonzero)
  have above : maxPrice < tenTo 21 := by norm_num [maxPrice, tenTo_eq]
  have low : 0 ≤ minPrice currency := by
    cases currency <;> norm_num [minPrice]
  rw [abs_of_nonneg (low.trans least)] at huge
  linarith

theorem carried_refused (nonzero : x ≠ 0) (far : 21 < (shortest |x|).2) (value : literal.value =
      (if x < 0 then -1 else 1) * (fixedUnits x * tenTo (-(12 : ℕ)))) :
    ¬ (minPrice currency ≤ literal.value ∧ literal.value ≤ maxPrice) := by
  obtain ⟨_, _, _, carried, _⟩ := shortest_spec (abs_pos.mpr nonzero)
  have least : tenTo 20 ≤ |x| :=
    (tenTo_le.mpr (by omega)).trans (tenTo_le_decimalPoint (abs_pos.mpr nonzero))
  have units : 10 ^ 32 ≤ fixedUnits x := by
    apply le_roundHalfUp
    calc ((10 ^ 32 : ℕ) : ℚ) = tenTo 20 * tenTo 12 := by norm_num [tenTo_eq]
      _ ≤ |x| * tenTo 12 := mul_le_mul_of_nonneg_right least (tenTo_pos 12).le
  have cast : (10 : ℚ) ^ 32 ≤ fixedUnits x := by exact_mod_cast units
  have low : 0 < minPrice currency := by
    cases currency <;> norm_num [minPrice]
  rw [value, tenTo_neg_natCast, maxPrice]
  rintro ⟨above, below⟩
  split at above
  · linarith
  next notNegative =>
      rw [if_neg notNegative] at below
      linarith

/-- Where what is checked says what is printed: from `10 ** 21` on, two digits
at least are printed, and with the exponent they are more places than the
currency has; and of an XLM price that is printed with a negative exponent,
what the twelfth decimal is rounded to is no accepted price, or is the price
that is printed. -/
structure ReadAsPrinted (x : ℚ) (currency : Currency) : Prop where
  large : tenTo 21 ≤ |x| → 2 ≤ (shortest |x|).1.length ∧
    getCurrencyPrecision currency < (shortest |x|).1.length + 1 + (withoutZeros
        (Nat.toDigits 10 ((shortest |x|).2 - 1).natAbs)).length
  tiny : currency = .XLM → 0 < x → (shortest |x|).2 ≤ -6 →
    0 < fixedUnits x → 10 ^ 5 ∣ fixedUnits x → places x ≤ 7

/-- `validatePrice` accepts a finite number exactly where the printed number
fits, and throws nothing but a `BadRequestException`, if and only if the text
that it checks says what is printed. -/
theorem validatePrice_decides_iff (x : ℚ) (currency : Currency) :
    Decides x currency (Fits x currency) ↔ ReadAsPrinted x currency := by
  by_cases plain : x = 0 ∨ -6 < (shortest |x|).2 ∧ (shortest |x|).2 ≤ 21
  · -- written out: the literal is what is printed
    obtain ⟨literal, text, value, length⟩ := written_plain plain
    have decides := decides_literal (normalizeNumberString_plain text) currency
    have short : ¬ tenTo 21 ≤ |x| := by
      intro large
      have nonzero := abs_pos.mp (lt_of_lt_of_le (tenTo_pos 21) large)
      have far := tenTo_lt.mp (lt_of_le_of_lt large (abs_lt_tenTo_shortest nonzero))
      have near := (plain.resolve_left nonzero).2
      omega
    refine iff_of_true (decides.congr ?_) ⟨fun large => absurd large short, ?_⟩
    · rw [value, Fits]
      exact and_congr_left fun _ => by omega
    · intro _ positive tiny
      have near := (plain.resolve_left positive.ne').1
      omega
  · obtain ⟨nonzero, outside⟩ := not_or.mp plain
    have far : (shortest |x|).2 ≤ -6 ∨ 21 < (shortest |x|).2 := by omega
    have letter : 'e' ∈ written x := by
      obtain ⟨literal, text, _⟩ := written_exponent nonzero far
      rw [text]
      exact List.mem_append_right _ List.mem_cons_self
    rcases le_or_gt (tenTo 21) |x| with large | below
    · -- the exponent is left, and no number fits
      have point : 21 < (shortest |x|).2 :=
        tenTo_lt.mp (lt_of_le_of_lt large (abs_lt_tenTo_shortest nonzero))
      have unfit : ¬ Fits x currency := not_fits_of_large nonzero point
      obtain ⟨literal, sign, signed, same, length, shape⟩ := normalizeNumberString_large large
      have some := (shortest_spec (abs_pos.mpr nonzero)).1
      have refused := validatePrice_exponent signed
        (allDigits_toDigits _).withoutZeros same currency
      rw [length] at refused
      have decides : Decides x currency (Fits x currency) ↔ ∃ message,
          validatePrice (.finite x) currency = .error (.badRequest message) :=
        ⟨fun decides => decides.2 unfit,
          fun refused => ⟨fun fits => absurd fits unfit, fun _ => refused⟩⟩
      rw [decides, refused, Ne, shape]
      constructor
      · rintro ⟨several, longer⟩
        exact ⟨fun _ => ⟨by omega, by omega⟩, fun _ _ tiny => by omega⟩
      · intro readable
        obtain ⟨several, longer⟩ := readable.large large
        exact ⟨by omega, by omega⟩
    · -- twelve decimals are checked instead
      obtain ⟨literal, same, value, fewer⟩ := normalizeNumberString_fixed letter below
      have decides := decides_literal same currency
      rcases far with tiny | point
      · rw [decides.iff, tiny_accepts nonzero tiny value fewer, tiny_fits nonzero tiny]
        have counted := fixedUnits_of_places nonzero tiny
        constructor
        · intro agree
          refine ⟨fun large => absurd below (not_lt.mpr large), ?_⟩
          intro lumens positive _ some divides
          exact (agree.mp ⟨lumens, positive, some, divides⟩).2.2
        · intro readable
          constructor
          · rintro ⟨lumens, positive, some, divides⟩
            exact ⟨lumens, positive, readable.tiny lumens positive tiny some divides⟩
          · rintro ⟨lumens, positive, precise⟩
            obtain ⟨units, some⟩ := counted precise
            exact ⟨lumens, positive, some, units ▸ Dvd.intro_left _ rfl⟩
      · refine iff_of_true (decides.congr (iff_of_false ?_ ?_))
          ⟨fun large => absurd below (not_lt.mpr large), fun _ _ tiny => by omega⟩
        · exact fun accepted => carried_refused nonzero point value accepted.2
        · exact not_fits_of_large nonzero point

/-- A sextillion escapes as the `SyntaxError` of `BigInt`, and an XLM price of
thirteen decimals is accepted as one of seven. -/
theorem prices_read_otherwise :
    validatePrice (.finite (10 ^ 21)) .USD = .error (.error "Cannot convert 1e+21 to a BigInt") ∧
      validatePrice (.finite (toDouble (1000001 / 10 ^ 13))) .XLM = .ok () ∧
      (Number.finite (toDouble (1000001 / 10 ^ 13))).toText = "1.000001e-7" ∧
      ¬ Decides (10 ^ 21) .USD (Fits (10 ^ 21) .USD) ∧ ¬ Decides (toDouble (1000001 / 10 ^ 13)) .XLM
        (Fits (toDouble (1000001 / 10 ^ 13)) .XLM) := by
  have thrown : validatePrice (.finite (10 ^ 21)) .USD =
      .error (.error "Cannot convert 1e+21 to a BigInt") := by decide +kernel
  have accepted : validatePrice (.finite (toDouble (1000001 / 10 ^ 13))) .XLM =
      .ok () := by decide +kernel
  refine ⟨thrown, accepted, by decide +kernel, fun decides => ?_, fun decides => ?_⟩
  · obtain ⟨message, refused⟩ := decides.2 (by decide +kernel)
    rw [thrown] at refused
    cases refused
  · obtain ⟨message, refused⟩ := decides.2 (by decide +kernel)
    rw [accepted] at refused
    cases refused

open Effects Numerals PricingService ProductsService

/-- An accepted number that is written with an exponent is a tiny one, and
rounded to twelve decimals it has seven. -/
theorem tiny_of_accepted (letter : 'e' ∈ written x)
    (valid : validatePrice (.finite x) currency = .ok ()) :
    0 < x ∧ (shortest |x|).2 ≤ -6 ∧ |x| < tenTo 21 ∧ 10 ^ 5 ∣ fixedUnits x := by
  have notPlain :
      ¬ (x = 0 ∨ -6 < (shortest |x|).2 ∧ (shortest |x|).2 ≤ 21) := by
    intro plain
    obtain ⟨literal, text, _⟩ := written_plain plain
    have none := literal.not_mem_text (c := 'e') rfl (by decide) (by decide)
    rw [← text, String.toList_ofList] at none
    exact none letter
  rcases le_or_gt (tenTo 21) |x| with large | below
  · -- the exponent is left in, and cannot be read
    obtain ⟨literal, sign, signed, same, _⟩ := normalizeNumberString_large large
    obtain ⟨message, thrown⟩ := parseDecimal_exponent literal signed
      (allDigits_toDigits ((shortest |x|).2 - 1).natAbs).withoutZeros
    obtain ⟨_, _, rest⟩ := bind_eq_ok.mp valid
    obtain ⟨minor, counted, _⟩ := bind_eq_ok.mp rest
    rw [toMinorUnits, same] at counted
    obtain ⟨_, ⟨⟩, read⟩ := bind_eq_ok.mp counted
    obtain ⟨decimal, parsed, _⟩ := bind_eq_ok.mp read
    rw [thrown] at parsed
    cases parsed
  · obtain ⟨literal, same, value, fewer⟩ := normalizeNumberString_fixed letter below
    have decides := decides_literal same currency
    have accepted := not_imp_comm.mp decides.2 (by
      rintro ⟨message, thrown⟩
      rw [valid] at thrown
      cases thrown)
    grind [tiny_accepts, carried_refused]

theorem fixedUnits_near (positive : 0 < x) :
    |x * 10 ^ 12 - fixedUnits x| ≤ 1 / 2 := by
  have twelve : tenTo 12 = 10 ^ 12 := tenTo_natCast 12
  grind [roundHalfUp_near, fixedUnits]

theorem shortest_of_written (positive : 0 < x) (also : 0 < y)
    (tiny : (shortest x).2 ≤ -6) (small : (shortest y).2 ≤ -6)
    (same : written x = written y) : shortest x = shortest y := by
  have some := (shortest_spec positive).1
  have others := (shortest_spec also).1
  simp only [written, positive.ne', also.ne', if_false, abs_of_pos positive,
    abs_of_pos also, positive.not_gt, also.not_gt, List.nil_append] at same
  obtain ⟨digits, point⟩ := pointed_injective (List.length_pos_iff.mp some)
    (List.length_pos_iff.mp others) (shortest_digits x) (shortest_digits y) tiny small same
  exact Prod.ext digits point

/-- What the text says of a number is enough to round it, where that leaves
seven decimals. -/
theorem fixedUnits_of_written (positive : 0 < x) (also : 0 < y)
    (tiny : (shortest x).2 ≤ -6) (small : (shortest y).2 ≤ -6)
    (seven : 10 ^ 5 ∣ fixedUnits x) (alike : 10 ^ 5 ∣ fixedUnits y)
    (same : written x = written y) : fixedUnits x = fixedUnits y := by
  have some := (shortest_spec positive).1
  have shape := shortest_of_written positive also tiny small same
  have first := shortest_near positive
  have second := shortest_near also
  have here := fixedUnits_near positive
  have there := fixedUnits_near also
  obtain ⟨k, units⟩ := seven
  obtain ⟨l, others⟩ := alike
  simp only [← shape] at second
  simp only [units, Nat.cast_mul, Nat.cast_pow, Nat.cast_ofNat] at here
  simp only [others, Nat.cast_mul, Nat.cast_pow, Nat.cast_ofNat] at there
  simp only [abs_le] at first second here there
  have equal : (k : ℤ) = l := by
    by_cases one : (shortest x).2 - (shortest x).1.length = -7
    · -- one digit, in the seventh decimal: both are that digit
      have unit : tenTo (-7) = 1 / 10 ^ 7 := tenTo_neg_natCast 7
      rw [one, unit] at first second
      have left : (k : ℤ) = valueOf (shortest x).1 := by
        refine eq_of_near (α := ℚ) (abs_lt.mpr ⟨?_, ?_⟩) <;> push_cast <;> linarith
      have right : (l : ℤ) = valueOf (shortest x).1 := by
        refine eq_of_near (α := ℚ) (abs_lt.mpr ⟨?_, ?_⟩) <;> push_cast <;> linarith
      exact left.trans right.symm
    · -- more digits: both are less than a unit of the seventh decimal apart
      have unit : tenTo ((shortest x).2 - (shortest x).1.length) ≤ 1 / 10 ^ 8 := by
        rw [← tenTo_neg_natCast]
        exact tenTo_le.mpr (by omega)
      refine eq_of_near (α := ℚ) (abs_lt.mpr ⟨?_, ?_⟩) <;> push_cast <;> linarith
  rw [units, others, Int.natCast_inj.mp equal]

theorem normalizeNumberString_of_text (valid : validatePrice (.finite x) currency = .ok ())
    (also : validatePrice (.finite y) currency = .ok ()) (same : written x = written y) :
    normalizeNumberString (.finite x) = normalizeNumberString (.finite y) := by
  by_cases letter : 'e' ∈ written x
  · have other : 'e' ∈ written y := same ▸ letter
    obtain ⟨positive, tiny, below, seven⟩ := tiny_of_accepted letter valid
    obtain ⟨alsoPositive, small, beneath, alike⟩ := tiny_of_accepted other also
    rw [abs_of_pos positive] at tiny
    rw [abs_of_pos alsoPositive] at small
    have units := fixedUnits_of_written positive alsoPositive tiny small seven alike same
    rw [fixedUnits, fixedUnits] at units
    rw [normalizeNumberString_letter letter, normalizeNumberString_letter other,
      Number.toFixed, Number.toFixed, if_neg (not_le.mpr below),
      if_neg (not_le.mpr beneath), if_neg positive.not_gt,
      if_neg alsoPositive.not_gt, Nat.cast_ofNat, units]
  · grind [Number.toText, String.toList_ofList, toText_plain, normalizeNumberString_plain]

theorem acceptPrice_text {first second : Number}
    {strings others : String × String} (accepted : acceptPrice first currency = .ok strings)
    (also : acceptPrice second currency = .ok others)
    (same : strings.1 = others.1) : strings = others := by
  obtain ⟨x, rfl, text, _⟩ := acceptPrice_ok accepted
  obtain ⟨y, rfl, otherText, _⟩ := acceptPrice_ok also
  obtain ⟨_, valid, rest⟩ := bind_eq_ok.mp accepted
  obtain ⟨_, alsoValid, otherRest⟩ := bind_eq_ok.mp also
  rw [text, otherText] at same
  have written : written x = written y := String.ofList_injective same
  grind [normalizeNumberString_of_text, minorUnitsString, toMinorUnits]

end MarketX.Products
