/-
Module: MarketX.Proofs.Conversions
Purpose: The conversion of minor units is the exact quotient of the rates,
  rounded to the nearest integer with ties away from zero; how far a conversion
  there and back and the total of an order are from the exact amounts.
Trusted boundary: none
Main exports: divideWithHalfUp_eq, conversion_exact, DecimalRates, conversion_round_trip
-/
import MarketX.Numerals.Rounding
import MarketX.Products.Rules

namespace MarketX.Products

open Numerals PricingService

/-! ### Dividing -/

theorem divideWithHalfUp_neg {numerator : ℤ} (positive : 0 < numerator) (denominator : ℤ) :
    divideWithHalfUp (-numerator) denominator = -divideWithHalfUp numerator denominator := by
  have below : ¬ -numerator ≥ 0 := by omega
  simp only [divideWithHalfUp, Int.neg_tdiv, Int.neg_tmod, if_pos positive.le, if_neg below]
  split_ifs <;> omega

/-- On a positive denominator, half-up on the absolute value is rounding with
ties away from zero. -/
theorem divideWithHalfUp_eq (numerator : ℤ) {denominator : ℤ} (positive : 0 < denominator) :
    divideWithHalfUp numerator denominator = roundAway (numerator / denominator : ℚ) := by
  have onNonneg : ∀ n : ℤ, 0 ≤ n → divideWithHalfUp n denominator =
      roundAway (n / denominator : ℚ) := by
    intro n nonneg
    have remains := Int.emod_nonneg n positive.ne'
    have noSign : ¬ n % denominator < 0 := not_lt.mpr remains
    have above : ¬ denominator < 0 := not_lt.mpr positive.le
    rw [roundAway_div nonneg positive]
    simp only [divideWithHalfUp, Int.tdiv_eq_ediv_of_nonneg nonneg,
      Int.tmod_eq_emod_of_nonneg nonneg, if_neg noSign, if_neg above, if_pos nonneg]
    split_ifs <;> omega
  grind [divideWithHalfUp_neg, roundAway_neg]

/-! ### Converting -/

def parsedRate (rate : DecimalLiteral) : DecimalValue where
  int := (if rate.negative then -1 else 1) * (valueOf (rate.integer ++ rate.decimals) : ℤ)
  scale := rate.decimals.length

theorem parsedRate_value (rate : DecimalLiteral) :
    ((parsedRate rate).int : ℚ) = rate.value * 10 ^ (parsedRate rate).scale := by
  show _ = rate.value * 10 ^ rate.decimals.length
  rw [rate.value_eq]
  unfold parsedRate
  cases rate.negative <;> simp

theorem parseDecimal_rate (rate : DecimalLiteral) :
    parseDecimal rate.text = .ok (parsedRate rate) := parseDecimal_text rate

theorem toMinorUnitsFromString_text (literal : DecimalLiteral) (currency : Currency) :
    toMinorUnitsFromString literal.text currency = .ok (roundAway
        (literal.value * 10 ^ getCurrencyPrecision currency)) := by
  have read := parsedRate_value literal
  rw [toMinorUnitsFromString, parseDecimal_rate]
  simp only [bind, Except.bind]
  generalize parsedRate literal = decimal at read ⊢
  rcases le_or_gt decimal.scale (getCurrencyPrecision currency) with
    fits | longer
  · obtain ⟨spare, total⟩ := Nat.exists_eq_add_of_le fits
    have exponent : (getCurrencyPrecision currency : ℤ) - decimal.scale =
        spare := by omega
    have counted : literal.value * 10 ^ getCurrencyPrecision currency =
        ((decimal.int * 10 ^ spare : ℤ) : ℚ) := by simp_all [pow_add, mul_assoc]
    rw [exponent, if_pos (Int.natCast_nonneg spare), pow10_natCast, counted, roundAway_intCast]
    rfl
  · obtain ⟨spare, total⟩ := Nat.exists_eq_add_of_lt longer
    have negative : ¬ (getCurrencyPrecision currency : ℤ) - decimal.scale ≥
        0 := by omega
    have exponent : -((getCurrencyPrecision currency : ℤ) - decimal.scale) = (spare + 1 : ℕ) := by
      omega
    have counted : literal.value * 10 ^ getCurrencyPrecision currency =
        (decimal.int / ((10 ^ (spare + 1) : ℤ) : ℚ) : ℚ) := by
      have length : decimal.scale = getCurrencyPrecision currency + (spare + 1) := by omega
      rw [read, length, pow_add]
      push_cast
      field_simp
    rw [if_neg negative, exponent, pow10_natCast, divideWithHalfUp_eq _ (by positivity), counted]
    rfl

theorem value_of_text {first second : DecimalLiteral}
    (same : first.text = second.text) : first.value = second.value := by
  have parsed : parsedRate first = parsedRate second := by grind [parseDecimal_rate]
  have scaled := parsedRate_value first
  rw [parsed, parsedRate_value second] at scaled
  exact (mul_right_cancel₀ (by positivity) scaled).symm

theorem multipliers_eq (exponent : ℤ) :
    ((if exponent ≥ 0 then pow10 exponent else 1 : ℤ) : ℚ) /
        ((if exponent < 0 then pow10 (-exponent) else 1 : ℤ) : ℚ) = 10 ^ exponent := by
  rcases le_or_gt 0 exponent with nonneg | negative
  · obtain ⟨power, rfl⟩ := Int.eq_ofNat_of_zero_le nonneg
    simp_all [if_neg, pow10_natCast]
  · obtain ⟨power, same⟩ := Int.eq_ofNat_of_zero_le (by omega : 0 ≤ -exponent)
    rw [if_neg (not_le.mpr negative), if_pos negative, same, pow10_natCast]
    have flipped : exponent = -(power : ℤ) := by omega
    rw [flipped, zpow_neg]
    simp

def convertedExactly (sourceMinor : ℤ) (sourceRate targetRate : ℚ)
    (sourceCurrency targetCurrency : Currency) : ℚ := sourceMinor * (sourceRate / targetRate) *
    10 ^ ((getCurrencyPrecision targetCurrency : ℤ) - getCurrencyPrecision sourceCurrency)

section

variable {rates : Rates} {sourceCurrency targetCurrency : Currency}
  {sourceRate targetRate : DecimalLiteral}

/-- The exponent of the power of ten by which the rates and the minor units
are apart. -/
def conversionExponent (sourceRate targetRate : DecimalLiteral)
    (sourceCurrency targetCurrency : Currency) : ℤ :=
  (parsedRate targetRate).scale + getCurrencyPrecision targetCurrency -
    getCurrencyPrecision sourceCurrency - (parsedRate sourceRate).scale

theorem quotient_eq (positive : targetRate.value ≠ 0) (sourceMinor : ℤ)
    (sourceCurrency targetCurrency : Currency) {exponent : ℤ}
    (same : exponent = conversionExponent sourceRate targetRate sourceCurrency targetCurrency) :
    ((sourceMinor * (parsedRate sourceRate).int *
          (if exponent ≥ 0 then pow10 exponent else 1) : ℤ) : ℚ) / (((parsedRate targetRate).int *
          (if exponent < 0 then pow10 (-exponent) else 1) : ℤ) : ℚ) =
      convertedExactly sourceMinor sourceRate.value targetRate.value
        sourceCurrency targetCurrency := by
  have ten : (10 : ℚ) ≠ 0 := by norm_num
  rw [Int.cast_mul, Int.cast_mul, Int.cast_mul, mul_div_mul_comm,
    multipliers_eq, parsedRate_value, parsedRate_value, same, conversionExponent, convertedExactly]
  rw [zpow_sub₀ ten, zpow_sub₀ ten, zpow_add₀ ten, zpow_sub₀ ten]
  simp only [zpow_natCast]
  field_simp

theorem convertMinorUnits_eq (source : rates sourceCurrency = sourceRate.text)
    (target : rates targetCurrency = targetRate.text)
    (positive : 0 < targetRate.value) (sourceMinor : ℤ) :
    convertMinorUnits (.ok rates) sourceMinor sourceCurrency targetCurrency =
      .ok (roundAway (convertedExactly sourceMinor sourceRate.value
        targetRate.value sourceCurrency targetCurrency)) := by
  have read : 0 < (parsedRate targetRate).int := by
    have scaled : (0 : ℚ) < (parsedRate targetRate).int := by
      rw [parsedRate_value]
      positivity
    exact_mod_cast scaled
  have denominator : ∀ exponent : ℤ, 0 < (parsedRate targetRate).int *
      (if exponent < 0 then pow10 (-exponent) else 1) := by
    intro exponent
    apply Int.mul_pos read
    split
    · exact pow10_pos _
    · exact Int.one_pos
  simp only [convertMinorUnits, source, target, parseDecimal_rate, bind, Except.bind]
  rw [if_neg (denominator _).ne', divideWithHalfUp_eq _ (denominator _)]
  exact congrArg (fun amount => Except.ok (roundAway amount))
    (quotient_eq positive.ne' sourceMinor _ _ rfl)

theorem convertMinorUnits_zero (source : rates sourceCurrency = sourceRate.text)
    (target : rates targetCurrency = targetRate.text)
    (zero : targetRate.value = 0) (sourceMinor : ℤ) :
    convertMinorUnits (.ok rates) sourceMinor sourceCurrency targetCurrency =
      .error (.badRequest "Invalid conversion rate configuration.") := by
  have read : (parsedRate targetRate).int = 0 := by
    have scaled := parsedRate_value targetRate
    rw [zero, zero_mul] at scaled
    exact_mod_cast scaled
  simp only [convertMinorUnits, source, target, parseDecimal_rate, bind,
    Except.bind, read, zero_mul, if_true]
  rfl

theorem convertedExactly_neg (sourceMinor : ℤ) (source target : ℚ) :
    convertedExactly (-sourceMinor) source target sourceCurrency targetCurrency =
      -convertedExactly sourceMinor source target sourceCurrency
        targetCurrency := by
  unfold convertedExactly
  push_cast
  ring

theorem convertedExactly_mono {source target : ℚ} (nonneg : 0 ≤ source)
    (positive : 0 < target) {first second : ℤ} (le : first ≤ second) :
    convertedExactly first source target sourceCurrency targetCurrency ≤
      convertedExactly second source target sourceCurrency
        targetCurrency := by
  unfold convertedExactly
  have power : (0 : ℚ) ≤ 10 ^ ((getCurrencyPrecision targetCurrency : ℤ) -
      getCurrencyPrecision sourceCurrency) := zpow_nonneg (by norm_num) _
  gcongr

theorem convertedExactly_same {rate : ℚ} (positive : 0 < rate)
    (sourceMinor : ℤ) (currency : Currency) :
    convertedExactly sourceMinor rate rate currency currency =
      sourceMinor := by grind [convertedExactly]

end

/-- With rates that are not negative: a conversion to a positive rate is the
exact one, rounded with ties away from zero; to the same currency it changes
nothing; it keeps the order and the sign; and it refuses the rate zero, and
that rate only. -/
theorem conversion_exact {rates : Rates} {sourceCurrency targetCurrency : Currency}
    {sourceRate targetRate : DecimalLiteral} (source : rates sourceCurrency = sourceRate.text)
    (target : rates targetCurrency = targetRate.text) (sourceNonneg : 0 ≤ sourceRate.value)
    (targetNonneg : 0 ≤ targetRate.value) :
    let convert := fun sourceMinor =>
      convertMinorUnits (.ok rates) sourceMinor sourceCurrency targetCurrency
    (0 < targetRate.value → ∀ sourceMinor, convert sourceMinor = .ok (roundAway (sourceMinor *
          (sourceRate.value / targetRate.value) * 10 ^ ((getCurrencyPrecision targetCurrency : ℤ) -
              getCurrencyPrecision sourceCurrency)))) ∧
      (0 < targetRate.value → sourceCurrency = targetCurrency →
        ∀ sourceMinor, convert sourceMinor = .ok sourceMinor) ∧
      (∀ first second minor later, first ≤ second →
        convert first = .ok minor → convert second = .ok later → minor ≤ later) ∧
      (∀ sourceMinor minor, convert sourceMinor = .ok minor →
        convert (-sourceMinor) = .ok (-minor)) ∧ ∀ sourceMinor, (∃ message,
        convert sourceMinor = .error (.badRequest message)) ↔ targetRate.value = 0 := by
  intro convert
  have exact := fun positive => convertMinorUnits_eq source target positive
  have zero := convertMinorUnits_zero source target
  have above : ∀ {sourceMinor minor}, convert sourceMinor = .ok minor → 0 < targetRate.value := by
    intro sourceMinor minor done
    rcases targetNonneg.eq_or_lt with none | positive
    · rw [show convert sourceMinor = _ from zero none.symm sourceMinor] at done
      cases done
    · exact positive
  refine ⟨exact, ?_, ?_, ?_, ?_⟩
  · rintro positive rfl sourceMinor
    have same := value_of_text (source.symm.trans target)
    rw [show convert sourceMinor = _ from exact positive sourceMinor, same,
      convertedExactly_same positive, roundAway_intCast]
  · intro first second minor later le done doneLater
    have positive := above done
    rw [show convert first = _ from exact positive first] at done
    rw [show convert second = _ from exact positive second] at doneLater
    cases done
    cases doneLater
    exact roundAway_mono (convertedExactly_mono sourceNonneg positive le)
  · intro sourceMinor minor done
    have positive := above done
    rw [show convert sourceMinor = _ from exact positive sourceMinor] at done
    cases done
    rw [show convert (-sourceMinor) = _ from exact positive _, convertedExactly_neg, roundAway_neg]
  · intro sourceMinor
    constructor
    · rintro ⟨message, refused⟩
      by_contra nonzero
      have positive := targetNonneg.lt_of_ne (Ne.symm nonzero)
      rw [show convert sourceMinor = _ from exact positive _] at refused
      cases refused
    · intro none
      exact ⟨_, zero none sourceMinor⟩

def eighthRate : DecimalLiteral where
  negative := false
  integer := ['0']
  fraction := some ['1', '2', '5']
  integer_digits := by simp [AllDigits]
  fraction_digits := by simp [AllDigits]

def unitRate : DecimalLiteral where
  negative := false
  integer := ['1']
  fraction := none
  integer_digits := by simp [AllDigits]
  fraction_digits := by simp [AllDigits]

theorem eighthRate_value : eighthRate.value = 1 / 8 := by
  have digits : valueOf eighthRate.decimals = 125 := by decide
  have length : eighthRate.decimals.length = 3 := rfl
  have whole : valueOf eighthRate.integer = 0 := by decide
  have sign : eighthRate.negative = false := rfl
  rw [DecimalLiteral.value, digits, length, whole, sign]
  norm_num

theorem unitRate_value : unitRate.value = 1 := by
  have digits : valueOf unitRate.decimals = 0 := by decide
  have whole : valueOf unitRate.integer = 1 := by decide
  have sign : unitRate.negative = false := rfl
  rw [DecimalLiteral.value, digits, whole, sign]
  norm_num

def sampleRates : Rates
  | .XLM => "0.125"
  | .USDC | .USD => "1"

/-- A lumen is worth 12.5 cents, which is rounded to 13. -/
theorem lumen_to_cents :
    convertMinorUnits (.ok sampleRates) 10000000 .XLM .USD = .ok 13 := by
  have exact := (@conversion_exact sampleRates .XLM .USD eighthRate unitRate
    (by decide) (by decide) (by rw [eighthRate_value]; norm_num)
    (by rw [unitRate_value]; norm_num)).1
  have converted := exact (by rw [unitRate_value]; norm_num) 10000000
  refine converted.trans (congrArg Except.ok ?_)
  have amount : ((10000000 : ℤ) : ℚ) * (eighthRate.value / unitRate.value) *
      10 ^ ((getCurrencyPrecision .USD : ℤ) - getCurrencyPrecision .XLM) = (12 : ℕ) + 1 / 2 := by
    rw [eighthRate_value, unitRate_value]
    norm_num [getCurrencyPrecision, precisionByCurrency]
  rw [amount, roundAway_tie]
  rfl

open Effects Numerals PricingService

/-- A positive rate for every currency, each as a decimal text. -/
structure DecimalRates where
  rate : Currency → DecimalLiteral
  positive : ∀ currency, 0 < (rate currency).value

namespace DecimalRates

variable (rates : DecimalRates)

/-- The rates as the service holds them. -/
def texts : Rates := fun currency => (rates.rate currency).text

def value (currency : Currency) : ℚ := (rates.rate currency).value

theorem value_pos (currency : Currency) : 0 < rates.value currency := rates.positive currency

/-- What a minor unit of the one currency is worth in minor units of the
other. -/
def factor (source target : Currency) : ℚ := rates.value source / rates.value target *
    10 ^ ((getCurrencyPrecision target : ℤ) - getCurrencyPrecision source)

theorem factor_pos (source target : Currency) :
    0 < rates.factor source target :=
  mul_pos (div_pos (rates.value_pos source) (rates.value_pos target)) (zpow_pos (by norm_num) _)

theorem factor_inv (source target : Currency) :
    rates.factor target source = (rates.factor source target)⁻¹ := by
  have swapped : (getCurrencyPrecision source : ℤ) - getCurrencyPrecision target =
        -((getCurrencyPrecision target : ℤ) - getCurrencyPrecision source) := by ring
  rw [factor, factor, mul_inv, inv_div, swapped, zpow_neg]

theorem convertMinorUnits_factor (sourceMinor : ℤ) (source target : Currency) :
    convertMinorUnits (.ok rates.texts) sourceMinor source target =
      .ok (roundAway (sourceMinor * rates.factor source target)) := by
  rw [convertMinorUnits_eq rfl rfl (rates.positive target), factor, ← mul_assoc]
  rfl

end DecimalRates

/-! ### There and back -/

/-- A conversion there and back under the same rates moves an amount by a half
and half of a target unit at most, and not at all where the target unit is the
smaller one. -/
theorem conversion_round_trip (rates : DecimalRates) (A B : Currency) (n : ℤ) :
    let r : ℚ := rates.value A / rates.value B *
      10 ^ ((getCurrencyPrecision B : ℤ) - getCurrencyPrecision A)
    ∃ minor back : ℤ, convertMinorUnits (.ok rates.texts) n A B = .ok minor ∧
        convertMinorUnits (.ok rates.texts) minor B A = .ok back ∧
        |(back : ℚ) - n| ≤ 1 / 2 + 1 / (2 * r) ∧
        (1 < r → back = n) := by
  intro r
  have positive : 0 < r := rates.factor_pos A B
  have near := roundAway_back n positive
  refine ⟨roundAway (n * r), roundAway (roundAway (n * r) / r),
    rates.convertMinorUnits_factor n A B, ?_, near, ?_⟩
  · rw [rates.convertMinorUnits_factor, rates.factor_inv, ← div_eq_mul_inv]
    rfl
  · intro finer
    apply eq_of_near (α := ℚ)
    have half : 1 / (2 * r) < 1 / 2 := by
      rw [div_lt_div_iff₀ (by positivity) two_pos]
      linarith
    linarith

/-! ### Totals -/

/-- An item with a decimal text as its price. -/
structure DecimalItem where
  price : DecimalLiteral
  currency : Currency
  quantity : ℕ

namespace DecimalItem

variable (item : DecimalItem)

def priced : PricedItem where
  price := .string item.price.text
  currency := item.currency
  quantity := item.quantity

/-- The price, rounded to the minor units of its own currency. -/
def sourceMinor : ℤ := roundAway (item.price.value * 10 ^ getCurrencyPrecision item.currency)

/-- The price in minor units of the target, which is rounded for each unit. -/
def convertedMinor (rates : DecimalRates) (target : Currency) : ℤ :=
  roundAway (item.sourceMinor * rates.factor item.currency target)

end DecimalItem

section

variable (rates : DecimalRates) (target : Currency)

/-- What `calculateOrderTotal` returns, read back in minor units. -/
def orderTotalMinor (items : List DecimalItem) : Except HttpException ℤ := do
  let total ← calculateOrderTotal (.ok rates.texts) (items.map DecimalItem.priced) target
  toMinorUnitsFromString total target

def convertedSum (items : List DecimalItem) : ℤ :=
  (items.map fun item => item.convertedMinor rates target * (item.quantity : ℤ)).sum

/-- The total without any rounding to minor units of the target. -/
def exactSum (items : List DecimalItem) : ℚ :=
  (items.map fun item => item.sourceMinor * rates.factor item.currency target * item.quantity).sum

def quantitySum (items : List DecimalItem) : ℕ :=
  (items.map DecimalItem.quantity).sum

theorem foldlM_converted (items : List DecimalItem) (start : ℤ) :
    (items.map DecimalItem.priced).foldlM (fun totalMinor item => do
        let sourceMinor ← sourceMinorUnits item.price item.currency
        let convertedMinor ← convertMinorUnits (.ok rates.texts) sourceMinor item.currency target
        pure (totalMinor + convertedMinor * item.quantity)) start =
      (.ok (start + convertedSum rates target items) :
        Except HttpException ℤ) := by
  induction items generalizing start with
  | nil => exact congrArg Except.ok (add_zero start).symm
  | cons item items ih =>
    have counted : sourceMinorUnits item.priced.price item.priced.currency =
        .ok item.sourceMinor := toMinorUnitsFromString_text item.price item.currency
    have converted := rates.convertMinorUnits_factor item.sourceMinor item.currency target
    have sum : convertedSum rates target (item :: items) =
        item.convertedMinor rates target * item.quantity +
          convertedSum rates target items := by rfl
    rw [List.map_cons, List.foldlM_cons, sum, ← add_assoc]
    exact bind_eq_ok.mpr ⟨_, bind_eq_ok.mpr ⟨_, counted, bind_eq_ok.mpr ⟨_, converted, rfl⟩⟩, ih _⟩

theorem orderTotalMinor_eq (items : List DecimalItem) :
    orderTotalMinor rates target items =
      .ok (convertedSum rates target items) := by
  have positive := getCurrencyPrecision_pos target
  rw [orderTotalMinor, calculateOrderTotal, foldlM_converted, zero_add]
  simp_all [bind, Except.bind, fromMinorUnits_text, toMinorUnitsFromString_text, value_minorLiteral]

theorem order_total_error (items : List DecimalItem) :
    |(convertedSum rates target items : ℚ) - exactSum rates target items| ≤
      1 / 2 * quantitySum items := by
  induction items with
  | nil => simp [convertedSum, exactSum, quantitySum]
  | cons item items ih =>
    have each := roundAway_error ((item.sourceMinor : ℚ) * rates.factor item.currency target)
    have apart : (convertedSum rates target (item :: items) : ℚ) -
        exactSum rates target (item :: items) = (item.convertedMinor rates target -
            item.sourceMinor * rates.factor item.currency target) * item.quantity +
          (convertedSum rates target items -
            exactSum rates target items) := by
      simp only [convertedSum, exactSum, List.map_cons, List.sum_cons]
      push_cast
      ring
    have first : |((item.convertedMinor rates target : ℚ) -
          item.sourceMinor * rates.factor item.currency target) *
            item.quantity| ≤ 1 / 2 * item.quantity := by
      rw [abs_mul, Nat.abs_cast, abs_sub_comm]
      exact mul_le_mul_of_nonneg_right each (Nat.cast_nonneg _)
    have sum : (quantitySum (item :: items) : ℚ) =
        item.quantity + quantitySum items := by simp [quantitySum]
    grind

end

/-- The total of an order in minor units is always defined.  It does not
depend on the order of the items, adds up over concatenation and over an item
that is split in two, and is off by half a unit of the target at most for
each unit of quantity. -/
theorem order_totals (rates : DecimalRates) (target : Currency) :
    ∃ total : List DecimalItem → ℤ,
      (∀ items, orderTotalMinor rates target items = .ok (total items)) ∧
      (∀ items others, items.Perm others → total items = total others) ∧
      (∀ items others, total (items ++ others) = total items + total others) ∧
      (∀ before after price currency first second,
        total (before ++ ⟨price, currency, first + second⟩ :: after) =
          total (before ++ ⟨price, currency, first⟩ :: ⟨price, currency, second⟩ :: after)) ∧
      ∀ items : List DecimalItem,
        |(total items : ℚ) - (items.map fun item =>
          (roundAway (item.price.value * 10 ^ getCurrencyPrecision item.currency) : ℚ) *
          (rates.value item.currency / rates.value target *
            10 ^ ((getCurrencyPrecision target : ℤ) - getCurrencyPrecision item.currency)) *
          item.quantity).sum| ≤
          1 / 2 * ((items.map DecimalItem.quantity).sum : ℕ) := by
  refine ⟨convertedSum rates target, orderTotalMinor_eq rates target,
    ?_, ?_, ?_, order_total_error rates target⟩
  · intro items others permuted
    exact (permuted.map _).sum_eq
  · intro items others
    rw [convertedSum, List.map_append, List.sum_append]
    rfl
  · intro before after price currency first second
    simp only [convertedSum, List.map_append, List.map_cons, List.sum_append, List.sum_cons]
    show _ + (_ * ((first + second : ℕ) : ℤ) + _) = _ + (_ * (first : ℤ) + (_ * (second : ℤ) + _))
    rw [Nat.cast_add, mul_add, add_assoc]
    rfl

def eighthRates : DecimalRates where
  rate
    | .XLM => eighthRate
    | .USDC | .USD => unitRate
  positive currency := by
    have eighth : 0 < eighthRate.value := by
      rw [eighthRate_value]
      norm_num
    have unit : 0 < unitRate.value := by
      rw [unitRate_value]
      norm_num
    cases currency <;> assumption

/-- Two lumens at 13 cents each: the cents are rounded before they are
added. -/
example : orderTotalMinor eighthRates .USD [⟨unitRate, .XLM, 2⟩] = .ok 26 := by decide

end MarketX.Products
