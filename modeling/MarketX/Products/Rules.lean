/-
Module: MarketX.Products.Rules
Purpose: The pricing service reads every decimal literal of its currency's
  precision exactly; when a conversion throws, what an accepted price is stored
  as, and what each call leaves in the catalogue.
Trusted boundary: none
Main exports: parseDecimal_text, parseDecimal_exponent, decimal_round_trip, Converts
-/
import MarketX.Effects.Throwing
import MarketX.Products.ProductsService

namespace MarketX.Products

open Numerals PricingService

/-! ### Reading -/

/-- The service finds the two lists of digits on the two sides of the
point. -/
theorem splitOn_unsigned (literal : DecimalLiteral) :
    (literal.unsigned.splitOn '.').headD [] = literal.integer ∧
      (literal.unsigned.splitOn '.').tail.headD [] = literal.decimals := by
  have inInteger := literal.integer_digits.not_mem (c := '.') rfl
  have inFraction := literal.fraction_digits.not_mem (c := '.') rfl
  cases shape : literal.fraction <;> simp_all [DecimalLiteral.unsigned, List.splitOn_eq_singleton,
    DecimalLiteral.decimals, List.splitOn_append_cons_self_of_not_mem]

theorem sign_text (literal : DecimalLiteral) :
    (literal.text.toList.head? = some '-' ↔ literal.negative = true) ∧
      (if literal.negative = true then literal.text.toList.tail
        else literal.text.toList) = literal.unsigned := by
  have noSign := literal.not_mem_unsigned (c := '-') rfl (by decide)
  cases shape : literal.negative with
  | true => simp [DecimalLiteral.text, shape]
  | false =>
    simp only [DecimalLiteral.text, shape, Bool.false_eq_true, if_false,
      List.nil_append, String.toList_ofList, iff_false, and_true]
    intro found
    exact noSign (List.mem_of_mem_head? found)

/-- `BigInt` of the stripped digits is the number they stand for, and a
missing integer part counts as zero. -/
theorem bigInt_combined {integer decimals : List Char}
    (first : AllDigits integer) (second : AllDigits decimals) :
    bigInt (if stripZeros ((if integer = [] then ['0'] else integer) ++ decimals) = [] then
          ['0']
        else
          stripZeros ((if integer = [] then ['0'] else integer) ++ decimals)) =
      .ok (valueOf (integer ++ decimals) : ℤ) := by
  have started : (if integer = [] then ['0'] else integer) ≠ [] := by
    split <;> simp_all
  have digits : AllDigits (if integer = [] then ['0'] else integer) := by
    split
    · intro c member
      rw [List.mem_singleton.mp member]
      rfl
    · exact first
  have value :
      valueOf ((if integer = [] then ['0'] else integer) ++ decimals) =
        valueOf (integer ++ decimals) := by grind [valueOf_zero_cons]
  have nonempty := stripZeros_ne_nil (List.append_ne_nil_of_left_ne_nil started decimals)
  rw [if_neg nonempty, bigInt, bigInt?_digits (digits.append second).stripZeros nonempty,
    valueOf_stripZeros, value]

theorem parseDecimal_text (literal : DecimalLiteral) :
    parseDecimal literal.text = .ok
        { int := (if literal.negative then -1 else 1) *
            (valueOf (literal.integer ++ literal.decimals) : ℤ)
          scale := literal.decimals.length } := by
  obtain ⟨sign, unsigned⟩ := sign_text literal
  obtain ⟨front, back⟩ := splitOn_unsigned literal
  have read := bigInt_combined literal.integer_digits literal.fraction_digits
  simp only [parseDecimal, sign, unsigned, front, back]
  rw [show literal.fraction.getD [] = literal.decimals from rfl] at read
  simp_all

theorem getScale_text (literal : DecimalLiteral) :
    getScale literal.text = literal.decimals.length := by
  obtain ⟨_, back⟩ := splitOn_unsigned literal
  cases shape : literal.negative with
  | false => simp_all [getScale, DecimalLiteral.text]
  | true =>
    have inInteger := literal.integer_digits.not_mem (c := '.') rfl
    have inFraction := literal.fraction_digits.not_mem (c := '.') rfl
    cases fraction : literal.fraction with
    | none =>
      simp_all [DecimalLiteral.text, DecimalLiteral.unsigned, getScale, List.splitOn_eq_singleton]
    | some digits =>
      have text : literal.text.toList = ('-' :: literal.integer) ++ '.' :: digits := by
        simp [DecimalLiteral.text, DecimalLiteral.unsigned, shape, fraction]
      grind [getScale, List.splitOn_append_cons_self_of_not_mem, List.splitOn_eq_singleton,
        DecimalLiteral.decimals]

variable {sign : Char} {exponent : List Char} {precision : ℕ} {rates : Rates} {text : String}
  {x : ℚ}

/-- Split at the point and put together again, a literal with an exponent is
digits with that exponent. -/
theorem splitOn_exponent (literal : DecimalLiteral) (signed : sign = '+' ∨ sign = '-')
    (digits : AllDigits exponent) :
    let parts :=
      (literal.unsigned ++ 'e' :: sign :: exponent).splitOn '.'
    ∃ front, AllDigits front ∧ (if parts.headD [] = [] then ['0'] else parts.headD []) ++
          parts.tail.headD [] = front ++ 'e' :: sign :: exponent := by
  have inInteger := literal.integer_digits.not_mem (c := '.') rfl
  have inFraction := literal.fraction_digits.not_mem (c := '.') rfl
  have behind : '.' ∉ 'e' :: sign :: exponent := by
    have inExponent := digits.not_mem (c := '.') rfl
    rcases signed with rfl | rfl <;> simp [inExponent]
  intro parts
  cases shape : literal.fraction with
  | none =>
    have unsigned : literal.unsigned = literal.integer := by simp [DecimalLiteral.unsigned, shape]
    have one : parts = [literal.integer ++ 'e' :: sign :: exponent] := by
      grind [List.splitOn_eq_singleton]
    refine ⟨literal.integer, literal.integer_digits, ?_⟩
    simp [one]
  | some fraction =>
    have unsigned : literal.unsigned = literal.integer ++ '.' :: fraction := by
      simp [DecimalLiteral.unsigned, shape]
    have two : parts = [literal.integer, fraction ++ 'e' :: sign :: exponent] := by
      grind [List.splitOn_append_cons_self_of_not_mem, List.splitOn_eq_singleton]
    have all : AllDigits fraction := by
      have := literal.fraction_digits
      rwa [shape] at this
    have started :
        AllDigits (if literal.integer = [] then ['0'] else literal.integer) := by
      split
      · simp [AllDigits]
      · exact literal.integer_digits
    refine ⟨_, started.append all, ?_⟩
    simp [two]

theorem parseDecimal_exponent (literal : DecimalLiteral) (signed : sign = '+' ∨ sign = '-')
    (digits : AllDigits exponent) :
    ∃ message, parseDecimal (String.ofList (literal.text.toList ++ 'e' :: sign :: exponent)) =
        .error (.error message) := by
  have noSign := literal.not_mem_unsigned (c := '-') rfl (by decide)
  have clean :
      let text := literal.text.toList ++ 'e' :: sign :: exponent
      (if text.head? = some '-' then text.tail else text) =
        literal.unsigned ++ 'e' :: sign :: exponent := by
    cases shape : literal.negative with
    | true => simp [DecimalLiteral.text, shape]
    | false =>
      have text : literal.text.toList = literal.unsigned := by simp [DecimalLiteral.text, shape]
      have first : (literal.unsigned ++ 'e' :: sign :: exponent).head? ≠ some '-' := by
        cases front : literal.unsigned <;> grind
      simp only [text, first, if_false]
  obtain ⟨front, all, joined⟩ := splitOn_exponent literal signed digits
  obtain ⟨left, leftDigits, stripped⟩ := stripZeros_exponent all (sign :: exponent)
  simp_all [bigInt, bigInt?_exponent, parseDecimal]

theorem pow10_natCast (power : ℕ) : pow10 power = 10 ^ power := by simp_all [pow10]

theorem value_scaled (literal : DecimalLiteral) (spare : ℕ) :
    literal.value * 10 ^ (literal.decimals.length + spare) =
      (((if literal.negative then -1 else 1) *
        (valueOf (literal.integer ++ literal.decimals) : ℤ) * 10 ^ spare : ℤ) :
          ℚ) := by
  rw [pow_add, ← mul_assoc, literal.value_eq]
  cases literal.negative <;> simp

/-- No rounding: within the precision of the currency the minor units are the
number denoted, scaled. -/
theorem toMinorUnits_exact (literal : DecimalLiteral) (currency : Currency)
    (precise : literal.decimals.length ≤ getCurrencyPrecision currency) :
    ∃ minor : ℤ, toMinorUnitsString literal.text currency = .ok (toString minor) ∧ (minor : ℚ) =
          literal.value * 10 ^ getCurrencyPrecision currency := by
  obtain ⟨spare, total⟩ := Nat.exists_eq_add_of_le precise
  refine ⟨(if literal.negative then -1 else 1) *
    (valueOf (literal.integer ++ literal.decimals) : ℤ) * 10 ^ spare, ?_, ?_⟩
  · have exponent :
        (getCurrencyPrecision currency : ℤ) - literal.decimals.length =
          spare := by omega
    simp only [toMinorUnitsString, toMinorUnitsFromString,
      parseDecimal_text literal, bind, Except.bind, exponent]
    rw [if_pos (Int.natCast_nonneg spare), pow10_natCast]
    rfl
  · rw [total, value_scaled]

/-! ### Writing -/

theorem getCurrencyPrecision_pos (currency : Currency) :
    0 < getCurrencyPrecision currency := by
  cases currency <;> decide

/-- The literal the service writes minor units as: the integer part, and the
fraction padded to the precision. -/
def minorLiteral (n : ℤ) (precision : ℕ) : DecimalLiteral where
  negative := decide (n < 0)
  integer := Nat.toDigits 10 (n.natAbs / 10 ^ precision)
  fraction := some ((Nat.toDigits 10 (n.natAbs % 10 ^ precision)).leftpad precision '0')
  integer_digits := allDigits_toDigits _
  fraction_digits := (allDigits_toDigits _).leftpad _

theorem length_minorLiteral (n : ℤ) (positive : 0 < precision) :
    (minorLiteral n precision).decimals.length = precision :=
  length_leftpad_toDigits positive (Nat.mod_lt _ (Nat.pow_pos (by decide)))

theorem valueOf_minorLiteral (n : ℤ) (positive : 0 < precision) :
    valueOf ((minorLiteral n precision).integer ++
      (minorLiteral n precision).decimals) = n.natAbs := by
  rw [valueOf_append, length_minorLiteral n positive]
  show valueOf (Nat.toDigits 10 _) * _ + valueOf ((Nat.toDigits 10 _).leftpad precision '0') = _
  grind [valueOf_leftpad, valueOf_toDigits, Nat.div_add_mod']

theorem value_minorLiteral (n : ℤ) (positive : 0 < precision) :
    (minorLiteral n precision).value * 10 ^ precision = n := by
  have scaled := (minorLiteral n precision).value_eq
  rw [length_minorLiteral n positive, valueOf_minorLiteral n positive] at scaled
  simp_all [minorLiteral, abs_of_neg]

theorem toString_natCast (n : ℕ) :
    toString (n : ℤ) = String.ofList (Nat.toDigits 10 n) := Nat.toString_eq_ofList_toDigits

theorem fromMinorUnits_text (n : ℤ) (currency : Currency) :
    fromMinorUnitsToDecimalString (.bigint n) currency =
      .ok (minorLiteral n (getCurrencyPrecision currency)).text := by
  have positive := getCurrencyPrecision_pos currency
  simp only [fromMinorUnitsToDecimalString, pure_bind]
  generalize getCurrencyPrecision currency = precision at positive
  have absolute : (if n < 0 then -n else n) = (n.natAbs : ℤ) := by
    split <;> omega
  have base : pow10 precision = ((10 ^ precision : ℕ) : ℤ) := by
    rw [pow10_natCast]
    exact (Nat.cast_pow 10 precision).symm
  simp only [absolute, base, ← Int.ofNat_tdiv, ← Int.ofNat_tmod, if_pos positive, toString_natCast]
  apply congrArg Except.ok
  apply String.toList_inj.mp
  rw [DecimalLiteral.text, String.toList_ofList, DecimalLiteral.unsigned]
  by_cases below : n < 0
  · simp [below, minorLiteral]
  · simp [below, minorLiteral]

/-- Minor units survive being written and read, and every literal within the
precision is read as what it denotes. -/
theorem decimal_round_trip :
    (∀ (n : ℤ) (currency : Currency),
      (do let decimal ← fromMinorUnitsToDecimalString (.bigint n) currency
          toMinorUnitsString decimal currency) = .ok (toString n)) ∧
    ∀ (literal : DecimalLiteral) (currency : Currency),
      literal.decimals.length ≤ getCurrencyPrecision currency → ∃ minor : ℤ,
          toMinorUnitsString literal.text currency = .ok (toString minor) ∧ (minor : ℚ) =
              literal.value * 10 ^ getCurrencyPrecision currency := by
  constructor
  · intro n currency
    have positive := getCurrencyPrecision_pos currency
    obtain ⟨minor, read, denoted⟩ := toMinorUnits_exact
      (minorLiteral n (getCurrencyPrecision currency)) currency (length_minorLiteral n positive).le
    rw [value_minorLiteral n positive] at denoted
    have same : minor = n := by exact_mod_cast denoted
    simp only [fromMinorUnits_text, bind, Except.bind]
    rw [read, same]
  · intro literal currency precise
    exact toMinorUnits_exact literal currency precise

/-- A negative literal without an integer part, with a trailing zero. -/
theorem seven_tenths_exact :
    ∃ minor : ℤ, toMinorUnitsString "-.70" .USD = .ok (toString minor) ∧
        (minor : ℚ) = -7 / 10 * 10 ^ 2 := by
  let literal : DecimalLiteral :=
    { negative := true
      integer := []
      fraction := some ['7', '0']
      integer_digits := by simp [AllDigits]
      fraction_digits := by simp [AllDigits] }
  obtain ⟨minor, read, denoted⟩ := decimal_round_trip.2 literal .USD (by decide)
  refine ⟨minor, read, denoted.trans ?_⟩
  have digits : valueOf literal.decimals = 70 := by decide
  have length : literal.decimals.length = 2 := rfl
  have whole : valueOf literal.integer = 0 := rfl
  have sign : literal.negative = true := rfl
  rw [DecimalLiteral.value, digits, length, whole, if_pos sign]
  norm_num [getCurrencyPrecision, precisionByCurrency]

open Effects Numerals PricingService ProductsService

/-! ### Conversions -/

/-- Every rate is read as a positive number. -/
def Rates.Positive (rates : Rates) : Prop := ∀ currency, ∃ decimal,
    parseDecimal (rates currency) = .ok decimal ∧ 0 < decimal.int

theorem pow10_pos (power : ℤ) : 0 < pow10 power := by
  unfold pow10
  split
  · exact Int.one_pos
  · exact Int.pow_pos (by decide)

theorem convertMinorUnits_succeeds (positive : rates.Positive)
    (sourceMinor : ℤ) (source target : Currency) :
    Succeeds (convertMinorUnits (.ok rates) sourceMinor source target) := by
  obtain ⟨sourceRate, sourceRead, _⟩ := positive source
  obtain ⟨targetRate, targetRead, above⟩ := positive target
  have multiplier : ∀ exponent : ℤ, 0 < (if exponent < 0 then pow10 (-exponent) else 1) := by
    intro exponent
    split
    · exact pow10_pos _
    · exact Int.one_pos
  have denominator : ∀ exponent : ℤ, targetRate.int *
      (if exponent < 0 then pow10 (-exponent) else 1) ≠ 0 :=
    fun exponent => (Int.mul_pos above (multiplier exponent)).ne'
  refine succeeds_bind.mpr ⟨rates, rfl, ?_⟩
  refine succeeds_bind.mpr ⟨sourceRate, sourceRead, ?_⟩
  refine succeeds_bind.mpr ⟨targetRate, targetRead, ?_⟩
  rw [if_neg (denominator _)]
  exact succeeds_pure _

theorem fromMinorUnits_succeeds (amountMinor : ℤ) (currency : Currency) :
    Succeeds (fromMinorUnits amountMinor currency) :=
  succeeds_bind.mpr ⟨_, fromMinorUnits_text amountMinor currency, succeeds_pure _⟩

theorem getConversionRate_succeeds (positive : rates.Positive) (source target : Currency) :
    Succeeds (getConversionRate (.ok rates) source target) := by
  unfold getConversionRate
  split
  · exact succeeds_pure _
  · obtain ⟨converted, done⟩ := convertMinorUnits_succeeds positive
      (pow10 (getCurrencyPrecision source)) source target
    exact succeeds_bind.mpr ⟨converted, done, fromMinorUnits_succeeds _ _⟩

/-- With these rates no conversion throws, save for what is wrong with the
amount itself. -/
structure Converts (liveRates : Except HttpException Rates) : Prop where
  convertMinorUnits : ∀ sourceMinor source target,
    Succeeds (convertMinorUnits liveRates sourceMinor source target)
  getConversionRate : ∀ source target, Succeeds (getConversionRate liveRates source target)
  convertAmount : ∀ amount source target, Succeeds (validateAmountForConversion amount source) →
      Succeeds (toMinorUnits amount source) →
        Succeeds (convertAmount liveRates amount source target)
  convertAmountToString : ∀ amount source target, Succeeds (sourceMinorUnits amount source) →
      Succeeds (convertAmountToString liveRates amount source target)
  calculateOrderTotal : ∀ (items : List PricedItem) target,
    (∀ item ∈ items, Succeeds (sourceMinorUnits item.price item.currency)) →
      Succeeds (calculateOrderTotal liveRates items target)

theorem converts_of_positive (positive : rates.Positive) :
    Converts (.ok rates) where
  convertMinorUnits := convertMinorUnits_succeeds positive
  getConversionRate := getConversionRate_succeeds positive
  convertAmount amount source target valid counted := by
    obtain ⟨_, validated⟩ := valid
    obtain ⟨minor, counted⟩ := counted
    refine succeeds_bind.mpr ⟨_, validated, ?_⟩
    split
    next same =>
        subst same
        exact succeeds_bind.mpr ⟨minor, counted, fromMinorUnits_succeeds _ _⟩
    next =>
        obtain ⟨converted, done⟩ := convertMinorUnits_succeeds positive minor source target
        exact succeeds_bind.mpr ⟨minor, counted, succeeds_bind.mpr
          ⟨converted, done, fromMinorUnits_succeeds _ _⟩⟩
  convertAmountToString amount source target counted := by
    obtain ⟨minor, counted⟩ := counted
    obtain ⟨converted, done⟩ := convertMinorUnits_succeeds positive minor source target
    exact succeeds_bind.mpr ⟨minor, counted, succeeds_bind.mpr
      ⟨converted, done, _, fromMinorUnits_text converted target⟩⟩
  calculateOrderTotal items target counted := by
    have each : ∀ item ∈ items, ∀ totalMinor : ℤ, Succeeds (do
        let sourceMinor ← sourceMinorUnits item.price item.currency
        let convertedMinor ← PricingService.convertMinorUnits (.ok rates)
          sourceMinor item.currency target
        pure (totalMinor + convertedMinor * item.quantity)) := by
      intro item member totalMinor
      obtain ⟨minor, counted⟩ := counted item member
      obtain ⟨converted, done⟩ := convertMinorUnits_succeeds positive minor item.currency target
      exact succeeds_bind.mpr ⟨minor, counted, succeeds_bind.mpr ⟨converted, done, succeeds_pure _⟩⟩
    obtain ⟨total, added⟩ := succeeds_foldlM each 0
    exact succeeds_bind.mpr ⟨total, added, _, fromMinorUnits_text total target⟩

theorem toMinorUnitsFromString_succeeds (currency : Currency) :
    Succeeds (toMinorUnitsFromString text currency) ↔
      Succeeds (parseDecimal text) := by
  unfold toMinorUnitsFromString
  rw [succeeds_bind]
  constructor
  · rintro ⟨decimal, read, _⟩
    exact ⟨decimal, read⟩
  · rintro ⟨decimal, read⟩
    grind [succeeds_pure]

theorem convertAmountToString_succeeds (positive : rates.Positive) {source target : Currency} :
    Succeeds (convertAmountToString (.ok rates) (.string text) source target) ↔
      Succeeds (parseDecimal text) := by
  rw [← toMinorUnitsFromString_succeeds source]
  constructor
  · rintro done
    obtain ⟨minor, read, _⟩ := succeeds_bind.mp done
    exact ⟨minor, read⟩
  · intro read
    exact (converts_of_positive positive).convertAmountToString (.string text) source target read

theorem toDisplayProduct_succeeds (positive : rates.Positive)
    {product : Product} {preferred : Option Currency} :
    Succeeds (toDisplayProduct (.ok rates) product preferred) ↔
      Succeeds (parseDecimal product.basePrice) := by
  unfold toDisplayProduct
  rw [succeeds_bind]
  constructor
  · rintro ⟨text, converted, _⟩
    exact (convertAmountToString_succeeds positive).mp ⟨text, converted⟩
  · intro read
    obtain ⟨text, converted⟩ :=
      (convertAmountToString_succeeds positive).mpr read
    obtain ⟨rate, found⟩ := getConversionRate_succeeds positive
      product.baseCurrency (preferred.getD product.baseCurrency)
    exact ⟨text, converted, succeeds_bind.mpr ⟨rate, found, succeeds_pure _⟩⟩

/-! ### Accepted prices -/

/-- The decimal string is read as exactly these minor units. -/
def ReadsBack (basePrice basePriceMinor : String) (currency : Currency) :
    Prop := ∃ decimal, parseDecimal basePrice = .ok decimal ∧
    decimal.scale ≤ getCurrencyPrecision currency ∧ basePriceMinor = toString
      (decimal.int * 10 ^ (getCurrencyPrecision currency - decimal.scale))

/-- What JavaScript writes of a finite number is a decimal literal, unless it
has an exponent. -/
theorem toText_plain (plain : 'e' ∉ (Number.finite x).toText.toList) :
    ∃ literal : DecimalLiteral, (Number.finite x).toText = literal.text := by
  obtain ⟨literal, same | ⟨sign, exponent, _, _,
    shape⟩⟩ := written_cases x <;> simp_all [Number.toText]

theorem toText_exponent (letter : 'e' ∈ (Number.finite x).toText.toList) :
    ¬ Succeeds (parseDecimal (Number.finite x).toText) := by
  obtain ⟨literal, same | ⟨sign, exponent, signed, digits, shape⟩⟩ := written_cases x
  · have text : (Number.finite x).toText = literal.text := same
    rw [text] at letter
    exact absurd letter (literal.not_mem_text rfl (by decide) (by decide))
  · have text : (Number.finite x).toText =
        String.ofList (literal.text.toList ++ 'e' :: sign :: exponent) :=
      congrArg String.ofList shape
    obtain ⟨message, thrown⟩ := parseDecimal_exponent literal signed digits
    rw [text]
    exact not_succeeds.mpr ⟨_, thrown⟩

theorem normalizeNumberString_plain {literal : DecimalLiteral}
    (same : (Number.finite x).toText = literal.text) :
    normalizeNumberString (.finite x) = .ok literal.text := by
  have small := literal.not_mem_text (c := 'e') rfl (by decide) (by decide)
  have large := literal.not_mem_text (c := 'E') rfl (by decide) (by decide)
  simp_all [normalizeNumberString, Number.isFinite]

/-- Only finite numbers are accepted.  What is stored of one is its text,
which reads back as the minor units unless it has an exponent. -/
theorem acceptPrice_ok {price : Number} {currency : Currency} {strings : String × String}
    (accepted : acceptPrice price currency = .ok strings) :
    ∃ x : ℚ, price = .finite x ∧ strings.1 = price.toText ∧ ('e' ∉ price.toText.toList →
        ReadsBack strings.1 strings.2 currency) := by
  obtain ⟨_, valid, converted⟩ := bind_eq_ok.mp accepted
  obtain ⟨minorText, written, same⟩ := bind_eq_ok.mp converted
  obtain ⟨minor, counted, shown⟩ := bind_eq_ok.mp written
  obtain ⟨_, precise, _⟩ := bind_eq_ok.mp valid
  obtain ⟨amountString, normalized, inScale⟩ := bind_eq_ok.mp precise
  cases same
  cases shown
  cases price with
  | infinity negative => cases normalized
  | nan => cases normalized
  | finite x =>
    refine ⟨x, rfl, rfl, fun plain => ?_⟩
    obtain ⟨literal, text⟩ := toText_plain plain
    rw [normalizeNumberString_plain text] at normalized
    cases normalized
    have short :
        literal.decimals.length ≤ getCurrencyPrecision currency := by
      by_contra long
      simp_all [getScale_text]
    obtain ⟨spare, total⟩ := Nat.exists_eq_add_of_le short
    have exponent : (getCurrencyPrecision currency : ℤ) - literal.decimals.length = spare := by
      omega
    refine ⟨_, by rw [text]; exact parseDecimal_text literal, short, ?_⟩
    rw [toMinorUnits, normalizeNumberString_plain text] at counted
    simp only [bind, Except.bind, toMinorUnitsFromString,
      parseDecimal_text literal, exponent] at counted
    rw [if_pos (Int.natCast_nonneg spare), pow10_natCast] at counted
    cases counted
    rw [total, Nat.add_sub_cancel_left]

end MarketX.Products
