/-
Module: MarketX.Currency.CurrencyService
Purpose: The conversions of the currency service
  (`currency/currency.service.ts`) with its rates
  (`currency/exchange-rate.service.ts`): when a batch is the sum of its
  conversions, and when the other two converters of the backend agree with
  them.
Trusted boundary: human-reviewed model of the source; amounts and rates are
  exact rationals or not a number, and a rate table is any own members of an
  object
Main exports: RateTable, convert, convertBatch, converters_iff
-/
import MarketX.Numerals.Printing
import MarketX.Proofs.Conversions
import MarketX.Proofs.ExchangeRates

namespace MarketX.Currencies

open Effects Numerals Price Products PricingService

/-! ### Rates -/

/-- The rates that are in the table, in units for a dollar. -/
abbrev RateTable := String → Option ℚ

/-- What `rates[currency]` is. -/
inductive RateMember where
  | number (value : ℚ)
  | inherited
  | undefined
deriving DecidableEq

def RateTable.read (rates : RateTable) (currency : String) : RateMember :=
  match rates currency with
  | some value => .number value
  | none => if currency ∈ inheritedMembers then .inherited else .undefined

namespace RateMember

def truthy : RateMember → Bool
  | .number value => value ≠ 0
  | .inherited => true
  | .undefined => false

/-- The operand it is; nothing stands for what is not a number. -/
def operand : RateMember → Option ℚ
  | .number value => some value
  | _ => none

/-- `rate || 1`. -/
def orOne (rate : RateMember) : Option ℚ :=
  if rate.truthy then rate.operand else some 1

end RateMember

def getFallbackRates : RateTable := fun currency =>
  [("USD", 1), ("EUR", 92 / 100), ("GBP", 79 / 100), ("JPY", 1495 / 10),
    ("CAD", 136 / 100), ("AUD", 152 / 100), ("CHF", 88 / 100),
    ("CNY", 724 / 100), ("INR", 8312 / 100), ("XLM", 12 / 100), ("USDC", 1)].lookup currency

/-- What is cached, before and after the table has been fetched. -/
def getRates (cached refreshed : Option RateTable) : RateTable :=
  (cached.or refreshed).getD getFallbackRates

/-! ### The currency service -/

structure Conversion where
  amount : Option ℚ
  rate : Option ℚ

/-- `parseFloat(x.toFixed(places))`. -/
def toFixed (places : ℕ) (x : Option ℚ) : Option ℚ := x.map (fixed places)

section

variable (rates : RateTable)

def convert (amount : ℚ) (fromCurrency toCurrency : String) :
    Except HttpException Conversion :=
  if fromCurrency = toCurrency then
    .ok { amount := some amount, rate := some 1 }
  else
    let fromRate := rates.read fromCurrency
    let toRate := rates.read toCurrency
    if !fromRate.truthy || !toRate.truthy then
      let unsupported :=
        if !fromRate.truthy then fromCurrency else toCurrency
      .error (.badRequest s!"Unsupported currency: {unsupported}")
    else
      let amountInUSD := fromRate.operand.map (amount / ·)
      let convertedAmount := do pure ((← amountInUSD) * (← toRate.operand))
      let rate := do pure ((← toRate.operand) / (← fromRate.operand))
      .ok
        { amount := toFixed 2 convertedAmount
          rate := toFixed 6 rate }

structure Item where
  amount : ℚ
  currency : String

/-- One turn of the loop. -/
def addItem (totalInUSD : Option ℚ) (item : Item) : Option ℚ := do
  let fromRate ← (rates.read item.currency).orOne
  pure ((← totalInUSD) + item.amount / fromRate)

def convertBatch (items : List Item) (toCurrency : String) :
    Except HttpException (Option ℚ) :=
  let totalInUSD := items.foldl (addItem rates) (some 0)
  let toRate := (rates.read toCurrency).orOne
  .ok (toFixed 2 (do pure ((← totalInUSD) * (← toRate))))

end

/-! ### Batches -/

/-- The table has a rate for the currency. -/
def Known (rates : RateTable) (currency : String) : Prop :=
  ∃ rate, rates currency = some rate ∧ rate ≠ 0

/-- A batch throws iff one of its items does, and else is their sum up to half
a cent for each and one more. -/
structure BatchAgrees (rates : RateTable) (items : List Item)
    (toCurrency : String) : Prop where
  throws : (∃ error, convertBatch rates items toCurrency = .error error) ↔ ∃ item ∈ items, ∃ error,
      convert rates item.amount item.currency toCurrency = .error error
  total : (∀ item ∈ items, ∀ error,
      convert rates item.amount item.currency toCurrency ≠ .error error) →
    ∃ (batch : ℚ) (amounts : List ℚ), convertBatch rates items toCurrency = .ok (some batch) ∧
      items.Forall₂ (fun item amount => ∃ rate, convert rates item.amount item.currency toCurrency =
          .ok { amount := some amount, rate }) amounts ∧
      |batch - amounts.sum| ≤ items.length * (1 / 200) + 1 / 200

section

variable {rates : RateTable} {toCurrency : String}

theorem read_known {currency : String} {rate : ℚ} (found : rates currency = some rate) :
    rates.read currency = .number rate := by rw [RateTable.read, found]

theorem convert_known {fromCurrency : String} {fromRate toRate : ℚ}
    (other : fromCurrency ≠ toCurrency)
    (source : rates fromCurrency = some fromRate) (sourceNonzero : fromRate ≠ 0)
    (target : rates toCurrency = some toRate) (targetNonzero : toRate ≠ 0) (amount : ℚ) :
    convert rates amount fromCurrency toCurrency = .ok
        { amount := some (fixed 2 (amount / fromRate * toRate))
          rate := some (fixed 6 (toRate / fromRate)) } := by
  simp_all [convert, read_known, RateMember.truthy, RateMember.operand, toFixed]

/-- A conversion to another currency that comes to an amount has both
rates. -/
theorem known_of_convert {fromCurrency : String} {amount converted : ℚ}
    {rate : Option ℚ} (other : fromCurrency ≠ toCurrency)
    (done : convert rates amount fromCurrency toCurrency = .ok { amount := some converted, rate }) :
    Known rates fromCurrency ∧ Known rates toCurrency := by
  have known : ∀ currency, (rates.read currency).truthy = true →
      (rates.read currency).operand.isSome → Known rates currency := by
    intro currency truthy some
    cases found : rates currency with
    | some rate =>
      rw [read_known found] at truthy
      exact ⟨rate, found, of_decide_eq_true truthy⟩
    | none =>
      rw [RateTable.read, found] at some
      dsimp only at some
      split at some <;> cases some
  simp only [convert, if_neg other] at done
  split at done
  · cases done
  next truthy =>
    cases source : (rates.read fromCurrency).operand with
    | none => simp [source, toFixed] at done
    | some fromRate => cases target : (rates.read toCurrency).operand <;> simp_all [toFixed]

theorem orOne_eq (own : rates.read toCurrency ≠ .inherited) :
    ∃ rate : ℚ, rate ≠ 0 ∧ (rates.read toCurrency).orOne = some rate ∧
      ∀ known, rates toCurrency = some known → known ≠ 0 → rate = known := by
  cases found : rates toCurrency with
  | none =>
    have undefined : rates.read toCurrency = .undefined := by simp_all [RateTable.read]
    exact ⟨1, one_ne_zero, by rw [undefined]; rfl, nofun⟩
  | some value =>
    rw [read_known found]
    grind [RateMember.orOne, RateMember.truthy, RateMember.operand]

/-- What a batch needs to be the sum of its conversions. -/
structure Convertible (rates : RateTable) (items : List Item)
    (toCurrency : String) : Prop where
  own : rates.read toCurrency ≠ .inherited
  known : ∀ item ∈ items, item.currency = toCurrency ∨
    Known rates item.currency ∧ Known rates toCurrency

theorem foldl_addItem {items : List Item} (known : ∀ item ∈ items, item.currency = toCurrency ∨
      Known rates item.currency ∧ Known rates toCurrency) {toRate : ℚ} (nonzero : toRate ≠ 0)
    (read : (rates.read toCurrency).orOne = some toRate)
    (same : ∀ rate, rates toCurrency = some rate → rate ≠ 0 → toRate = rate) (start : ℚ) :
    ∃ (total : ℚ) (amounts : List ℚ), items.foldl (addItem rates) (some start) = some total ∧
      items.Forall₂ (fun item amount => ∃ rate, convert rates item.amount item.currency toCurrency =
          .ok { amount := some amount, rate }) amounts ∧
      |(total - start) * toRate - amounts.sum| ≤ items.length * (1 / 200) := by
  induction items generalizing start with
  | nil => exact ⟨start, [], rfl, .nil, by simp⟩
  | cons item items ih =>
    obtain ⟨here, others⟩ := List.forall_mem_cons.mp known
    have first : ∃ fromRate amount, addItem rates (some start) item =
            some (start + item.amount / fromRate) ∧
          (∃ rate, convert rates item.amount item.currency toCurrency =
            .ok { amount := some amount, rate }) ∧
          |item.amount / fromRate * toRate - amount| ≤ 1 / 200 := by
      by_cases own : item.currency = toCurrency
      · refine ⟨toRate, item.amount, ?_, ⟨some 1, ?_⟩, ?_⟩
        · rw [addItem, own, read]
          rfl
        · rw [convert, if_pos own]
        · simp_all
      · obtain ⟨⟨fromRate, found, fromNonzero⟩, known, foundTo, toNonzero⟩ := here.resolve_left own
        refine ⟨fromRate, _, ?_, ⟨_, convert_known own found fromNonzero
          foundTo toNonzero item.amount⟩, ?_⟩
        · simp_all [addItem, read_known, RateMember.orOne, RateMember.truthy, RateMember.operand]
        · grind [abs_sub_comm, fixed_near]
    obtain ⟨fromRate, amount, added, converted, near⟩ := first
    obtain ⟨total, amounts, folded, each, close⟩ := ih others (start + item.amount / fromRate)
    refine ⟨total, amount :: amounts, ?_, .cons converted each, ?_⟩
    · rw [List.foldl_cons, added, folded]
    · have split : (total - start) * toRate - (amount :: amounts).sum =
          (item.amount / fromRate * toRate - amount) +
            ((total - (start + item.amount / fromRate)) * toRate - amounts.sum) := by
        rw [List.sum_cons]
        ring
      rw [split, List.length_cons]
      grind

theorem batchAgrees_iff (rates : RateTable) (items : List Item) (toCurrency : String) :
    BatchAgrees rates items toCurrency ↔
      Convertible rates items toCurrency := by
  constructor
  · intro agrees
    have calm : ∀ item ∈ items, ∀ error,
        convert rates item.amount item.currency toCurrency ≠ .error error := by
      intro item member error thrown
      obtain ⟨_, never⟩ := agrees.throws.mpr ⟨item, member, error, thrown⟩
      cases never
    obtain ⟨batch, amounts, done, each, -⟩ := agrees.total calm
    refine ⟨fun inherited => ?_, fun item member => ?_⟩
    · simp_all [convertBatch, RateMember.orOne, RateMember.truthy, RateMember.operand, toFixed]
    · by_cases own : item.currency = toCurrency
      · exact .inl own
      · obtain ⟨position, below, rfl⟩ := List.getElem_of_mem member
        obtain ⟨rate, converted⟩ := each.get below (each.length_eq ▸ below)
        exact .inr (known_of_convert own converted)
  · rintro ⟨own, known⟩
    obtain ⟨toRate, nonzero, read, same⟩ := orOne_eq own
    obtain ⟨total, amounts, folded, each, near⟩ := foldl_addItem known nonzero read same 0
    have batch : convertBatch rates items toCurrency = .ok (some (fixed 2 (total * toRate))) := by
      rw [convertBatch, folded, read]
      rfl
    refine ⟨⟨?_, ?_⟩, fun _ => ⟨_, amounts, batch, each, ?_⟩⟩
    · rw [batch]
      rintro ⟨_, never⟩
      cases never
    · rintro ⟨item, member, error, thrown⟩
      obtain ⟨position, below, rfl⟩ := List.getElem_of_mem member
      obtain ⟨rate, converted⟩ := each.get below (each.length_eq ▸ below)
      simp_all
    · have rounded := fixed_near 2 (total * toRate)
      grind

end

/-! ### Three converters -/

/-- What a lumen is worth in dollars; a `USDC` is worth one. -/
structure Market where
  xlm : ℚ
  positive : 0 < xlm

namespace Market

variable (market : Market)

/-- The rates of the price service. -/
def rates : RateCache where
  XLM_USD := some (.number (.finite market.xlm))
  USDC_USD := some (.number (.finite 1))
  XLM_USDC := .finite market.xlm
  cachedAt := 0
  source := .live

def toUsd : Currency → ℚ
  | .USD => 1
  | .XLM => market.xlm
  | .USDC => 1

/-- `convert` of the price service. -/
def priceConvert (source target : Currency) (amount : ℚ) : ℚ :=
  if source = target then amount
  else fixed 6 (amount * (market.toUsd source / market.toUsd target))

end Market

/-- The three converters come to one amount, each up to its rounding. -/
def Agree (market : Market) (source target : Currency) (minor : ℤ) : Prop :=
  ∃ (exact converted : ℚ) (rate : Option ℚ) (result : ℤ),
    convert getFallbackRates (minor / 10 ^ getCurrencyPrecision source)
        (toString source) (toString target) = .ok { amount := some converted, rate } ∧
    convertMinorUnits (getLiveRates (some market.rates)) minor source target = .ok result ∧
    |converted - exact| ≤ 1 / 200 ∧
    |market.priceConvert source target (minor / 10 ^ getCurrencyPrecision source) - exact| ≤
      1 / (2 * 10 ^ 6) ∧
    |result / 10 ^ getCurrencyPrecision target - exact| ≤ 1 / (2 * 10 ^ getCurrencyPrecision target)

/-- One dollar, as the rates are printed. -/
theorem allDigits_one : AllDigits ['1'] := by simp [AllDigits]

def dollarRate : DecimalLiteral where
  negative := false
  integer := ['1']
  fraction := some (List.replicate 7 '0')
  integer_digits := allDigits_one
  fraction_digits := by simp [AllDigits]

theorem dollarRate_value : dollarRate.value = 1 := by
  have digits : valueOf dollarRate.decimals = 0 := by decide
  have whole : valueOf dollarRate.integer = 1 := by decide
  have sign : dollarRate.negative = false := rfl
  simp [DecimalLiteral.value, digits, whole, sign]

/-- The rates that the pricing service gets from the price service. -/
def Market.printed (market : Market) : Rates
  | .XLM => (Number.finite market.xlm).toFixed 7
  | .USDC => "1.0000000"
  | .USD => "1.0000000"

theorem getLiveRates_market (market : Market) :
    getLiveRates (some market.rates) = .ok market.printed := by
  have dollar : (Number.finite 1).toFixed 7 = "1.0000000" := by decide +kernel
  have xlm : printedRate "XLM_USD" market.rates.XLM_USD =
      .ok ((Number.finite market.xlm).toFixed 7) := rfl
  have usdc : printedRate "USDC_USD" market.rates.USDC_USD =
      .ok "1.0000000" := congrArg Except.ok dollar
  simp only [getLiveRates, xlm, usdc, bind, Except.bind, pure, Except.pure]
  congr 1

variable {currency source target : Currency}

theorem printed_dollar (market : Market)
    (dollar : currency ≠ .XLM) : market.printed currency = dollarRate.text := by
  have text : dollarRate.text = "1.0000000" := by decide
  cases currency with
  | XLM => exact absurd rfl dollar
  | USDC => rfl
  | USD => rfl

theorem convertMinorUnits_near {rates : Rates}
    {sourceRate targetRate : DecimalLiteral} (first : rates source = sourceRate.text)
    (second : rates target = targetRate.text) (positive : 0 < targetRate.value) (minor : ℤ) :
    ∃ result : ℤ, convertMinorUnits (.ok rates) minor source target = .ok result ∧
      |result / 10 ^ getCurrencyPrecision target - minor / 10 ^ getCurrencyPrecision source *
          (sourceRate.value / targetRate.value)| ≤ 1 / (2 * 10 ^ getCurrencyPrecision target) := by
  refine ⟨_, convertMinorUnits_eq first second positive minor, ?_⟩
  have exact : convertedExactly minor sourceRate.value targetRate.value source
      target = minor / 10 ^ getCurrencyPrecision source * (sourceRate.value / targetRate.value) *
          10 ^ getCurrencyPrecision target := by
    rw [convertedExactly, zpow_sub₀ (by norm_num), zpow_natCast, zpow_natCast]
    ring
  rw [exact]
  exact fixed_near (getCurrencyPrecision target) _

theorem fallback_dollar (dollar : currency ≠ .XLM) :
    getFallbackRates (toString currency) = some 1 := by
  cases currency with
  | XLM => exact absurd rfl dollar
  | USDC => rfl
  | USD => rfl

theorem exists_printed (market : Market) (small : market.xlm < tenTo 21) :
    ∃ (units : ℤ) (rate : DecimalLiteral), rate.value = units / 10 ^ 7 ∧ 0 ≤ units ∧
        market.printed .XLM = rate.text := by
  have positive := market.positive
  obtain ⟨literal, -, value, text⟩ := exists_literal_of_toFixed market.xlm
    (by decide : 0 < 7) (by rwa [abs_of_pos positive])
  exact ⟨_, literal, value, roundAway_nonneg (by positivity), text⟩

theorem not_converted (market : Market) (large : ¬ market.xlm < tenTo 21)
    (lumens : source = .XLM ∨ target = .XLM) (minor result : ℤ) :
    convertMinorUnits (getLiveRates (some market.rates)) minor source target ≠
      .ok result := by
  have power : (10 : ℚ) ^ 21 = tenTo 21 := by rfl
  have unread := parseDecimal_large (power ▸ not_lt.mp large)
  intro done
  obtain ⟨_, live, rest⟩ := succeeds_bind.mp ⟨result, done⟩
  cases live
  obtain ⟨sourceRate, first, rest⟩ := succeeds_bind.mp rest
  obtain ⟨targetRate, second, _⟩ := succeeds_bind.mp rest
  rcases lumens with rfl | rfl <;> simp_all

theorem precision_dollar (dollar : currency ≠ .XLM) :
    getCurrencyPrecision currency = 2 := by
  cases currency with
  | XLM => exact absurd rfl dollar
  | USDC => rfl
  | USD => rfl

theorem toString_ne (other : source ≠ target) :
    toString source ≠ toString target := by
  cases source <;> cases target <;> first | exact absurd rfl other | decide

theorem eq_of_agree {converted result exact : ℚ} {n m : ℤ}
    (first : |converted - n| ≤ 1 / 200) (second : |result - m| ≤ 1 / 200)
    (near : |converted - exact| ≤ 1 / 200) (nearResult : |result - exact| ≤ 1 / 200) : n = m := by
  apply eq_of_near (α := ℚ)
  grind

/-- Conversions between lumens and dollars disagree, whatever a lumen is
worth. -/
theorem lumens_disagree (market : Market)
    (other : source ≠ target) (lumens : source = .XLM ∨ target = .XLM) :
    ∃ minor, ¬ Agree market source target minor := by
  by_cases small : market.xlm < tenTo 21
  · obtain ⟨units, rate, value, nonneg, text⟩ := exists_printed market small
    have lumen : getFallbackRates (toString Currency.XLM) = some (12 / 100) := rfl
    have percent : (12 / 100 : ℚ) ≠ 0 := by norm_num
    have code := toString_ne other
    rcases lumens with rfl | rfl
    · refine ⟨3 * 10 ^ 14, ?_⟩
      rintro ⟨exact, converted, _, result, done, priced, near, -, nearResult⟩
      have dollar := fallback_dollar (Ne.symm other)
      rw [convert_known code lumen percent dollar one_ne_zero] at done
      cases done
      obtain ⟨_, is, nearUnits⟩ := convertMinorUnits_near text
        (printed_dollar market (Ne.symm other)) (by rw [dollarRate_value]; norm_num) (3 * 10 ^ 14)
      rw [getLiveRates_market, is] at priced
      cases priced
      rw [precision_dollar (Ne.symm other)] at nearUnits nearResult
      have amount : ((3 * 10 ^ 14 : ℤ) : ℚ) /
          10 ^ getCurrencyPrecision Currency.XLM = 3 * 10 ^ 7 := by
        norm_num [getCurrencyPrecision, precisionByCurrency]
      rw [amount] at near nearUnits
      have first := fixed_near 2 ((3 * 10 ^ 7 : ℚ) / (12 / 100) * 1)
      have cents : (3 * 10 ^ 7 : ℚ) / (12 / 100) * 1 = (250000000 : ℤ) := by norm_num
      have lumens : (3 * 10 ^ 7 : ℚ) * (units / 10 ^ 7 / 1) = (3 * units : ℤ) := by
        push_cast
        ring
      rw [cents] at first near
      rw [value, dollarRate_value, lumens] at nearUnits
      have same := eq_of_agree (first.trans (by norm_num))
        (nearUnits.trans (by norm_num)) near (nearResult.trans (by norm_num))
      omega
    · rcases nonneg.eq_or_lt with none | some
      · refine ⟨0, ?_⟩
        rintro ⟨_, _, _, result, _, priced, _⟩
        have zero : rate.value = 0 := by
          rw [value, ← none]
          norm_num
        grind [getLiveRates_market, convertMinorUnits_zero, printed_dollar]
      · refine ⟨25 * units * 100, ?_⟩
        rintro ⟨exact, converted, _, result, done, priced, near, -, nearResult⟩
        have dollar := fallback_dollar other
        rw [convert_known code dollar one_ne_zero lumen percent] at done
        cases done
        obtain ⟨_, is, nearUnits⟩ := convertMinorUnits_near (printed_dollar market other) text
          (by rw [value]; positivity) (25 * units * 100)
        rw [getLiveRates_market, is] at priced
        cases priced
        have seven : getCurrencyPrecision Currency.XLM = 7 := rfl
        have amount : ((25 * units * 100 : ℤ) : ℚ) /
            10 ^ getCurrencyPrecision source = 25 * units := by
          rw [precision_dollar other]
          push_cast
          ring
        rw [amount] at near nearUnits
        rw [seven] at nearUnits nearResult
        have first := fixed_near 2 ((25 * units : ℚ) / 1 * (12 / 100))
        have cents : (25 * units : ℚ) / 1 * (12 / 100) = (3 * units : ℤ) := by
          push_cast
          ring
        have lumens : (25 * units : ℚ) * (1 / (units / 10 ^ 7)) = (250000000 : ℤ) := by
          field_simp
          norm_num
        rw [cents] at first near
        rw [value, dollarRate_value, lumens] at nearUnits
        have same := eq_of_agree (first.trans (by norm_num)) (nearUnits.trans (by norm_num)) near
          (nearResult.trans (by norm_num))
        omega
  · refine ⟨0, ?_⟩
    rintro ⟨_, _, _, result, _, done, _⟩
    exact not_converted market small lumens 0 result done

theorem dollars_agree (market : Market)
    (other : source ≠ target) (fromDollar : source ≠ .XLM) (toDollar : target ≠ .XLM) (minor : ℤ) :
    Agree market source target minor := by
  have codes := toString_ne other
  have positive : 0 < dollarRate.value := by
    rw [dollarRate_value]
    norm_num
  obtain ⟨result, priced, near⟩ := convertMinorUnits_near
    (printed_dollar market fromDollar) (printed_dollar market toDollar) positive minor
  have converted := convert_known codes (fallback_dollar fromDollar)
    one_ne_zero (fallback_dollar toDollar) one_ne_zero (minor / 10 ^ getCurrencyPrecision source)
  have worth : ∀ currency, currency ≠ .XLM → market.toUsd currency = 1 := by
    intro currency dollar
    cases currency with
    | XLM => exact absurd rfl dollar
    | USDC => rfl
    | USD => rfl
  rw [dollarRate_value, div_one, mul_one] at near
  rw [div_one, mul_one] at converted
  refine ⟨minor / 10 ^ getCurrencyPrecision source, _, _, result, converted, ?_, ?_, ?_, near⟩
  · rw [getLiveRates_market]
    exact priced
  · exact (fixed_near 2 _).trans (by norm_num)
  · rw [Market.priceConvert, if_neg other, worth source fromDollar,
      worth target toDollar, div_one, mul_one]
    exact fixed_near 6 _

theorem convertersAgree_iff (market : Market) (other : source ≠ target) :
    (∀ minor, Agree market source target minor) ↔ source ≠ .XLM ∧ target ≠ .XLM := by
  constructor
  · intro agree
    rw [← not_or]
    intro lumens
    obtain ⟨minor, disagree⟩ := lumens_disagree market other lumens
    exact disagree (agree minor)
  · simp_all [dollars_agree]

/-- A batch agrees with its conversions iff every item is in the target
currency or both have a rate, and the three converters agree on every amount
iff neither currency is the lumen. -/
theorem converters_iff (rates : RateTable) (items : List Item)
    (toCurrency : String) (market : Market) {source target : Currency} (other : source ≠ target) :
    BatchAgrees rates items toCurrency ∧ (∀ minor, Agree market source target minor) ↔
      Convertible rates items toCurrency ∧ source ≠ .XLM ∧ target ≠ .XLM :=
  and_congr (batchAgrees_iff rates items toCurrency) (convertersAgree_iff market other)

/-- A lumen at twelve cents. -/
def cheapLumen : Market where
  xlm := 12 / 100
  positive := by norm_num

theorem euros_agree :
    BatchAgrees getFallbackRates [{ amount := 10, currency := "EUR" }] "USD" ∧
      ∀ minor, Agree cheapLumen .USD .USDC minor := by
  refine (converters_iff getFallbackRates _ "USD" cheapLumen
    (by decide)).mpr ⟨⟨by decide, ?_⟩, by decide, by decide⟩
  intro item member
  cases List.mem_singleton.mp member
  exact .inr ⟨⟨92 / 100, rfl, by norm_num⟩, 1, rfl, one_ne_zero⟩

/-- An item of an unknown currency counts as dollars in a batch. -/
theorem unknown_not_agree :
    ¬ ∀ (rates : RateTable) (items : List Item) (toCurrency : String)
      (market : Market) (source target : Currency), source ≠ target →
        BatchAgrees rates items toCurrency ∧ ∀ minor, Agree market source target minor := by
  intro agree
  obtain ⟨batch, -⟩ := agree getFallbackRates
    [{ amount := 10, currency := "ABC" }] "USD" cheapLumen .USD .USDC (by decide)
  obtain ⟨_, never⟩ := batch.throws.mpr ⟨_, List.mem_singleton_self _,
      .badRequest "Unsupported currency: ABC", rfl⟩
  cases never

end MarketX.Currencies
