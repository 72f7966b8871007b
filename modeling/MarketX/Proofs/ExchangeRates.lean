/-
Module: MarketX.Proofs.ExchangeRates
Purpose: The rates are usable in every state exactly if every answer of the
  rate source is unreadable or holds two rates of a printable size.
Trusted boundary: none beyond the model; the definitions under review are
  Event, Sound and RatesUsable
Main exports: Event, rateStep, InRange, rates_usable
-/
import MarketX.Effects.Runs
import MarketX.Products.Rules

namespace MarketX.Products

open Effects Numerals Price PriceService PricingService

/-! ### Runs -/

/-- What happens to the price service.  Every conversion of the pricing
service asks it for its rates. -/
inductive Event where
  | refreshRates (now : Date) (answer : Except String Json)
  | getRates (now : Date)
  | convert (now : Date) (source target : Currency) (amount : Number)

def rateStep (service : PriceService) : Event → PriceService
  | .refreshRates now answer => refreshRates now answer service
  | .getRates now => (getRates now service).2
  | .convert now source target amount =>
    (convert now source target amount service).2

def serviceAfter (history : List Event) : PriceService := run rateStep {} history

theorem serviceAfter_append (history : List Event) (event : Event) :
    serviceAfter (history ++ [event]) =
      rateStep (serviceAfter history) event := List.foldl_concat ..

/-! ### Good rates -/

/-- Printed with seven decimals, the number is neither zero nor written with
an exponent. -/
def InRange (x : ℚ) : Prop := 1 / (2 * 10 ^ 7) ≤ x ∧ x < 10 ^ 21

instance (x : ℚ) : Decidable (InRange x) := inferInstanceAs (Decidable (_ ∧ _))

def goodRate : Option Json → Bool
  | some (.number (.finite x)) => InRange x
  | _ => false

def good (rates : RateCache) : Bool := goodRate rates.XLM_USD && goodRate rates.USDC_USD

def liveAnswer : Event → Option RateCache
  | .refreshRates now (.ok data) => readRates now data
  | _ => none

/-- A request is rejected, or answered with something that throws, or with
good rates. -/
def Sound (event : Event) : Prop := ∀ rates, liveAnswer event = some rates → good rates = true

def quoted (rates : RateCache) : Option Json × Option Json × Number :=
  (rates.XLM_USD, rates.USDC_USD, rates.XLM_USDC)

/-- The last good rates of a history, or the ones that are hardcoded. -/
def lastGood (history : List Event) : RateCache :=
  ((history.filterMap fun event =>
    (liveAnswer event).filter good).getLast?).getD (fallbackRates 0)

/-- Asked after a history, the service has positive rates and their quotient,
no conversion throws, and the rates are the last good ones. -/
structure RatesUsable (history : List Event) (now : Date) : Prop where
  positive : ∃ x y : ℚ, 0 < x ∧ 0 < y ∧ quoted (getRates now (serviceAfter history)).1 =
      (some (.number (.finite x)), some (.number (.finite y)), .finite (x / y))
  converts :
    Converts (getLiveRates (some (getRates now (serviceAfter history)).1))
  last_good :
    quoted (getRates now (serviceAfter history)).1 = quoted (lastGood history)

/-! ### What is kept -/

/-- The cached rates are the last known ones, or the hardcoded ones. -/
def Follows (service : PriceService) : Prop := ∀ rates, service.cache = some rates →
    quoted rates = quoted (service.lastKnownRates.getD (fallbackRates 0))

theorem follows_useFallback (now : Date) (service : PriceService) :
    Follows (useFallback now service) ∧
      (useFallback now service).lastKnownRates = service.lastKnownRates := by
  unfold useFallback
  cases known : service.lastKnownRates with
  | none =>
    refine ⟨?_, rfl⟩
    rintro _ ⟨⟩
    rfl
  | some rates =>
    refine ⟨?_, rfl⟩
    rintro _ ⟨⟩
    rfl

variable {service : PriceService} {x : ℚ} {rates : RateCache} {event : Event}

theorem getRates_spec (now : Date) (follows : Follows service) :
    quoted (getRates now service).1 = quoted (service.lastKnownRates.getD (fallbackRates 0)) ∧
      Follows (getRates now service).2 ∧
      (getRates now service).2.lastKnownRates = service.lastKnownRates := by
  unfold PriceService.getRates
  cases cached : service.cache with
  | some rates => exact ⟨follows rates cached, follows, rfl⟩
  | none =>
    obtain ⟨used, kept⟩ := follows_useFallback now service
    refine ⟨?_, used, kept⟩
    dsimp only
    cases known : (useFallback now service).cache with
    | some rates => rw [Option.getD_some, used rates known, kept]
    | none =>
      unfold useFallback at known
      split at known <;> cases known

/-- One step: the last known rates are those of the answer, if it is made into
any. -/
theorem rateStep_spec (event : Event) (follows : Follows service) :
    Follows (rateStep service event) ∧ (rateStep service event).lastKnownRates =
        (liveAnswer event).or service.lastKnownRates := by
  cases event with
  | refreshRates now answer =>
    cases answer with
    | error message => exact follows_useFallback now service
    | ok data =>
      simp only [rateStep, PriceService.refreshRates, liveAnswer]
      cases readRates now data with
      | none => exact follows_useFallback now service
      | some rates =>
        refine ⟨?_, rfl⟩
        rintro _ ⟨⟩
        rfl
  | getRates now => exact (getRates_spec now follows).2
  | convert now source target amount =>
    have asked := (getRates_spec now follows).2
    simp only [rateStep, PriceService.convert]
    split <;> exact asked

theorem serviceAfter_spec (history : List Event) :
    Follows (serviceAfter history) ∧ (serviceAfter history).lastKnownRates =
        (history.filterMap liveAnswer).getLast? := by
  induction history using List.reverseRecOn with
  | nil =>
    refine ⟨?_, rfl⟩
    rintro rates ⟨⟩
  | append_singleton front event ih => simp_all [rateStep_spec, serviceAfter_append]

/-! ### Printed rates -/

theorem fixedDigits_seven (units : ℕ) :
    String.ofList (Number.fixedDigits units 7) = (minorLiteral units 7).text := by
  have plain : (minorLiteral units 7).negative = false :=
    decide_eq_false (Int.natCast_nonneg units).not_gt
  rw [DecimalLiteral.text, plain, Number.fixedDigits]
  rfl

theorem parseDecimal_toFixed (nonneg : 0 ≤ x) (below : x < 10 ^ 21) :
    parseDecimal ((Number.finite x).toFixed 7) =
      .ok { int := roundHalfUp (x * 10 ^ 7), scale := 7 } := by
  have power : (10 : ℚ) ^ 21 = tenTo 21 := by rw [tenTo_eq]; rfl
  have seven : tenTo (7 : ℕ) = 10 ^ 7 := by rw [tenTo_eq]; rfl
  obtain ⟨units, counted⟩ : ∃ units : ℕ, roundHalfUp (x * 10 ^ 7) = units :=
    Int.eq_ofNat_of_zero_le (Int.floor_nonneg.mpr (by positivity))
  have plain : (minorLiteral units 7).negative = false :=
    decide_eq_false (Int.natCast_nonneg units).not_gt
  rw [power] at below
  rw [toFixed_below 7 nonneg below, seven, counted, Int.toNat_natCast, fixedDigits_seven,
    parseDecimal_text, length_minorLiteral _ Nat.succ_pos', valueOf_minorLiteral _ Nat.succ_pos',
    plain, Int.natAbs_natCast, if_neg Bool.false_ne_true, one_mul]

theorem units_pos :
    0 < roundHalfUp (x * 10 ^ 7) ↔ 1 / (2 * 10 ^ 7) ≤ x := by
  rw [roundHalfUp, Int.floor_pos, div_le_iff₀ (by norm_num)]
  constructor
  · intro reached
    linarith
  · intro reached
    linarith

theorem parseDecimal_large (large : 10 ^ 21 ≤ x) :
    ¬ Succeeds (parseDecimal ((Number.finite x).toFixed 7)) := by
  have power : (10 : ℚ) ^ 21 = tenTo 21 := by rw [tenTo_eq]; rfl
  rw [power] at large
  have written : (Number.finite x).toFixed 7 = (Number.finite x).toText := by
    rw [Number.toFixed, if_pos (large.trans (le_abs_self x))]
    rfl
  rw [written]
  exact toText_exponent (by simpa [Number.toText] using written_large large)

theorem goodRate_spec {value : Option Json} (is_good : goodRate value = true) (name : String) :
    ∃ x : ℚ, value = some (.number (.finite x)) ∧ 0 < x ∧
      ∃ text decimal, printedRate name value = .ok text ∧
        parseDecimal text = .ok decimal ∧ 0 < decimal.int := by
  unfold goodRate at is_good
  split at is_good
  next x =>
      obtain ⟨above, below⟩ := of_decide_eq_true is_good
      have positive : 0 < x := lt_of_lt_of_le (by norm_num) above
      exact ⟨x, rfl, positive, _, _, rfl,
        parseDecimal_toFixed positive.le below, units_pos.mpr above⟩
  next => cases is_good

/-- A positive rate that is printed and read as one that is not zero is
good. -/
theorem goodRate_of_read (positive : 0 < x) {decimal : DecimalValue}
    (read : parseDecimal ((Number.finite x).toFixed 7) = .ok decimal) (nonzero : decimal.int ≠ 0) :
    goodRate (some (.number (.finite x))) = true := by
  have below : x < 10 ^ 21 := by
    by_contra large
    exact parseDecimal_large (not_lt.mp large) ⟨decimal, read⟩
  rw [parseDecimal_toFixed positive.le below] at read
  cases read
  have units : 0 ≤ roundHalfUp (x * 10 ^ 7) := Int.floor_nonneg.mpr (by positivity)
  exact decide_eq_true ⟨units_pos.mp (lt_of_le_of_ne units (Ne.symm nonzero)), below⟩

theorem converts_of_good (is_good : good rates = true) :
    Converts (getLiveRates (some rates)) := by
  obtain ⟨xlmGood, usdcGood⟩ := Bool.and_eq_true_iff.mp is_good
  obtain ⟨_, _, _, xlm, xlmRate, xlmPrinted, xlmRead, xlmPositive⟩ :=
    goodRate_spec xlmGood "XLM_USD"
  obtain ⟨_, _, _, usdc, usdcRate, usdcPrinted, usdcRead, usdcPositive⟩ :=
    goodRate_spec usdcGood "USDC_USD"
  have dollar : parseDecimal "1.0000000" = .ok ⟨10000000, 7⟩ :=
    parseDecimal_text ⟨false, ['1'], some ['0', '0', '0', '0', '0', '0', '0'],
      by simp [AllDigits], by simp [AllDigits]⟩
  simp only [getLiveRates, xlmPrinted, usdcPrinted]
  refine converts_of_positive fun currency => ?_
  cases currency with
  | XLM => exact ⟨xlmRate, xlmRead, xlmPositive⟩
  | USDC => exact ⟨usdcRate, usdcRead, usdcPositive⟩
  | USD => exact ⟨_, dollar, by decide⟩

/-- Where dollars convert to a currency, its rate is read as one that is not
zero. -/
theorem read_of_converts {liveRates : Except HttpException Rates}
    (converts : Converts liveRates) (currency : Currency) :
    ∃ rates decimal, liveRates = .ok rates ∧
      parseDecimal (rates currency) = .ok decimal ∧ decimal.int ≠ 0 := by
  have done := converts.convertMinorUnits 0 .USD currency
  obtain ⟨rates, live, rest⟩ := succeeds_bind.mp done
  obtain ⟨_, _, rest⟩ := succeeds_bind.mp rest
  obtain ⟨decimal, read, rest⟩ := succeeds_bind.mp rest
  refine ⟨rates, decimal, live, read, fun zero => ?_⟩
  rw [zero, if_pos (Int.zero_mul _)] at rest
  exact not_succeeds_error _ rest

theorem good_of_converts {y : ℚ} (xPositive : 0 < x)
    (yPositive : 0 < y) (xlm : rates.XLM_USD = some (.number (.finite x)))
    (usdc : rates.USDC_USD = some (.number (.finite y)))
    (converts : Converts (getLiveRates (some rates))) :
    good rates = true := by
  obtain ⟨_, xlmRate, live, xlmRead, xlmNonzero⟩ := read_of_converts converts .XLM
  simp only [getLiveRates, xlm, usdc, printedRate, bind, Except.bind, pure,
    Except.pure, Except.ok.injEq] at live
  subst live
  obtain ⟨_, usdcRate, live, usdcRead, usdcNonzero⟩ := read_of_converts converts .USDC
  simp only [getLiveRates, xlm, usdc, printedRate, bind, Except.bind, pure,
    Except.pure, Except.ok.injEq] at live
  subst live
  rw [good, xlm, usdc, Bool.and_eq_true]
  exact ⟨goodRate_of_read xPositive xlmRead xlmNonzero,
    goodRate_of_read yPositive usdcRead usdcNonzero⟩

/-! ### Every history -/

theorem liveAnswer_quotient (answer : liveAnswer event = some rates) :
    Json.quotient rates.XLM_USD rates.USDC_USD = some rates.XLM_USDC := by
  unfold liveAnswer at answer
  split at answer
  next now data =>
      simp only [readRates, Option.bind_eq_bind, Option.bind_eq_some_iff,
        Option.pure_def, Option.some.injEq] at answer
      grind
  next => cases answer

theorem quoted_of_good (is_good : good rates = true)
    (quotient : Json.quotient rates.XLM_USD rates.USDC_USD = some rates.XLM_USDC) :
    ∃ x y : ℚ, 0 < x ∧ 0 < y ∧ quoted rates =
      (some (.number (.finite x)), some (.number (.finite y)), .finite (x / y)) := by
  obtain ⟨xlmGood, usdcGood⟩ := Bool.and_eq_true_iff.mp is_good
  obtain ⟨x, xlm, xPositive, _⟩ := goodRate_spec xlmGood "XLM_USD"
  obtain ⟨y, usdc, yPositive, _⟩ := goodRate_spec usdcGood "USDC_USD"
  refine ⟨x, y, xPositive, yPositive, ?_⟩
  rw [xlm, usdc] at quotient
  simp only [Json.quotient, Json.toNumber, Number.div, yPositive.ne', if_false,
    Option.bind_eq_bind, Option.bind_some, Option.pure_def, Option.some.injEq] at quotient
  rw [quoted, xlm, usdc, ← quotient]

theorem fallbackRates_good (now : Date) :
    good (fallbackRates now) = true ∧
      Json.quotient (fallbackRates now).XLM_USD (fallbackRates now).USDC_USD =
        some (fallbackRates now).XLM_USDC := by
  constructor
  · show (goodRate (some (.number (.finite (toDouble (11 / 100))))) &&
      goodRate (some (.number (.finite 1)))) = true
    decide +kernel
  · simp [Json.quotient, Json.toNumber, Number.div, fallbackRates]

theorem getLiveRates_congr {other : RateCache} (same : quoted rates = quoted other) :
    getLiveRates (some rates) = getLiveRates (some other) := by simp_all [quoted, getLiveRates]

theorem lastGood_good (history : List Event) :
    good (lastGood history) = true ∧
      Json.quotient (lastGood history).XLM_USD (lastGood history).USDC_USD =
        some (lastGood history).XLM_USDC := by
  unfold lastGood
  cases last : (history.filterMap fun event =>
      (liveAnswer event).filter good).getLast? with
  | none => exact fallbackRates_good 0
  | some rates =>
    obtain ⟨event, _, answer⟩ := List.mem_filterMap.mp (List.mem_of_getLast? last)
    obtain ⟨made, is_good⟩ := Option.filter_eq_some_iff.mp answer
    exact ⟨is_good, liveAnswer_quotient made⟩

theorem ratesUsable_of_sound {history : List Event}
    (sound : ∀ event ∈ history, Sound event) (now : Date) :
    RatesUsable history now := by
  obtain ⟨follows, known⟩ := serviceAfter_spec history
  have filtered : (history.filterMap liveAnswer) =
      history.filterMap fun event => (liveAnswer event).filter good := by
    refine List.filterMap_congr fun event member => ?_
    cases answer : liveAnswer event with
    | none => rfl
    | some rates => rw [Option.filter_some, if_pos (sound event member rates answer)]
  have last_good : quoted (getRates now (serviceAfter history)).1 =
      quoted (lastGood history) := by
    rw [(getRates_spec now follows).1, known, filtered]
    rfl
  obtain ⟨is_good, quotient⟩ := lastGood_good history
  refine ⟨?_, ?_, last_good⟩
  · rw [last_good]
    exact quoted_of_good is_good quotient
  · rw [getLiveRates_congr last_good]
    exact converts_of_good is_good

theorem sound_of_ratesUsable {front : List Event}
    (usable : ∀ now, RatesUsable (front ++ [event]) now) : Sound event := by
  intro rates answer
  have in_use : (getRates 0 (serviceAfter (front ++ [event]))).1 = rates := by
    rw [serviceAfter_append]
    cases event with
    | refreshRates now reply =>
      cases reply with
      | error message => cases answer
      | ok data =>
        have read : readRates now data = some rates := answer
        simp only [rateStep, PriceService.refreshRates, read]
        rfl
    | getRates now => cases answer
    | convert now source target amount => cases answer
  obtain ⟨⟨x, y, xPositive, yPositive, shape⟩, converts, _⟩ := usable 0
  rw [in_use] at shape converts
  simp only [quoted, Prod.mk.injEq] at shape
  exact good_of_converts xPositive yPositive shape.1 shape.2.1 converts

/-- The rates are usable at every point of a history exactly if every request
in it is rejected, or answered with what throws when it is read, or with good
rates. -/
theorem rates_usable (history : List Event) :
    (∀ front, front <+: history → ∀ now, RatesUsable front now) ↔
      ∀ event ∈ history, Sound event := by
  constructor
  · intro usable event member
    obtain ⟨front, back, rfl⟩ := List.append_of_mem member
    exact sound_of_ratesUsable (usable (front ++ [event]) ⟨back, by simp⟩)
  · intro sound front part now
    exact ratesUsable_of_sound (fun event member => sound event (part.subset member)) now

/-- A rate of zero is kept: it is what `getRates` returns, dollars no longer
convert, and the next failure falls back on it. -/
theorem zero_rate_kept :
    let rates (xlm : ℚ) : Json := .object [("stellar", .object [("usd", .number (.finite xlm))]),
        ("usd-coin", .object [("usd", .number (.finite 1))])]
    let history : List Event := [.refreshRates 1 (.ok (rates (toDouble (12 / 100)))),
        .refreshRates 2 (.ok (rates 0)), .refreshRates 3 (.error "Network error")]
    let last := (getRates 4 (serviceAfter history)).1
    last.XLM_USD = some (.number (.finite 0)) ∧
      (convertMinorUnits (getLiveRates (some last)) 100 .USD .XLM).isOk = false ∧
      ¬ RatesUsable history 4 := by
  intro rates history last
  have zero : last.XLM_USD = some (.number (.finite 0)) := rfl
  refine ⟨zero, by decide +kernel, fun usable => ?_⟩
  obtain ⟨x, y, xPositive, _, shape⟩ := usable.positive
  have same : some (Json.number (.finite 0)) = some (.number (.finite x)) :=
    zero.symm.trans (congrArg Prod.fst shape)
  simp only [Option.some.injEq, Json.number.injEq, Number.finite.injEq] at same
  exact xPositive.ne same

end MarketX.Products
