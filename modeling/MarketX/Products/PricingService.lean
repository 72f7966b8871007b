/-
Module: MarketX.Products.PricingService
Purpose: The exchange rates the backend keeps (`price/price.service.ts`), and
  the decimal strings, minor units, price limits and conversions of the pricing
  service (`products/services/pricing.service.ts`).
Trusted boundary: human-reviewed model of the source; the body of an answer is
  any JSON value, and what `getLiveRates` answers is an argument of what asks it
Main exports: RateCache, PriceService, readRates, refreshRates, parseDecimal
-/
import MarketX.Entities.Order
import MarketX.Numerals.Json

namespace MarketX.Price

open Numerals

inductive RateSource where
  | live
  | fallback
deriving DecidableEq

/-- The two rates are declared as numbers, and are what the answer had in
their place. -/
structure RateCache where
  XLM_USD : Option Json
  USDC_USD : Option Json
  XLM_USDC : Number
  cachedAt : Date
  source : RateSource

/-- The fields of the service. -/
structure PriceService where
  cache : Option RateCache := none
  lastKnownRates : Option RateCache := none

namespace PriceService

/-- `FALLBACK_RATES`. -/
def fallbackRates (now : Date) : RateCache where
  XLM_USD := some (.number (.finite (toDouble (11 / 100))))
  USDC_USD := some (.number (.finite 1))
  XLM_USDC := .finite (toDouble (11 / 100))
  cachedAt := now
  source := .fallback

def useFallback (now : Date) (service : PriceService) : PriceService :=
  match service.lastKnownRates with
  | some rates =>
    { service with cache := some { rates with source := .fallback } }
  | none => { service with cache := some (fallbackRates now) }

/-- The rates in the body of an answer; `none` where reading them throws. -/
def readRates (now : Date) (data : Json) : Option RateCache := do
  let xlmUsd ← Json.read "usd" (← Json.read "stellar" (some data))
  let usdcUsd ← Json.read "usd" (← Json.read "usd-coin" (some data))
  let quotient ← Json.quotient xlmUsd usdcUsd
  pure
    { XLM_USD := xlmUsd
      USDC_USD := usdcUsd
      XLM_USDC := quotient
      cachedAt := now
      source := .live }

/-- The request has been rejected with a message, or been answered. -/
def refreshRates (now : Date) (answer : Except String Json)
    (service : PriceService) : PriceService :=
  match answer with
  | .error _ => useFallback now service
  | .ok data =>
    match readRates now data with
    | none => useFallback now service
    | some rates => { cache := some rates, lastKnownRates := some rates }

def getRates (now : Date) (service : PriceService) :
    RateCache × PriceService :=
  match service.cache with
  | some rates => (rates, service)
  | none =>
    let used := useFallback now service
    (used.cache.getD (fallbackRates now), used)

structure ConversionResult where
  result : Number
  rate : Number
  rates : RateCache

/-- `parseFloat(value.toFixed(6))`. -/
def sixDecimals (value : Number) : Number := parseFloat (.string (value.toFixed 6))

/-- The arithmetic throws nowhere that a refresh has not thrown before. -/
def convert (now : Date) (source target : Currency) (amount : Number)
    (service : PriceService) : ConversionResult × PriceService :=
  let (rates, used) := getRates now service
  if source = target then
    ({ result := amount, rate := .finite 1, rates }, used)
  else
    let toUsd : Currency → Option Json
      | .USD => some (.number (.finite 1))
      | .XLM => rates.XLM_USD
      | .USDC => rates.USDC_USD
    let rate := (Json.quotient (toUsd source) (toUsd target)).getD .nan
    ({ result := sixDecimals (amount.mul rate)
       rate := sixDecimals rate
       rates }, used)

end PriceService

end MarketX.Price

namespace MarketX.Products

open Numerals Price

structure DecimalValue where
  int : ℤ
  scale : ℕ
deriving DecidableEq

/-- What one unit of each currency is worth in dollars, as the service writes
it. -/
abbrev Rates := Currency → String

/-- `number | string`. -/
inductive NumberOrString where
  | number (value : Number)
  | string (text : String)
deriving DecidableEq

/-- One of the `items` of `calculateOrderTotal`. -/
structure PricedItem where
  price : NumberOrString
  currency : Currency
  quantity : ℤ
deriving DecidableEq

namespace PricingService

def precisionByCurrency : Currency → ℕ
  | .XLM => 7
  | .USDC => 2
  | .USD => 2

def getCurrencyPrecision (currency : Currency) : ℕ := precisionByCurrency currency

/-- `BigInt(text)`. -/
def bigInt (text : List Char) : Except HttpException ℤ :=
  match bigInt? text with
  | some int => .ok int
  | none => .error (.error s!"Cannot convert {String.ofList text} to a BigInt")

/-- A fraction after a second point is dropped. -/
def parseDecimal (value : String) : Except HttpException DecimalValue := do
  let negative := value.toList.head? = some '-'
  let clean := if negative then value.toList.tail else value.toList
  let parts := clean.splitOn '.'
  let integerPartRaw := parts.headD []
  let fractionPartRaw := parts.tail.headD []
  let integerPart := if integerPartRaw = [] then ['0'] else integerPartRaw
  let fractionPart := fractionPartRaw
  let replaced := stripZeros (integerPart ++ fractionPart)
  let combined := if replaced = [] then ['0'] else replaced
  let int ← bigInt combined
  pure
    { int := if negative then -int else int
      scale := fractionPart.length }

def pow10 (power : ℤ) : ℤ :=
  if power ≤ 0 then 1 else 10 ^ power.toNat

/-- `/` and `%` of a bigint truncate. -/
def divideWithHalfUp (numerator denominator : ℤ) : ℤ :=
  let quotient := numerator.tdiv denominator
  let remainder := numerator.tmod denominator
  if remainder = 0 then
    quotient
  else
    let absRemainder := if remainder < 0 then -remainder else remainder
    let absDenominator :=
      if denominator < 0 then -denominator else denominator
    if absRemainder * 2 ≥ absDenominator then
      let sign := if numerator ≥ 0 then 1 else -1
      quotient + sign
    else
      quotient

def toMinorUnitsFromString (value : String) (currency : Currency) :
    Except HttpException ℤ := do
  let decimal ← parseDecimal value
  let targetScale := getCurrencyPrecision currency
  let exponent : ℤ := targetScale - decimal.scale
  if exponent ≥ 0 then
    pure (decimal.int * pow10 exponent)
  else
    pure (divideWithHalfUp decimal.int (pow10 (-exponent)))

/-- Of a string; a JavaScript number is written out first. -/
def toMinorUnitsString (value : String) (currency : Currency) :
    Except HttpException String := do
  let minor ← toMinorUnitsFromString value currency
  pure (toString minor)

/-- `bigint | string`. -/
inductive MinorUnits where
  | bigint (n : ℤ)
  | string (text : String)
deriving DecidableEq

def fromMinorUnitsToDecimalString (amountMinor : MinorUnits)
    (currency : Currency) : Except HttpException String := do
  let n ← match amountMinor with
    | .string text => bigInt text.toList
    | .bigint n => pure n
  let precision := getCurrencyPrecision currency
  let negative := n < 0
  let absolute := if negative then -n else n
  let base := pow10 precision
  let integer := absolute.tdiv base
  let fractional := absolute.tmod base
  let fractionalString :=
    if precision > 0 then
      String.ofList ((toString fractional).toList.leftpad precision '0')
    else ""
  let value :=
    if precision > 0 then toString integer ++ "." ++ fractionalString
    else toString integer
  pure (if negative then "-" ++ value else value)

/-! ### Prices -/

def minPriceByCurrency : Currency → String
  | .XLM => "0.0000001"
  | .USDC => "0.01"
  | .USD => "0.01"

def maxPriceByCurrency : Currency → String
  | .XLM => "1000000000"
  | .USDC => "1000000000"
  | .USD => "1000000000"

/-- `text.replace(/0+$/, '').replace(/\.$/, '')`. -/
def withoutTrailingZeros (text : List Char) : List Char :=
  match text.reverse.dropWhile (· = '0') with
  | '.' :: rest => rest.reverse
  | rest => rest.reverse

def normalizeNumberString (value : Number) : Except HttpException String :=
  if value.isFinite then
    let normalized := value.toText
    if 'e' ∉ normalized.toList ∧ 'E' ∉ normalized.toList then
      .ok normalized
    else
      .ok (String.ofList (withoutTrailingZeros (value.toFixed 12).toList))
  else
    .error (.badRequest "Price must be a finite number.")

def getScale (value : String) : ℕ :=
  ((value.toList.splitOn '.').tail.headD []).length

def toMinorUnits (amount : Number) (currency : Currency) :
    Except HttpException ℤ := do
  toMinorUnitsFromString (← normalizeNumberString amount) currency

def fromMinorUnits (amountMinor : ℤ) (currency : Currency) :
    Except HttpException Number := do
  let value ← fromMinorUnitsToDecimalString (.bigint amountMinor) currency
  pure (numberOf value)

def roundToCurrency (amount : Number) (currency : Currency) :
    Except HttpException Number := do
  let minor ← toMinorUnits amount currency
  fromMinorUnits minor currency

def validateAmountForConversion (amount : Number) (currency : Currency) :
    Except HttpException Unit := do
  let amountString ← normalizeNumberString amount
  let maxScale := getCurrencyPrecision currency
  if getScale amountString > maxScale then
    throw (.badRequest (s!"Invalid precision for {currency}. Maximum " ++
      s!"{maxScale} decimal places are allowed."))
  else
    pure ()

def validatePrice (amount : Number) (currency : Currency) :
    Except HttpException Unit := do
  -- the first lines of both functions are the same
  validateAmountForConversion amount currency
  let amountMinor ← toMinorUnits amount currency
  let minMinor ← toMinorUnitsFromString (minPriceByCurrency currency) currency
  let maxMinor ← toMinorUnitsFromString (maxPriceByCurrency currency) currency
  if amountMinor < minMinor ∨ amountMinor > maxMinor then
    throw (.badRequest (s!"Price for {currency} must be between " ++
      s!"{minPriceByCurrency currency} and {maxPriceByCurrency currency}."))
  else
    pure ()

/-- `toMinorUnitsString`, of a number too. -/
def minorUnitsString (value : NumberOrString) (currency : Currency) :
    Except HttpException String :=
  match value with
  | .number value => do
      let minor ← toMinorUnits value currency
      pure (toString minor)
  | .string text => toMinorUnitsString text currency

/-! ### Rates -/

/-- Fallback rates used when no live `PriceService` is available. -/
def defaultRates : Rates
  | .XLM => "0.1200000"
  | .USDC => "1.0000000"
  | .USD => "1.0000000"

/-- `rates[name].toFixed(7)`, which only a number has. -/
def printedRate (name : String) (rate : Option Json) :
    Except HttpException String :=
  match rate with
  | none => .error (.error "Cannot read properties of undefined (reading 'toFixed')")
  | some .null => .error (.error "Cannot read properties of null (reading 'toFixed')")
  | some (.number value) => .ok (value.toFixed 7)
  | some _ => .error (.error s!"rates.{name}.toFixed is not a function")

/-- What `getRates` of the price service returns is the argument, if there is
a price service. -/
def getLiveRates (getRates : Option RateCache) : Except HttpException Rates :=
  match getRates with
  | none => .ok defaultRates
  | some rates => do
      let xlm ← printedRate "XLM_USD" rates.XLM_USD
      let usdc ← printedRate "USDC_USD" rates.USDC_USD
      pure fun
        | .XLM => xlm
        | .USDC => usdc
        | .USD => "1.0000000"

/-! ### Conversions -/

section

variable (liveRates : Except HttpException Rates)

def convertMinorUnits (sourceMinor : ℤ)
    (sourceCurrency targetCurrency : Currency) : Except HttpException ℤ := do
  let rates ← liveRates
  let sourceRate ← parseDecimal (rates sourceCurrency)
  let targetRate ← parseDecimal (rates targetCurrency)
  let sourceScale := getCurrencyPrecision sourceCurrency
  let targetScale := getCurrencyPrecision targetCurrency
  let exponent : ℤ := targetRate.scale + targetScale - sourceScale - sourceRate.scale
  let numeratorMultiplier := if exponent ≥ 0 then pow10 exponent else 1
  let denominatorMultiplier := if exponent < 0 then pow10 (-exponent) else 1
  let numerator := sourceMinor * sourceRate.int * numeratorMultiplier
  let denominator := targetRate.int * denominatorMultiplier
  if denominator = 0 then
    throw (.badRequest "Invalid conversion rate configuration.")
  else
    pure (divideWithHalfUp numerator denominator)

def convertAmount (amount : Number) (sourceCurrency targetCurrency : Currency) :
    Except HttpException Number := do
  validateAmountForConversion amount sourceCurrency
  if sourceCurrency = targetCurrency then
    roundToCurrency amount targetCurrency
  else
    let sourceMinor ← toMinorUnits amount sourceCurrency
    let targetMinor ← convertMinorUnits liveRates sourceMinor sourceCurrency targetCurrency
    fromMinorUnits targetMinor targetCurrency

def getConversionRate (sourceCurrency targetCurrency : Currency) :
    Except HttpException Number := do
  if sourceCurrency = targetCurrency then
    pure (.finite 1)
  else
    let oneSourceUnitMinor := pow10 (getCurrencyPrecision sourceCurrency)
    let convertedMinor ← convertMinorUnits liveRates oneSourceUnitMinor
      sourceCurrency targetCurrency
    fromMinorUnits convertedMinor targetCurrency

/-- `typeof amount === 'number' ? toMinorUnits : toMinorUnitsFromString`. -/
def sourceMinorUnits (amount : NumberOrString) (currency : Currency) :
    Except HttpException ℤ :=
  match amount with
  | .number value => toMinorUnits value currency
  | .string text => toMinorUnitsFromString text currency

def convertAmountToString (amount : NumberOrString) (sourceCurrency targetCurrency : Currency) :
    Except HttpException String := do
  let sourceMinor ← sourceMinorUnits amount sourceCurrency
  let targetMinor ← convertMinorUnits liveRates sourceMinor sourceCurrency targetCurrency
  fromMinorUnitsToDecimalString (.bigint targetMinor) targetCurrency

def calculateOrderTotal (items : List PricedItem)
    (targetCurrency : Currency) : Except HttpException String := do
  let totalMinor ← items.foldlM (fun totalMinor item => do
    let sourceMinor ← sourceMinorUnits item.price item.currency
    let convertedMinor ← convertMinorUnits liveRates sourceMinor item.currency targetCurrency
    pure (totalMinor + convertedMinor * item.quantity)) 0
  fromMinorUnitsToDecimalString (.bigint totalMinor) targetCurrency

end

end PricingService

end MarketX.Products
