/-
Module: MarketX.Currency.CurrencyInterceptor
Purpose: The interceptor that converts the prices of a response
  (`common/interceptors/currency.interceptor.ts`), and of which responses it
  makes what it should.
Trusted boundary: human-reviewed model of the source and definition of
  Converted; an object is a list of its own members
Main exports: Value, convertPrices, intercept, convertPrices_converted_iff
-/
import MarketX.Currency.CurrencyService

namespace MarketX.Currencies

open Numerals

/-! ### Values -/

/-- What a response is made of. -/
inductive Value where
  | undefined
  | null
  | bool (value : Bool)
  | number (value : Number)
  | string (text : String)
  | date (time : Date)
  | array (elements : List Value)
  | object (members : List (String × Value))

abbrev Members := List (String × Value)

namespace Value

/-- What counts as true. -/
def truthy : Value → Bool
  | .undefined | .null => false
  | .bool value => value
  | .number value => value ≠ .finite 0 ∧ value ≠ .nan
  | .string text => text ≠ ""
  | .date _ | .array _ | .object _ => true

def isUndefined : Value → Bool
  | .undefined => true
  | _ => false

end Value

/-- `object[name]`. -/
def memberOf (name : String) : Members → Value
  | [] => .undefined
  | (key, value) :: rest =>
    if key = name then value else memberOf name rest

/-- `object[name] = value`; a new member comes last. -/
def setMember (name : String) (value : Value) : Members → Members
  | [] => [(name, value)]
  | (key, old) :: rest =>
    if key = name then (key, value) :: rest
    else (key, old) :: setMember name value rest

/-! ### The interceptor -/

abbrev Outcome := Except HttpException Conversion

/-- A call that is not awaited: what it will settle with is not there yet. -/
structure Promise where
  settled : Outcome

/-- `promise.amount`, which a promise does not have. -/
def Promise.amount (_ : Promise) : Value := .undefined

section

-- the rates, what `convert` does to values it is not declared for, and the
-- currency that is asked for
variable (rates : RateTable) (untyped : Value → Value → String → Outcome) (targetCurrency : String)

/-- `currencyService.convert(price, currency, targetCurrency)`. -/
def convertCall (price currency : Value) : Promise where
  settled :=
    match price, currency with
    | .number (.finite amount), .string code => convert rates amount code targetCurrency
    | price, currency => untyped price currency targetCurrency

/-- `converted.price !== undefined && converted.currency`. -/
def isPriced (members : Members) : Bool := !(memberOf "price" members).isUndefined &&
    (memberOf "currency" members).truthy

mutual

def convertPrices : Value → Value
  | .array elements => .array (convertItems elements)
  -- a date has no members to copy
  | .date _ => .object []
  | .object members =>
    -- each member is converted on its own, so it does not matter that the
    -- source comes to them last
    let converted := convertMembers members
    if isPriced members then
      let result := convertCall rates untyped targetCurrency
        (memberOf "price" members) (memberOf "currency" members)
      .object (setMember "originalCurrency" (memberOf "currency" converted)
          (setMember "originalPrice" (memberOf "price" converted)
            (setMember "currency" (.string targetCurrency)
              (setMember "price" result.amount converted))))
    else .object converted
  | data => data

def convertItems : List Value → List Value
  | [] => []
  | item :: items => convertPrices item :: convertItems items

def convertMembers : Members → Members
  | [] => []
  | (key, value) :: rest =>
    (key, convertPrices value) :: convertMembers rest

end

/-- The header `x-currency`, or dollars. -/
def intercept (header : Option String) (data : Value) : Value :=
  let targetCurrency := (header.filter (· ≠ "")).getD "USD"
  convertPrices rates untyped targetCurrency data

/-! ### What it should do -/

/-- The members that a conversion writes. -/
def repricedMembers : List String := ["price", "currency", "originalPrice", "originalCurrency"]

/-- The price is the number that the conversion comes to, and the originals
are kept. -/
structure Repriced (before after : Members) : Prop where
  price : ∃ price, memberOf "price" after = .number price ∧
    ∀ conversion, (convertCall rates untyped targetCurrency
        (memberOf "price" before) (memberOf "currency" before)).settled = .ok conversion →
      price = (conversion.amount.map Number.finite).getD .nan
  currency : memberOf "currency" after = .string targetCurrency
  originalPrice : memberOf "originalPrice" after = memberOf "price" before
  originalCurrency :
    memberOf "originalCurrency" after = memberOf "currency" before
  names : ∀ name, name ∈ after.map Prod.fst ↔ name ∈ before.map Prod.fst ∨ name ∈ repricedMembers

mutual

/-- The second value has the shape of the first, with every priced object
repriced and everything else as it was. -/
def Converted : Value → Value → Prop
  | .array elements, after => ∃ items, after = .array items ∧ ConvertedItems elements items
  | .object members, after =>
    ∃ found, after = .object found ∧ if isPriced members then
        Repriced rates untyped targetCurrency members found ∧ ConvertedOthers members found
      else ConvertedMembers members found
  | data, after => after = data

def ConvertedItems : List Value → List Value → Prop
  | [], after => after = []
  | item :: items, after =>
    ∃ first others, after = first :: others ∧ Converted item first ∧ ConvertedItems items others

def ConvertedMembers : Members → Members → Prop
  | [], after => after = []
  | (key, value) :: rest, after =>
    ∃ first others, after = (key, first) :: others ∧
      Converted value first ∧ ConvertedMembers rest others

/-- The members that a conversion does not write. -/
def ConvertedOthers : Members → Members → Prop
  | [], _ => True
  | (key, value) :: rest, after =>
    (key ∈ repricedMembers ∨ Converted value (memberOf key after)) ∧ ConvertedOthers rest after

end

end

/-! ### Plain values -/

mutual

/-- There is no date and no priced object in the value. -/
def isPlain : Value → Bool
  | .array elements => arePlain elements
  | .date _ => false
  | .object members => !isPriced members && membersPlain members
  | _ => true

def arePlain : List Value → Bool
  | [] => true
  | item :: items => isPlain item && arePlain items

def membersPlain : Members → Bool
  | [] => true
  | (_, value) :: rest => isPlain value && membersPlain rest

end

/-! ### Repriced objects -/

theorem memberOf_setMember_self (name : String) (value : Value) (members : Members) :
    memberOf name (setMember name value members) = value := by
  induction members <;> grind [setMember, memberOf]

theorem memberOf_setMember_of_ne {name other : String}
    (distinct : other ≠ name) (value : Value) (members : Members) :
    memberOf other (setMember name value members) =
      memberOf other members := by
  induction members with
  | nil => simp [setMember, memberOf, Ne.symm distinct]
  | cons member rest ih =>
    by_cases same : member.1 = name <;> simp_all [setMember, memberOf, Ne.symm]

section

variable (rates : RateTable) (untyped : Value → Value → String → Outcome) (targetCurrency : String)

theorem not_repriced {before members : Members} {currency originalPrice
    originalCurrency : Value} :
    ¬ Repriced rates untyped targetCurrency before (setMember "originalCurrency" originalCurrency
        (setMember "originalPrice" originalPrice (setMember "currency" currency
            (setMember "price" .undefined members)))) := by
  intro repriced
  obtain ⟨price, is, -⟩ := repriced.price
  simp_all [memberOf_setMember_of_ne, memberOf_setMember_self]

mutual

theorem convertPrices_plain : ∀ {data : Value}, isPlain data = true →
    convertPrices rates untyped targetCurrency data = data
  | .array elements, plain => by rw [convertPrices, convertItems_plain plain]
  | .object members, plain => by
      obtain ⟨unpriced, plain⟩ := Bool.and_eq_true_iff.mp plain
      rw [Bool.not_eq_true'] at unpriced
      rw [convertPrices, unpriced, convertMembers_plain plain]
      rfl
  | .undefined, _ | .null, _ | .bool _, _ | .number _, _ | .string _, _ => rfl

theorem convertItems_plain : ∀ {items : List Value}, arePlain items = true →
    convertItems rates untyped targetCurrency items = items
  | [], _ => rfl
  | item :: items, plain => by
      obtain ⟨first, others⟩ := Bool.and_eq_true_iff.mp plain
      rw [convertItems, convertPrices_plain first, convertItems_plain others]

theorem convertMembers_plain : ∀ {members : Members}, membersPlain members = true →
      convertMembers rates untyped targetCurrency members = members
  | [], _ => rfl
  | (key, value) :: rest, plain => by
      obtain ⟨first, others⟩ := Bool.and_eq_true_iff.mp plain
      rw [convertMembers, convertPrices_plain first, convertMembers_plain others]

end

mutual

theorem converted_plain : ∀ {data : Value}, isPlain data = true →
    Converted rates untyped targetCurrency data data
  | .array elements, plain => by
      rw [Converted]
      exact ⟨elements, rfl, convertedItems_plain plain⟩
  | .object members, plain => by
      obtain ⟨unpriced, plain⟩ := Bool.and_eq_true_iff.mp plain
      rw [Bool.not_eq_true'] at unpriced
      rw [Converted, unpriced]
      exact ⟨members, rfl, convertedMembers_plain plain⟩
  | .undefined, _ | .null, _ | .bool _, _ | .number _, _ | .string _, _ => by simp [Converted]

theorem convertedItems_plain : ∀ {items : List Value}, arePlain items = true →
    ConvertedItems rates untyped targetCurrency items items
  | [], _ => by rw [ConvertedItems]
  | item :: items, plain => by
      obtain ⟨first, others⟩ := Bool.and_eq_true_iff.mp plain
      rw [ConvertedItems]
      exact ⟨item, items, rfl, converted_plain first, convertedItems_plain others⟩

theorem convertedMembers_plain : ∀ {members : Members}, membersPlain members = true →
      ConvertedMembers rates untyped targetCurrency members members
  | [], _ => by rw [ConvertedMembers]
  | (key, value) :: rest, plain => by
      obtain ⟨first, others⟩ := Bool.and_eq_true_iff.mp plain
      rw [ConvertedMembers]
      exact ⟨value, rest, rfl, converted_plain first, convertedMembers_plain others⟩

end

mutual

theorem plain_of_converted : ∀ {data : Value}, Converted rates untyped targetCurrency data
      (convertPrices rates untyped targetCurrency data) → isPlain data = true
  | .array elements, converted => by
      rw [Converted] at converted
      obtain ⟨items, is, converted⟩ := converted
      rw [convertPrices] at is
      cases is
      exact arePlain_of_converted converted
  | .date _, converted => by simp [Converted, convertPrices] at converted
  | .object members, converted => by
      rw [Converted] at converted
      obtain ⟨found, is, converted⟩ := converted
      rw [convertPrices] at is
      cases priced : isPriced members with
      | true =>
        rw [priced] at is converted
        cases is
        exact absurd converted.1 (not_repriced _ _ _)
      | false =>
        rw [priced] at is converted
        cases is
        exact Bool.and_eq_true_iff.mpr ⟨by rw [priced]; rfl, membersPlain_of_converted converted⟩
  | .undefined, _ | .null, _ | .bool _, _ | .number _, _ | .string _, _ => rfl

theorem arePlain_of_converted : ∀ {items : List Value},
    ConvertedItems rates untyped targetCurrency items
      (convertItems rates untyped targetCurrency items) → arePlain items = true
  | [], _ => rfl
  | item :: items, converted => by
      rw [ConvertedItems] at converted
      obtain ⟨first, others, is, converted, rest⟩ := converted
      rw [convertItems] at is
      cases is
      exact Bool.and_eq_true_iff.mpr ⟨plain_of_converted converted, arePlain_of_converted rest⟩

theorem membersPlain_of_converted : ∀ {members : Members},
    ConvertedMembers rates untyped targetCurrency members
      (convertMembers rates untyped targetCurrency members) → membersPlain members = true
  | [], _ => rfl
  | (key, value) :: rest, converted => by
      rw [ConvertedMembers] at converted
      obtain ⟨first, others, is, converted, rest⟩ := converted
      rw [convertMembers] at is
      cases is
      exact Bool.and_eq_true_iff.mpr ⟨plain_of_converted converted, membersPlain_of_converted rest⟩

end

/-- The interceptor does what it should exactly with values in which there is
no date and nothing to convert. -/
theorem convertPrices_converted_iff (data : Value) :
    Converted rates untyped targetCurrency data (convertPrices rates untyped targetCurrency data) ↔
      isPlain data = true := by
  constructor
  · exact plain_of_converted rates untyped targetCurrency
  · intro plain
    rw [convertPrices_plain rates untyped targetCurrency plain]
    exact converted_plain rates untyped targetCurrency plain

end

/-- Ten euros for dollars have no price. -/
theorem priced_not_converted :
    ¬ ∀ (rates : RateTable) (untyped : Value → Value → String → Outcome)
      (targetCurrency : String) (data : Value), Converted rates untyped targetCurrency data
        (convertPrices rates untyped targetCurrency data) := by
  intro always
  have here := always getFallbackRates (fun _ _ _ => .ok { amount := none, rate := none }) "USD"
    (.object [("price", .number (.finite 10)), ("currency", .string "EUR")])
  rw [Converted] at here
  obtain ⟨found, is, converted⟩ := here
  obtain ⟨price, kept, -⟩ := converted.1.price
  have lost : memberOf "price" found = .undefined := by
    cases is
    rfl
  rw [lost] at kept
  cases kept

end MarketX.Currencies
