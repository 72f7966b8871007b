/-
Module: MarketX.Products.ProductsService
Purpose: The products of the catalogue, their prices and how they are shown
  (`products/products.service.ts`).
Trusted boundary: human-reviewed model of the source.  Of the price history
  table only whether a row can be saved is modelled; fresh identifiers are
  counted, and lower case is a function of the runtime
Main exports: Product, Catalogue, create, findAll
-/
import Mathlib.Data.List.Infix
import MarketX.Products.PricingService

namespace MarketX.Products

open Numerals PricingService

structure ProductPriceHistoryEntry where
  basePrice : String
  basePriceMinor : String
  baseCurrency : Currency
  changedAt : Date
  rateSnapshot : Rates
  rateTimestamp : Date
  updatedBy : Id
  reason : Option String

structure Product where
  id : Id
  sellerId : Id
  name : String
  category : String
  basePrice : String
  basePriceMinor : String
  baseCurrency : Currency
  price : String
  priceMinor : String
  currency : Currency
  description : Option String
  images : List String
  createdAt : Date
  updatedAt : Date
  priceHistory : List ProductPriceHistoryEntry

structure CreateProductDto where
  name : String
  category : String
  price : Option Number := none
  basePrice : Option Number := none
  currency : Option Currency := none
  baseCurrency : Option Currency := none
  description : Option String := none
  images : List String

structure UpdatePriceDto where
  basePrice : Number
  baseCurrency : Currency
  reason : Option String := none

structure UpdateProductDto where
  name : Option String := none
  category : Option String := none
  price : Option Number := none
  basePrice : Option Number := none
  currency : Option Currency := none
  baseCurrency : Option Currency := none
  description : Option String := none
  images : Option (List String) := none

structure FilterProductDto where
  search : Option String := none
  category : Option String := none
  minPrice : Option Amount := none
  maxPrice : Option Amount := none
  limit : ℕ := 10
  offset : ℕ := 0
  preferredCurrency : Option Currency := none

/-- A product and its price in the currency it is shown in. -/
structure DisplayProduct where
  product : Product
  convertedPrice : Number
  convertedPriceString : String
  convertedCurrency : Currency
  conversionRate : Number
  displayPrice : String

/-- The `products` of the service, and how many identifiers have been drawn
for them. -/
structure Catalogue where
  products : List Product := []
  drawn : ℕ := 0

/-- The object with the identifier of the given one is now this. -/
def Catalogue.put (catalogue : Catalogue) (product : Product) : Catalogue :=
  { catalogue with
    products := catalogue.products.map fun other =>
      if other.id = product.id then product else other }

namespace ProductsService

/-- What `getLiveRates` answers, the time, and whether the history row is
saved. -/
structure Moment where
  liveRates : Except HttpException Rates
  now : Date
  saved : Fault := none

/-- The result, unless saving the history row throws. -/
def afterSave {α : Type} (moment : Moment) (result : α) :
    Except HttpException α :=
  match moment.saved with
  | none => .ok result
  | some error => .error error

/-- The price as a decimal string and in minor units, if it is accepted. -/
def acceptPrice (basePrice : Number) (baseCurrency : Currency) :
    Except HttpException (String × String) := do
  validatePrice basePrice baseCurrency
  let basePriceDecimal := basePrice.toText
  let basePriceMinor ← minorUnitsString (.number basePrice) baseCurrency
  pure (basePriceDecimal, basePriceMinor)

def create (moment : Moment) (sellerId : Id) (dto : CreateProductDto)
    (catalogue : Catalogue) : Except HttpException Product × Catalogue :=
  let baseCurrency := (dto.baseCurrency <|> dto.currency).getD .USD
  match dto.basePrice <|> dto.price with
  | none => (.error (.badRequest "Price is required."), catalogue)
  | some basePrice =>
    match acceptPrice basePrice baseCurrency with
    | .error error => (.error error, catalogue)
    | .ok (basePriceDecimal, basePriceMinor) =>
      match moment.liveRates with
      | .error error => (.error error, catalogue)
      | .ok rates =>
        let initialHistory : ProductPriceHistoryEntry :=
          { basePrice := basePriceDecimal
            basePriceMinor
            baseCurrency
            changedAt := moment.now
            rateSnapshot := rates
            rateTimestamp := moment.now
            updatedBy := sellerId
            reason := some "initial_price" }
        let product : Product :=
          { id := catalogue.drawn
            sellerId
            name := dto.name
            category := dto.category
            basePrice := basePriceDecimal
            basePriceMinor
            baseCurrency
            price := basePriceDecimal
            priceMinor := basePriceMinor
            currency := baseCurrency
            description := dto.description
            images := dto.images
            createdAt := moment.now
            updatedAt := moment.now
            priceHistory := [initialHistory] }
        (afterSave moment product,
          { products := catalogue.products ++ [product]
            drawn := catalogue.drawn + 1 })

def toDisplayProduct (liveRates : Except HttpException Rates)
    (product : Product) (preferredCurrency : Option Currency) :
    Except HttpException DisplayProduct := do
  let displayCurrency := preferredCurrency.getD product.baseCurrency
  let convertedPriceString ← convertAmountToString liveRates
    (.string product.basePrice) product.baseCurrency displayCurrency
  let convertedPrice := numberOf convertedPriceString
  let conversionRate ←
    getConversionRate liveRates product.baseCurrency displayCurrency
  pure
    { product
      convertedPrice
      convertedPriceString
      convertedCurrency := displayCurrency
      conversionRate
      displayPrice := s!"{displayCurrency} {convertedPriceString}" }

section

variable (toLowerCase : String → String)

/-- The `filter` of `findAll`.  An empty text asks for nothing. -/
def matchesFilters (filters : FilterProductDto) (shown : DisplayProduct) :
    Bool :=
  (match filters.search with
    | none => true
    | some search => search = "" || (toLowerCase search).toList <:+:
          (toLowerCase shown.product.name).toList) &&
  (match filters.category with
    | none => true
    | some category => category = "" || shown.product.category = category) &&
  (match filters.minPrice with
    | none => true
    | some minPrice => Number.le (.finite minPrice) shown.convertedPrice) &&
  (match filters.maxPrice with
    | none => true
    | some maxPrice => Number.le shown.convertedPrice (.finite maxPrice))

def findAll (liveRates : Except HttpException Rates)
    (filters : FilterProductDto) (catalogue : Catalogue) :
    Except HttpException (List DisplayProduct) := do
  let shown ← catalogue.products.mapM fun product =>
    toDisplayProduct liveRates product filters.preferredCurrency
  pure (((shown.filter (matchesFilters toLowerCase filters)).drop
    filters.offset).take filters.limit)

end

/-- `products.find((p) => p.id === id)`. -/
def findProduct (id : Id) (catalogue : Catalogue) : Option Product :=
  catalogue.products.find? fun product => product.id = id

def findOne (liveRates : Except HttpException Rates) (id : Id)
    (preferredCurrency : Option Currency) (catalogue : Catalogue) :
    Except HttpException (Option DisplayProduct) :=
  match findProduct id catalogue with
  | none => .ok none
  | some product => do
      let shown ← toDisplayProduct liveRates product preferredCurrency
      pure (some shown)

def updatePrice (moment : Moment) (id sellerId : Id) (dto : UpdatePriceDto)
    (catalogue : Catalogue) : Except HttpException Product × Catalogue :=
  let refused : HttpException := .forbidden "Not allowed to update this product price"
  match findProduct id catalogue with
  | none => (.error refused, catalogue)
  | some product =>
    if product.sellerId ≠ sellerId then (.error refused, catalogue)
    else
      match acceptPrice dto.basePrice dto.baseCurrency with
      | .error error => (.error error, catalogue)
      | .ok (basePriceDecimal, basePriceMinor) =>
        let hasChanged := product.basePrice ≠ basePriceDecimal ∨
          product.baseCurrency ≠ dto.baseCurrency
        if ¬ hasChanged then (.ok product, catalogue)
        else
          -- the product has its new price before the rates are asked for
          let repriced : Product :=
            { product with
              basePrice := basePriceDecimal
              basePriceMinor
              baseCurrency := dto.baseCurrency
              price := basePriceDecimal
              priceMinor := basePriceMinor
              currency := dto.baseCurrency
              updatedAt := moment.now }
          match moment.liveRates with
          | .error error => (.error error, catalogue.put repriced)
          | .ok rates =>
            let entry : ProductPriceHistoryEntry :=
              { basePrice := basePriceDecimal
                basePriceMinor
                baseCurrency := dto.baseCurrency
                changedAt := moment.now
                rateSnapshot := rates
                rateTimestamp := moment.now
                updatedBy := sellerId
                reason := dto.reason }
            let updated : Product :=
              { repriced with
                priceHistory := product.priceHistory ++ [entry] }
            (afterSave moment updated, catalogue.put updated)

/-- `Object.assign(product, rest)`, of the fields that are sent. -/
def assignRest (moment : Moment) (dto : UpdateProductDto) (product : Product) : Product :=
  { product with
    name := dto.name.getD product.name
    category := dto.category.getD product.category
    description := dto.description <|> product.description
    images := dto.images.getD product.images
    updatedAt := moment.now }

def update (moment : Moment) (id sellerId : Id) (dto : UpdateProductDto)
    (catalogue : Catalogue) : Except HttpException Product × Catalogue :=
  let refused : HttpException := .forbidden "Not allowed to update this product"
  match findProduct id catalogue with
  | none => (.error refused, catalogue)
  | some product =>
    if product.sellerId ≠ sellerId then (.error refused, catalogue)
    else if dto.basePrice.isSome ∨ dto.baseCurrency.isSome ∨
        dto.price.isSome ∨ dto.currency.isSome then
      match updatePrice moment id sellerId
          { basePrice := (dto.basePrice <|> dto.price).getD
              (numberOf product.basePrice)
            baseCurrency := (dto.baseCurrency <|> dto.currency).getD
              product.baseCurrency } catalogue with
      | (.error error, repriced) => (.error error, repriced)
      | (.ok priced, repriced) =>
        let updated := assignRest moment dto priced
        (.ok updated, repriced.put updated)
    else
      let updated := assignRest moment dto product
      (.ok updated, catalogue.put updated)

/-- The images go first; failing there stops nothing. -/
def remove (liveRates : Except HttpException Rates) (id sellerId : Id)
    (catalogue : Catalogue) : Except HttpException Bool × Catalogue :=
  let refused : HttpException := .forbidden "Not allowed to delete this product"
  match findOne liveRates id none catalogue with
  | .error error => (.error error, catalogue)
  | .ok none => (.error refused, catalogue)
  | .ok (some shown) =>
    if shown.product.sellerId ≠ sellerId then (.error refused, catalogue)
    else
      (.ok true,
        { catalogue with
          products := catalogue.products.filter (·.id ≠ id) })

end ProductsService

end MarketX.Products
