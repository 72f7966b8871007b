/-
Module: MarketX.Proofs.ProductRecords
Purpose: What the redundant price fields and the price history of every
  product say after any sequence of calls, and the one kind of call that
  breaks it: a new price that is stored before the rates cannot be read.
Trusted boundary: none beyond the model; the definitions under review are
  acceptedBy, interrupts, rejects, Recorded, Grows and RecordInvariant
Main exports: Recorded, RecordInvariant, Repriced, records_kept_iff
-/
import MarketX.Proofs.PriceLimits
import MarketX.Proofs.ProductPrices

namespace MarketX.Products

open Effects Numerals Price PricingService ProductsService

/-! ### What the calls ask for -/

structure AcceptedPrice where
  amount : Number
  currency : Currency

/-- A call of `updatePrice` for a product of the seller's own. -/
structure Repricing where
  moment : Moment
  product : Product
  dto : UpdatePriceDto

namespace Repricing

variable (repricing : Repricing)

def price : AcceptedPrice where
  amount := repricing.dto.basePrice
  currency := repricing.dto.baseCurrency

def accepted : Option (Id × AcceptedPrice) :=
  match acceptPrice repricing.dto.basePrice repricing.dto.baseCurrency with
  | .error _ => none
  | .ok _ => some (repricing.product.id, repricing.price)

/-- The price is accepted and is not the one the product has, and then the
rates cannot be read. -/
def interrupted : Bool :=
  match acceptPrice repricing.dto.basePrice repricing.dto.baseCurrency,
      repricing.moment.liveRates with
  | .ok (basePriceDecimal, _), .error _ =>
    repricing.product.basePrice ≠ basePriceDecimal ∨
      repricing.product.baseCurrency ≠ repricing.dto.baseCurrency
  | _, _ => false

end Repricing

/-- What `update` asks of `updatePrice`, if a price or a currency is sent. -/
def priceUpdate? (product : Product) (dto : UpdateProductDto) :
    Option UpdatePriceDto :=
  if dto.basePrice.isSome ∨ dto.baseCurrency.isSome ∨ dto.price.isSome ∨ dto.currency.isSome then
    some
      { basePrice := (dto.basePrice <|> dto.price).getD
          (numberOf product.basePrice)
        baseCurrency := (dto.baseCurrency <|> dto.currency).getD
          product.baseCurrency }
  else none

def ownProduct? (catalogue : Catalogue) (id sellerId : Id) : Option Product :=
  (findProduct id catalogue).filter (·.sellerId = sellerId)

def repricing? (catalogue : Catalogue) : Call → Option Repricing
  | .create .. => none
  | .remove .. => none
  | .updatePrice moment id sellerId dto => do
      let product ← ownProduct? catalogue id sellerId
      pure { moment, product, dto }
  | .update moment id sellerId dto => do
      let product ← ownProduct? catalogue id sellerId
      let dto ← priceUpdate? product dto
      pure { moment, product, dto }

/-- The product the call accepts a price for, and the price. -/
def acceptedBy (catalogue : Catalogue) : Call → Option (Id × AcceptedPrice)
  | .create moment _ dto =>
    let currency := (dto.baseCurrency <|> dto.currency).getD .USD
    match dto.basePrice <|> dto.price with
    | none => none
    | some amount =>
      match acceptPrice amount currency, moment.liveRates with
      | .ok _, .ok _ => some (catalogue.drawn, { amount, currency })
      | _, _ => none
  | call => (repricing? catalogue call).bind Repricing.accepted

def interrupts (catalogue : Catalogue) (call : Call) : Bool :=
  (repricing? catalogue call).any Repricing.interrupted

/-- Whether the call throws. -/
def throws (catalogue : Catalogue) : Call → Bool
  | .create moment sellerId dto => !(create moment sellerId dto catalogue).1.isOk
  | .update moment id sellerId dto => !(update moment id sellerId dto catalogue).1.isOk
  | .updatePrice moment id sellerId dto => !(updatePrice moment id sellerId dto catalogue).1.isOk
  | .remove liveRates id sellerId => !(remove liveRates id sellerId catalogue).1.isOk

/-- The call throws, and no price has been accepted. -/
def rejects (catalogue : Catalogue) (call : Call) : Prop :=
  throws catalogue call = true ∧ acceptedBy catalogue call = none

/-! ### Records -/

/-- The fields of a product that a price is written to. -/
structure PriceRecord where
  basePrice : String
  basePriceMinor : String
  baseCurrency : Currency
  price : String
  priceMinor : String
  currency : Currency
  priceHistory : List ProductPriceHistoryEntry

def Product.record (product : Product) : PriceRecord where
  basePrice := product.basePrice
  basePriceMinor := product.basePriceMinor
  baseCurrency := product.baseCurrency
  price := product.price
  priceMinor := product.priceMinor
  currency := product.currency
  priceHistory := product.priceHistory

/-- The entry has another price or another currency than the one before. -/
def Differs (before entry : ProductPriceHistoryEntry) : Prop := entry.basePrice ≠ before.basePrice ∨
    entry.baseCurrency ≠ before.baseCurrency

structure Carries (entry : ProductPriceHistoryEntry) (record : PriceRecord) :
    Prop where
  basePrice : entry.basePrice = record.basePrice
  basePriceMinor : entry.basePriceMinor = record.basePriceMinor
  baseCurrency : entry.baseCurrency = record.baseCurrency

/-- All fields agree with each other, with the price that was last accepted
for the product and with the last entry of the history. -/
structure Recorded (last : Option AcceptedPrice) (record : PriceRecord) :
    Prop where
  price : record.price = record.basePrice
  priceMinor : record.priceMinor = record.basePriceMinor
  currency : record.currency = record.baseCurrency
  accepted : ∃ amount, last = some ⟨amount, record.baseCurrency⟩ ∧
    acceptPrice amount record.baseCurrency = .ok (record.basePrice, record.basePriceMinor)
  carried : ∃ entry ∈ record.priceHistory.getLast?, Carries entry record
  differ : record.priceHistory.IsChain Differs

/-! ### Runs -/

/-- The catalogue, and the price last accepted for each identifier. -/
structure Offers where
  catalogue : Catalogue := {}
  accepted : Id → Option AcceptedPrice := fun _ => none

def note (accepted : Id → Option AcceptedPrice) :
    Option (Id × AcceptedPrice) → Id → Option AcceptedPrice
  | none => accepted
  | some (id, price) => Function.update accepted id (some price)

def offerStep (offers : Offers) (call : Call) : Offers where
  catalogue := catalogueStep offers.catalogue call
  accepted := note offers.accepted (acceptedBy offers.catalogue call)

/-- What was in the catalogue and still is has all entries it had. -/
structure Grows (before after : Catalogue) : Prop where
  drawn : before.drawn ≤ after.drawn
  history : ∀ product ∈ after.products, product.id < before.drawn →
    ∃ was ∈ before.products, was.id = product.id ∧ was.priceHistory <+: product.priceHistory

/-- What is to hold of a run from the empty catalogue, in each state that it
comes to. -/
structure RecordInvariant (history : List Call) : Prop where
  recorded : ∀ front back, history = front ++ back →
    ∀ product ∈ (run offerStep {} front).catalogue.products,
      Recorded ((run offerStep {} front).accepted product.id) product.record
  grows : ∀ front middle back, history = front ++ middle ++ back →
    Grows (run offerStep {} front).catalogue (run offerStep {} (front ++ middle)).catalogue
  rejected : ∀ front call back, history = front ++ call :: back →
    rejects (run offerStep {} front).catalogue call →
      catalogueStep (run offerStep {} front).catalogue call = (run offerStep {} front).catalogue

/-! ### The catalogue -/

section

variable {catalogue : Catalogue} {product : Product}

theorem Catalogue.put_put {other : Product} (same : other.id = product.id) :
    (catalogue.put product).put other = catalogue.put other := by
  simp only [Catalogue.put, List.map_map, same]
  congr 1
  refine List.map_congr_left fun before _ => ?_
  grind

theorem WellStored.put_self (stored : WellStored catalogue)
    (member : product ∈ catalogue.products) :
    catalogue.put product = catalogue := by
  have each : ∀ other ∈ catalogue.products,
      (if other.id = product.id then product else other) = other := by
    intro other listed
    split
    next same => exact (List.inj_on_of_nodup_map stored.unique listed member same).symm
    next => rfl
  rw [Catalogue.put, List.map_congr_left each, List.map_id'' fun _ => rfl]

theorem Catalogue.mem_put {other listed : Product}
    (member : product ∈ catalogue.products) (same : other.id = product.id) :
    listed ∈ (catalogue.put other).products ↔ listed = other ∨
      listed ∈ catalogue.products ∧ listed.id ≠ product.id := by grind [Catalogue.put]

end

/-! ### Steps -/

/-- The record with another price, and the history it had. -/
def PriceRecord.repriced (record : PriceRecord) (strings : String × String)
    (currency : Currency) : PriceRecord where
  basePrice := strings.1
  basePriceMinor := strings.2
  baseCurrency := currency
  price := strings.1
  priceMinor := strings.2
  currency := currency
  priceHistory := record.priceHistory

/-- What becomes of the record of a product, where this price is accepted
and this is whether the call is interrupted. -/
inductive Repriced (product : Product) :
    Option AcceptedPrice → Bool → PriceRecord → Prop where
  | kept : Repriced product none false product.record
  | confirmed {price : AcceptedPrice} {minor : String}
      (accepted : acceptPrice price.amount price.currency = .ok (product.basePrice, minor))
      (currency : product.baseCurrency = price.currency) :
      Repriced product (some price) false product.record
  | interrupted {price : AcceptedPrice} {strings : String × String}
      (accepted : acceptPrice price.amount price.currency = .ok strings)
      (changed : product.basePrice ≠ strings.1 ∨ product.baseCurrency ≠ price.currency) :
      Repriced product (some price) true (product.record.repriced strings price.currency)
  | recorded {price : AcceptedPrice} {strings : String × String} {entry : ProductPriceHistoryEntry}
      (accepted : acceptPrice price.amount price.currency = .ok strings)
      (changed : product.basePrice ≠ strings.1 ∨ product.baseCurrency ≠ price.currency) (carries :
        Carries entry (product.record.repriced strings price.currency)) :
      Repriced product (some price) false
        { product.record.repriced strings price.currency with
          priceHistory := product.priceHistory ++ [entry] }

variable {catalogue : Catalogue} {id sellerId : Id} {product : Product} {after : PriceRecord}
  {offers : Offers}

theorem ownProduct?_eq_some (own : ownProduct? catalogue id sellerId = some product) :
    findProduct id catalogue = some product ∧ product.sellerId = sellerId := by
  simpa [ownProduct?, Option.filter_eq_some_iff] using own

/-- `updatePrice` refuses the price and changes nothing, or puts a product
with the new record in place and answers with it, if anything. -/
theorem updatePrice_cases (stored : WellStored catalogue)
    (own : ownProduct? catalogue id sellerId = some product) (moment : Moment)
    (dto : UpdatePriceDto) :
    let repricing : Repricing := { moment, product, dto }
    let result := updatePrice moment id sellerId dto catalogue
    (repricing.accepted = none ∧ repricing.interrupted = false ∧
        ∃ error, result = (.error error, catalogue)) ∨
      ∃ other, result.2 = catalogue.put other ∧ other.id = product.id ∧
        (result.1 = .ok other ∨ ∃ error, result.1 = .error error) ∧
        repricing.accepted = some (product.id, repricing.price) ∧
        Repriced product (some repricing.price) repricing.interrupted
          other.record := by
  obtain ⟨found, owned⟩ := ownProduct?_eq_some own
  have member : product ∈ catalogue.products := List.mem_of_find?_eq_some found
  intro repricing result
  have answered : updatePrice moment id sellerId dto catalogue = result := rfl
  rw [updatePrice, found] at answered
  dsimp only at answered
  rw [if_neg (not_not.mpr owned)] at answered
  clear_value result
  obtain ⟨liveRates, now, saved⟩ := moment
  unfold Repricing.accepted Repricing.interrupted
  cases accepted : acceptPrice dto.basePrice dto.baseCurrency with
  | error error => grind
  | ok strings =>
    rw [accepted] at answered
    dsimp only [repricing] at answered ⊢
    refine .inr ?_
    by_cases changed : product.basePrice ≠ strings.1 ∨ product.baseCurrency ≠ dto.baseCurrency
    · rw [if_neg (not_not.mpr changed)] at answered
      cases liveRates with
      | error error =>
        subst answered
        refine ⟨_, rfl, rfl, .inr ⟨error, rfl⟩, rfl, ?_⟩
        dsimp only
        rw [decide_eq_true changed]
        exact .interrupted accepted changed
      | ok rates =>
        subst answered
        refine ⟨_, rfl, rfl, ?_, rfl, .recorded accepted changed ⟨rfl, rfl, rfl⟩⟩
        cases saved with
        | none => exact .inl rfl
        | some error => exact .inr ⟨error, rfl⟩
    · rw [if_pos changed] at answered
      subst answered
      obtain ⟨price, currency⟩ := not_or.mp changed
      have confirmed : acceptPrice dto.basePrice dto.baseCurrency =
          .ok (product.basePrice, strings.2) := by rw [accepted, not_not.mp price]
      refine ⟨product, (stored.put_self member).symm, rfl, .inl rfl, rfl, ?_⟩
      cases liveRates with
      | error error =>
        dsimp only
        rw [decide_eq_false changed]
        exact .confirmed confirmed (not_not.mp currency)
      | ok rates => exact .confirmed confirmed (not_not.mp currency)

/-- What a call leaves of the catalogue, where it accepts this price and these
are whether it is interrupted and whether it throws. -/
inductive Stepped (catalogue : Catalogue) :
    Option (Id × AcceptedPrice) → Bool → Bool → Catalogue → Prop where
  | same {threw : Bool} : Stepped catalogue none false threw catalogue
  | replaced {product other : Product} {price : Option AcceptedPrice}
      {interrupted threw : Bool} (member : product ∈ catalogue.products)
      (id : other.id = product.id) (repriced : Repriced product price interrupted other.record)
      (answered : price = none → threw = false) :
      Stepped catalogue (price.map (product.id, ·)) interrupted threw (catalogue.put other)
  | created {product : Product} {price : AcceptedPrice} {threw : Bool}
      (id : product.id = catalogue.drawn) (recorded : Recorded (some price) product.record) :
      Stepped catalogue (some (catalogue.drawn, price)) false threw
        { products := catalogue.products ++ [product]
          drawn := catalogue.drawn + 1 }
  | removed {id : Id} : Stepped catalogue none false false
      { catalogue with products := catalogue.products.filter (·.id ≠ id) }

section

variable {catalogue : Catalogue}

theorem created_recorded {amount : Number} {currency : Currency} {strings : String × String}
    (accepted : acceptPrice amount currency = .ok strings)
    {entry : ProductPriceHistoryEntry} {record : PriceRecord}
    (same : record = { record.repriced strings currency with
      priceHistory := [entry] })
    (carries : Carries entry record) :
    Recorded (some { amount, currency }) record := by
  obtain ⟨basePrice, basePriceMinor, baseCurrency⟩ := carries
  rw [same]
  exact ⟨rfl, rfl, rfl, ⟨amount, rfl, accepted⟩, ⟨entry, rfl, by rw [basePrice, same]; rfl,
      by rw [basePriceMinor, same]; rfl, by rw [baseCurrency, same]; rfl⟩, List.isChain_singleton _⟩

theorem create_stepped (moment : Moment) (sellerId : Id) (dto : CreateProductDto) :
    let call := Call.create moment sellerId dto
    Stepped catalogue (acceptedBy catalogue call) (interrupts catalogue call)
      (throws catalogue call) (catalogueStep catalogue call) := by
  intro call
  show Stepped catalogue _ false _ (create moment sellerId dto catalogue).2
  unfold ProductsService.create
  simp only [call, acceptedBy]
  cases dto.basePrice <|> dto.price with
  | none => exact .same
  | some amount =>
    dsimp only
    cases accepted : acceptPrice amount _ with
    | error error => exact .same
    | ok strings =>
      obtain ⟨liveRates, now, saved⟩ := moment
      cases liveRates with
      | error error => exact .same
      | ok rates => exact .created rfl (created_recorded accepted rfl ⟨rfl, rfl, rfl⟩)

theorem sold_by_other {id sellerId : Id} {product : Product}
    (none : ownProduct? catalogue id sellerId = none)
    (found : findProduct id catalogue = some product) :
    product.sellerId ≠ sellerId := by simpa [ownProduct?, found, Option.filter] using none

theorem updatePrice_refused {id sellerId : Id}
    (none : ownProduct? catalogue id sellerId = none) (moment : Moment) (dto : UpdatePriceDto) :
    ∃ error, updatePrice moment id sellerId dto catalogue = (.error error, catalogue) := by
  unfold ProductsService.updatePrice
  cases found : findProduct id catalogue with
  | none => exact ⟨_, rfl⟩
  | some product => exact ⟨_, if_pos (sold_by_other none found)⟩

theorem repricing_asked {call : Call} {repricing : Repricing}
    (asked : repricing? catalogue call = some repricing) :
    acceptedBy catalogue call = repricing.accepted ∧
      interrupts catalogue call = repricing.interrupted := by
  have accepted : (repricing? catalogue call).bind Repricing.accepted =
      repricing.accepted := by rw [asked, Option.bind_some]
  refine ⟨?_, by rw [interrupts, asked, Option.any_some]⟩
  cases call with
  | create moment sellerId dto => exact absurd asked (Option.some_ne_none _).symm
  | remove liveRates id sellerId => exact absurd asked (Option.some_ne_none _).symm
  | update moment id sellerId dto => exact accepted
  | updatePrice moment id sellerId dto => exact accepted

theorem updatePrice_stepped (stored : WellStored catalogue) (moment : Moment)
    (id sellerId : Id) (dto : UpdatePriceDto) :
    let call := Call.updatePrice moment id sellerId dto
    Stepped catalogue (acceptedBy catalogue call) (interrupts catalogue call)
      (throws catalogue call) (catalogueStep catalogue call) := by
  intro call
  cases own : ownProduct? catalogue id sellerId with
  | none =>
    obtain ⟨error, refused⟩ := updatePrice_refused own moment dto
    simp only [call, acceptedBy, interrupts, repricing?, own, catalogueStep, refused]
    exact .same
  | some product =>
    have member : product ∈ catalogue.products :=
      List.mem_of_find?_eq_some (ownProduct?_eq_some own).1
    have asked : repricing? catalogue call = some { moment, product, dto } := by
      simp only [call, repricing?, own]
      rfl
    obtain ⟨accepted, interrupted⟩ := repricing_asked asked
    rw [accepted, interrupted]
    obtain ⟨none, not, error, result⟩ | ⟨other, left, same, _, price, repriced⟩ :=
      updatePrice_cases stored own moment dto
    · rw [none, not, catalogueStep, result]
      exact .same
    · rw [price, catalogueStep, left]
      exact .replaced member same repriced (fun none => nomatch none)

section

variable {id sellerId : Id} (moment : Moment) (dto : UpdateProductDto)

theorem update_refused (none : ownProduct? catalogue id sellerId = none) :
    ∃ error, update moment id sellerId dto catalogue = (.error error, catalogue) := by
  unfold ProductsService.update
  cases found : findProduct id catalogue with
  | none => exact ⟨_, rfl⟩
  | some product => exact ⟨_, if_pos (sold_by_other none found)⟩

variable {product : Product} (own : ownProduct? catalogue id sellerId = some product)
include own

theorem update_unpriced (unpriced : priceUpdate? product dto = none) :
    update moment id sellerId dto catalogue = (.ok (assignRest moment dto product),
        catalogue.put (assignRest moment dto product)) := by
  obtain ⟨found, owned⟩ := ownProduct?_eq_some own
  simp_all [priceUpdate?, ProductsService.update]

theorem update_priced {price : UpdatePriceDto} (priced : priceUpdate? product dto = some price) :
    update moment id sellerId dto catalogue =
      match updatePrice moment id sellerId price catalogue with
      | (.error error, repriced) => (.error error, repriced)
      | (.ok priced, repriced) => (.ok (assignRest moment dto priced),
          repriced.put (assignRest moment dto priced)) := by
  obtain ⟨found, owned⟩ := ownProduct?_eq_some own
  unfold priceUpdate? at priced
  rw [ProductsService.update, found]
  grind

end

theorem update_stepped (stored : WellStored catalogue) (moment : Moment)
    (id sellerId : Id) (dto : UpdateProductDto) :
    let call := Call.update moment id sellerId dto
    Stepped catalogue (acceptedBy catalogue call) (interrupts catalogue call)
      (throws catalogue call) (catalogueStep catalogue call) := by
  intro call
  cases own : ownProduct? catalogue id sellerId with
  | none =>
    obtain ⟨error, refused⟩ := update_refused moment dto own
    simp only [call, acceptedBy, interrupts, repricing?, own, catalogueStep, refused]
    exact .same
  | some product =>
    have member : product ∈ catalogue.products :=
      List.mem_of_find?_eq_some (ownProduct?_eq_some own).1
    cases sent : priceUpdate? product dto with
    | none =>
      have not : repricing? catalogue call = none := by
        simp only [call, repricing?, own, bind, Option.bind, sent]
      have updated := update_unpriced moment dto own sent
      have unchanged : Repriced product none false (assignRest moment dto product).record := .kept
      have same : (assignRest moment dto product).id = product.id := rfl
      simp only [call, acceptedBy, interrupts, not, throws, catalogueStep, updated]
      exact .replaced member same unchanged fun _ => rfl
    | some price =>
      have asked : repricing? catalogue call = some { moment, product, dto := price } := by
        simp only [call, repricing?, own, bind, Option.bind, sent]
        rfl
      have updated := update_priced moment dto own sent
      obtain ⟨accepted, interrupted⟩ := repricing_asked asked
      rw [accepted, interrupted, catalogueStep, updated]
      obtain ⟨none, not, error, result⟩ | ⟨other, left, same, returned, noted, repriced⟩ :=
        updatePrice_cases stored own moment price
      · rw [none, not, result]
        exact .same
      · rw [noted]
        have some :
            some (Repricing.price { moment, product, dto := price }) = none →
              throws catalogue call = false := by intros; contradiction
        generalize updatePrice moment id sellerId price catalogue = result at left returned
        obtain ⟨answer, repricedCatalogue⟩ := result
        have identity : (assignRest moment dto other).id = other.id := rfl
        subst left
        rcases returned with rfl | ⟨error, rfl⟩
        · dsimp only
          rw [Catalogue.put_put identity]
          exact .replaced member (identity.trans same) repriced some
        · exact .replaced member same repriced some

theorem remove_stepped (liveRates : Except HttpException Rates) (id sellerId : Id) :
    let call := Call.remove liveRates id sellerId
    Stepped catalogue (acceptedBy catalogue call) (interrupts catalogue call)
      (throws catalogue call) (catalogueStep catalogue call) := by
  intro call
  show Stepped catalogue none false (!(remove liveRates id sellerId catalogue).1.isOk)
    (remove liveRates id sellerId catalogue).2
  unfold ProductsService.remove
  split
  · exact .same
  · exact .same
  · split
    · exact .same
    · exact .removed

theorem stepped (stored : WellStored catalogue) (call : Call) :
    Stepped catalogue (acceptedBy catalogue call) (interrupts catalogue call)
      (throws catalogue call) (catalogueStep catalogue call) := by
  cases call <;> simp_all [create_stepped, update_stepped, updatePrice_stepped, remove_stepped]

end

/-! ### The invariant -/

/-- A record stays as it is to be, unless the call is interrupted: then the
last entry has the price of before. -/
theorem Repriced.recorded_iff
    {last price : Option AcceptedPrice} {interrupted : Bool}
    (repriced : Repriced product price interrupted after)
    (recorded : Recorded last product.record) :
    Recorded (price.or last) after ↔ interrupted = false := by
  obtain ⟨entry, latest, carries⟩ := recorded.carried
  cases repriced with
  | kept => exact iff_of_true recorded rfl
  | @confirmed price minor accepted currency =>
    refine iff_of_true { recorded with accepted := ?_ } rfl
    obtain ⟨amount, _, was⟩ := recorded.accepted
    have same : acceptPrice price.amount product.baseCurrency =
        .ok (product.basePrice, minor) := currency ▸ accepted
    have minors := acceptPrice_text same was rfl
    exact ⟨price.amount, by rw [show product.record.baseCurrency =
      price.currency from currency]; rfl, same.trans (congrArg _ minors)⟩
  | interrupted accepted changed =>
    refine iff_of_false (fun after => ?_) nofun
    obtain ⟨other, alsoLatest, also⟩ := after.carried
    cases Option.mem_unique latest alsoLatest
    rcases changed with price | currency
    · exact price (carries.basePrice.symm.trans also.basePrice)
    · exact currency (carries.baseCurrency.symm.trans also.baseCurrency)
  | @recorded price strings added accepted changed new =>
    refine iff_of_true ⟨rfl, rfl, rfl, ⟨price.amount, rfl, accepted⟩,
      ⟨added, List.getLast?_concat, new.basePrice, new.basePriceMinor, new.baseCurrency⟩, ?_⟩ rfl
    refine recorded.differ.append (List.isChain_singleton added) ?_
    intro before wasLast first isFirst
    cases Option.mem_unique latest wasLast
    cases Option.some.inj isFirst
    rcases changed with price | currency
    · refine .inl fun same => price ?_
      exact carries.basePrice.symm.trans (same.symm.trans new.basePrice)
    · refine .inr fun same => currency ?_
      exact carries.baseCurrency.symm.trans (same.symm.trans new.baseCurrency)

theorem note_map (accepted : Id → Option AcceptedPrice) (id other : Id)
    (price : Option AcceptedPrice) :
    note accepted (price.map (id, ·)) other =
      if other = id then price.or (accepted other) else accepted other := by
  cases price with
  | none => exact (ite_self _).symm
  | some price => exact Function.update_apply accepted id (some price) other

structure AllRecorded (offers : Offers) : Prop where
  stored : WellStored offers.catalogue
  recorded : ∀ product ∈ offers.catalogue.products,
    Recorded (offers.accepted product.id) product.record

theorem AllRecorded.step_iff (held : AllRecorded offers) (call : Call) :
    AllRecorded (offerStep offers call) ↔ interrupts offers.catalogue call = false := by
  have step := stepped held.stored call
  have stored := held.stored.step call
  unfold offerStep
  generalize interrupts offers.catalogue call = interrupted at step ⊢
  generalize throws offers.catalogue call = threw at step
  generalize acceptedBy offers.catalogue call = noted at step ⊢
  generalize catalogueStep offers.catalogue call = after at step stored ⊢
  cases step with
  | same => exact iff_of_true held rfl
  | removed =>
    refine iff_of_true ⟨stored, fun product member => ?_⟩ rfl
    exact held.recorded product (List.mem_of_mem_filter member)
  | @created product price _ id recorded =>
    refine iff_of_true ⟨stored, fun listed member => ?_⟩ rfl
    rcases List.mem_append.mp member with before | new
    · have older := (held.stored.drawn listed before).ne
      dsimp only [note]
      rw [Function.update_of_ne older]
      exact held.recorded listed before
    · simp_all [note]
  | @replaced product other price _ _ member id repriced _ =>
    have same := held.recorded product member
    rw [← repriced.recorded_iff same]
    constructor
    · intro all
      have placed := (Catalogue.mem_put member id).mpr (.inl rfl)
      have recorded := all.recorded other placed
      simp_all [note_map]
    · intro recorded
      refine ⟨stored, fun listed placed => ?_⟩
      dsimp only
      rw [note_map]
      rcases (Catalogue.mem_put member id).mp placed with
        rfl | ⟨was, different⟩
      · rwa [if_pos id, id]
      · rw [if_neg different]
        exact held.recorded listed was

/-! ### Growth and rejections -/

theorem Grows.refl (catalogue : Catalogue) : Grows catalogue catalogue :=
  ⟨le_rfl, fun product member _ =>
    ⟨product, member, rfl, List.prefix_refl _⟩⟩

theorem Grows.trans {before middle after : Catalogue}
    (first : Grows before middle) (second : Grows middle after) :
    Grows before after := by
  refine ⟨first.drawn.trans second.drawn, fun product member older => ?_⟩
  obtain ⟨between, there, same, longer⟩ :=
    second.history product member (older.trans_le first.drawn)
  obtain ⟨was, here, alike, long⟩ := first.history between there (same ▸ older)
  exact ⟨was, here, alike.trans same, long.trans longer⟩

theorem Repriced.history {price : Option AcceptedPrice} {interrupted : Bool}
    (repriced : Repriced product price interrupted after) :
    product.priceHistory <+: after.priceHistory := by
  cases repriced with
  | kept | confirmed | interrupted => exact List.prefix_refl _
  | recorded => exact List.prefix_append _ _

section

variable {catalogue after : Catalogue} {noted : Option (Id × AcceptedPrice)}
  {interrupted threw : Bool} (step : Stepped catalogue noted interrupted threw after)
include step

theorem Stepped.grows : Grows catalogue after := by
  cases step with
  | same => exact .refl catalogue
  | removed =>
    exact ⟨le_rfl, fun product member _ => ⟨product,
      List.mem_of_mem_filter member, rfl, List.prefix_refl _⟩⟩
  | created id =>
    refine ⟨Nat.le_succ _, fun product member older => ?_⟩
    grind
  | @replaced product _ _ _ _ member id repriced =>
    refine ⟨le_rfl, fun listed placed _ => ?_⟩
    rcases (Catalogue.mem_put member id).mp placed with rfl | ⟨was, _⟩
    · exact ⟨product, member, id.symm, repriced.history⟩
    · exact ⟨listed, was, rfl, List.prefix_refl _⟩

theorem Stepped.rejected (thrown : threw = true) (nothing : noted = none) :
    after = catalogue := by cases step <;> simp_all

end

/-! ### The theorem -/

theorem stored_and_grown (stored : WellStored offers.catalogue) (calls : List Call) :
    WellStored (run offerStep offers calls).catalogue ∧
      Grows offers.catalogue (run offerStep offers calls).catalogue := by
  have preserved : ∀ (state : Offers) (call : Call),
      WellStored state.catalogue ∧ Grows offers.catalogue state.catalogue →
        WellStored (offerStep state call).catalogue ∧
          Grows offers.catalogue (offerStep state call).catalogue := by
    rintro state call ⟨well, grown⟩
    exact ⟨well.step call, grown.trans (stepped well call).grows⟩
  exact run_preserves preserved ⟨stored, .refl _⟩ calls

/-- The records are as they are to be in every state of a run exactly if no
call of it has a new price stored and then cannot read the rates. -/
theorem records_kept_iff (history : List Call) :
    RecordInvariant history ↔ Along offerStep
        (fun offers call => interrupts offers.catalogue call = false) {}
        history := by
  have well : ∀ front, WellStored (run offerStep {} front).catalogue :=
    fun front => (stored_and_grown wellStored_empty front).1
  have initially : AllRecorded {} := ⟨wellStored_empty, List.forall_mem_nil _⟩
  have turn : ∀ (offers : Offers) (call : Call), AllRecorded offers →
      (AllRecorded (offerStep offers call) ↔ interrupts offers.catalogue call = false) :=
    fun offers call held => held.step_iff call
  rw [← reached_iff_along turn initially]
  constructor
  · intro invariant front back split
    exact ⟨well front, invariant.recorded front back split⟩
  · intro all
    refine ⟨fun front back split => (all front back split).recorded, ?_, ?_⟩
    · intro front middle back _
      rw [run_append]
      exact (stored_and_grown (well front) middle).2
    · rintro front call back _ ⟨thrown, nothing⟩
      exact (stepped (well front) call).rejected thrown nothing

/-! ### The price without an entry -/

/-- The rates after an answer with no dollar price for lumens. -/
def unpricedLumens : Except HttpException Rates :=
  let answer := Json.object [("stellar", .object []),
      ("usd-coin", .object [("usd", .number (.finite 1))])]
  getLiveRates (some (PriceService.getRates 1 (PriceService.refreshRates 1 (.ok answer) {})).1)

/-- A pin is offered for one XLM, and then is to cost two. -/
def unreadRate : List Call := [.create ⟨.ok defaultRates, 0, none⟩ 1 (pin (.finite 1)),
    .updatePrice ⟨unpricedLumens, 1, none⟩ 0 1 { basePrice := .finite 2, baseCurrency := .XLM }]

/-- Reading the rates throws.  The pin costs two XLM from then on, and its
history ends with one. -/
theorem unrecorded_price :
    (unpricedLumens.isOk = false ∧ (run catalogueStep {} unreadRate).products.map (fun product =>
        (product.basePrice, product.price,
          product.priceHistory.map ProductPriceHistoryEntry.basePrice)) =
        [("2", "2", ["1"])]) ∧
      ¬ RecordInvariant unreadRate := by
  have left : (run catalogueStep {} unreadRate).products.map (fun product =>
      (product.basePrice, product.price,
        product.priceHistory.map ProductPriceHistoryEntry.basePrice)) =
      [("2", "2", ["1"])] := by decide +kernel
  refine ⟨⟨by decide, left⟩, fun invariant => ?_⟩
  obtain ⟨product, listed, same⟩ := List.mem_map.mp
    (left ▸ List.mem_singleton_self ("2", "2", ["1"]))
  obtain ⟨entry, last, carries⟩ := (invariant.recorded unreadRate []
    (List.append_nil _).symm product listed).carried
  simp only [Prod.mk.injEq] at same
  obtain ⟨price, _, history⟩ := same
  have recorded : product.priceHistory.getLast?.map
      ProductPriceHistoryEntry.basePrice = some "1" := by
    rw [← List.getLast?_map, history]
    rfl
  have latest : product.priceHistory.getLast? = some entry := last
  rw [latest, Option.map_some, carries.basePrice] at recorded
  exact absurd (price.symm.trans (Option.some.inj recorded)) (by decide)

end MarketX.Products
