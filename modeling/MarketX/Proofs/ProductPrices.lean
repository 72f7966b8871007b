/-
Module: MarketX.Proofs.ProductPrices
Purpose: A product of the catalogue can be read back, shown and removed
  exactly where JavaScript writes its price without an exponent; with one, it
  keeps the whole catalogue from being shown.
Trusted boundary: none beyond the model; the definitions under review are
  Showable and the runs of the catalogue
Main exports: Call, catalogueStep, WellStored, accepted_products_shown
-/
import MarketX.Effects.Runs
import MarketX.Products.Rules

namespace MarketX.Products

open Effects Numerals PricingService ProductsService

/-! ### Runs -/

/-- A call that may change the catalogue. -/
inductive Call where
  | create (moment : Moment) (sellerId : Id) (dto : CreateProductDto)
  | update (moment : Moment) (id sellerId : Id) (dto : UpdateProductDto)
  | updatePrice (moment : Moment) (id sellerId : Id) (dto : UpdatePriceDto)
  | remove (liveRates : Except HttpException Rates) (id sellerId : Id)

def catalogueStep (catalogue : Catalogue) : Call → Catalogue
  | .create moment sellerId dto => (create moment sellerId dto catalogue).2
  | .update moment id sellerId dto =>
    (update moment id sellerId dto catalogue).2
  | .updatePrice moment id sellerId dto =>
    (updatePrice moment id sellerId dto catalogue).2
  | .remove liveRates id sellerId =>
    (remove liveRates id sellerId catalogue).2

/-- The price of the product is one that was accepted. -/
def Priced (product : Product) : Prop := ∃ price : Number, acceptPrice price product.baseCurrency =
    .ok (product.basePrice, product.basePriceMinor)

/-- Identifiers are not used twice, and every price was accepted. -/
structure WellStored (catalogue : Catalogue) : Prop where
  drawn : ∀ product ∈ catalogue.products, product.id < catalogue.drawn
  unique : (catalogue.products.map Product.id).Nodup
  priced : ∀ product ∈ catalogue.products, Priced product

variable {catalogue : Catalogue} {product : Product} {liveRates : Except HttpException Rates}

theorem WellStored.put (stored : WellStored catalogue) (priced : Priced product) :
    WellStored (catalogue.put product) := by
  have same : (catalogue.put product).products.map Product.id =
      catalogue.products.map Product.id := by
    simp only [Catalogue.put, List.map_map]
    refine List.map_congr_left fun other _ => ?_
    grind
  refine ⟨fun other member => ?_, by rw [same]; exact stored.unique, fun other member => ?_⟩
  · have listed := List.mem_map_of_mem (f := Product.id) member
    rw [same] at listed
    obtain ⟨before, was, id⟩ := List.mem_map.mp listed
    rw [← id]
    exact stored.drawn before was
  · obtain ⟨before, was, result⟩ := List.mem_map.mp member
    grind [priced]

theorem WellStored.create
    (stored : WellStored catalogue) (moment : Moment) (sellerId : Id) (dto : CreateProductDto) :
    WellStored (create moment sellerId dto catalogue).2 := by
  unfold ProductsService.create
  cases dto.basePrice <|> dto.price with
  | none => exact stored
  | some basePrice =>
    dsimp only
    cases accepted : acceptPrice basePrice _ with
    | error error => exact stored
    | ok strings =>
      dsimp only
      split
      · exact stored
      refine ⟨fun product member => ?_, ?_, fun product member => ?_⟩
      · rcases List.mem_append.mp member with before | new
        · exact Nat.lt_succ_of_lt (stored.drawn product before)
        · simp_all
      · rw [List.map_append, List.nodup_append]
        refine ⟨stored.unique, List.nodup_singleton _, ?_⟩
        rintro id before _ new rfl
        obtain ⟨product, member, same⟩ := List.mem_map.mp before
        cases List.mem_singleton.mp new
        exact absurd same (stored.drawn product member).ne
      · rcases List.mem_append.mp member with before | new
        · exact stored.priced product before
        · cases List.mem_singleton.mp new
          exact ⟨basePrice, accepted⟩

theorem priced_of_error {error : HttpException} (product : Product)
    (returned : (.error error : Except HttpException Product) = .ok product) :
    Priced product := by
  cases returned

/-- What is left is well stored, and what is returned has an accepted
price. -/
theorem WellStored.updatePrice
    (stored : WellStored catalogue) (moment : Moment) (id sellerId : Id) (dto : UpdatePriceDto) :
    let result := updatePrice moment id sellerId dto catalogue
    WellStored result.2 ∧ ∀ product, result.1 = .ok product → Priced product := by
  unfold ProductsService.updatePrice
  cases found : findProduct id catalogue with
  | none => exact ⟨stored, priced_of_error⟩
  | some product =>
    have member : product ∈ catalogue.products := List.mem_of_find?_eq_some found
    dsimp only
    split
    · exact ⟨stored, priced_of_error⟩
    cases accepted : acceptPrice dto.basePrice dto.baseCurrency with
    | error error => exact ⟨stored, priced_of_error⟩
    | ok strings =>
      dsimp only
      split
      · refine ⟨stored, ?_⟩
        rintro _ ⟨⟩
        exact stored.priced product member
      split
      · exact ⟨stored.put ⟨dto.basePrice, accepted⟩, priced_of_error⟩
      · refine ⟨stored.put ⟨dto.basePrice, accepted⟩, ?_⟩
        intro updated returned
        unfold afterSave at returned
        split at returned
        · cases returned
          exact ⟨dto.basePrice, accepted⟩
        · cases returned

theorem WellStored.update
    (stored : WellStored catalogue) (moment : Moment) (id sellerId : Id) (dto : UpdateProductDto) :
    WellStored (update moment id sellerId dto catalogue).2 := by
  unfold ProductsService.update
  cases found : findProduct id catalogue with
  | none => exact stored
  | some product =>
    have member : product ∈ catalogue.products := List.mem_of_find?_eq_some found
    dsimp only
    split
    · exact stored
    split
    · obtain ⟨left, returns⟩ := stored.updatePrice moment id sellerId
        { basePrice := (dto.basePrice <|> dto.price).getD
            (numberOf product.basePrice)
          baseCurrency := (dto.baseCurrency <|> dto.currency).getD
            product.baseCurrency }
      split
      next error repriced result =>
          rw [result] at left
          exact left
      next priced repriced result =>
          rw [result] at left returns
          exact left.put (returns priced rfl)
    · exact stored.put (stored.priced product member)

theorem WellStored.remove (stored : WellStored catalogue)
    (liveRates : Except HttpException Rates) (id sellerId : Id) :
    WellStored (remove liveRates id sellerId catalogue).2 := by
  unfold ProductsService.remove
  split
  · exact stored
  · exact stored
  · split
    · exact stored
    · have fewer : (catalogue.products.filter (·.id ≠ id)).Sublist
          catalogue.products := List.filter_sublist
      exact ⟨fun product member => stored.drawn product (fewer.subset member),
        stored.unique.sublist (fewer.map Product.id),
        fun product member => stored.priced product (fewer.subset member)⟩

theorem WellStored.step (stored : WellStored catalogue)
    (call : Call) : WellStored (catalogueStep catalogue call) := by
  cases call with
  | create moment sellerId dto => exact stored.create moment sellerId dto
  | update moment id sellerId dto => exact stored.update moment id sellerId dto
  | updatePrice moment id sellerId dto => exact (stored.updatePrice moment id sellerId dto).1
  | remove liveRates id sellerId => exact stored.remove liveRates id sellerId

theorem wellStored_empty : WellStored {} :=
  ⟨List.forall_mem_nil _, List.nodup_nil, List.forall_mem_nil _⟩

theorem wellStored_run (history : List Call) :
    WellStored (run catalogueStep {} history) :=
  run_preserves (fun _ call stored => stored.step call) wellStored_empty history

/-! ### Showing -/

theorem findProduct_of_mem (stored : WellStored catalogue) (member : product ∈ catalogue.products) :
    findProduct product.id catalogue = some product := by
  cases found : findProduct product.id catalogue with
  | none =>
    have other := List.find?_eq_none.mp found product member
    simp at other
  | some first =>
    have same : first.id = product.id := by simpa using List.find?_some found
    have listed := List.mem_of_find?_eq_some found
    rw [List.inj_on_of_nodup_map stored.unique listed member same]

theorem toDisplayProduct_product {preferred : Option Currency} {shown : DisplayProduct}
    (done : toDisplayProduct liveRates product preferred = .ok shown) :
    shown.product = product := by
  obtain ⟨text, _, rest⟩ := bind_eq_ok.mp done
  obtain ⟨rate, _, built⟩ := bind_eq_ok.mp rest
  cases built
  rfl

theorem findAll_succeeds {toLowerCase : String → String} {filters : FilterProductDto} :
    Succeeds (findAll toLowerCase liveRates filters catalogue) ↔
      ∀ product ∈ catalogue.products, Succeeds
        (toDisplayProduct liveRates product filters.preferredCurrency) := by
  unfold findAll
  rw [succeeds_bind, ← succeeds_mapM]
  constructor
  · rintro ⟨shown, done, _⟩
    exact ⟨shown, done⟩
  · rintro ⟨shown, done⟩
    exact ⟨shown, done, succeeds_pure _⟩

/-- The price reads back, and showing or removing the product throws in no
currency and at no rates.  The list may still throw because of others. -/
structure Showable (toLowerCase : String → String) (catalogue : Catalogue)
    (product : Product) : Prop where
  reads_back :
    ReadsBack product.basePrice product.basePriceMinor product.baseCurrency
  findOne : ∀ rates : Rates, rates.Positive → ∀ preferred, ∃ shown,
    findOne (.ok rates) product.id preferred catalogue = .ok (some shown) ∧ shown.product = product
  findAll : ∀ rates : Rates, rates.Positive → ∀ filters,
    (∀ other ∈ catalogue.products, other ≠ product →
      Succeeds (toDisplayProduct (.ok rates) other filters.preferredCurrency)) →
    Succeeds (findAll toLowerCase (.ok rates) filters catalogue)
  remove : ∀ rates : Rates, rates.Positive → ∃ left,
    remove (.ok rates) product.id product.sellerId catalogue = (.ok true, left) ∧
      product ∉ left.products

section

variable {catalogue : Catalogue} {product : Product}

theorem showable_of_readsBack (toLowerCase : String → String)
    (stored : WellStored catalogue) (member : product ∈ catalogue.products)
    (readsBack : ReadsBack product.basePrice product.basePriceMinor product.baseCurrency) :
    Showable toLowerCase catalogue product := by
  have ⟨decimal, read, _⟩ := readsBack
  have found := findProduct_of_mem stored member
  have shows : ∀ rates : Rates, rates.Positive → ∀ preferred,
      Succeeds (toDisplayProduct (.ok rates) product preferred) :=
    fun rates positive preferred =>
      (toDisplayProduct_succeeds positive).mpr ⟨decimal, read⟩
  have finds : ∀ rates : Rates, rates.Positive → ∀ preferred, ∃ shown,
      findOne (.ok rates) product.id preferred catalogue = .ok (some shown) ∧
        shown.product = product := by
    intro rates positive preferred
    obtain ⟨shown, done⟩ := shows rates positive preferred
    refine ⟨shown, ?_, toDisplayProduct_product done⟩
    simp_all [ProductsService.findOne]
  refine ⟨readsBack, finds, ?_, ?_⟩
  · intro rates positive filters others
    refine findAll_succeeds.mpr fun other listed => ?_
    grind
  · intro rates positive
    obtain ⟨shown, answered, rfl⟩ := finds rates positive none
    simp_all [ProductsService.remove]

end

/-- In every state of the catalogue the price of each product is one that
`validatePrice` accepted, as JavaScript writes it.  The product reads back, is
shown and is removed exactly if the number is written without an exponent. -/
theorem accepted_products_shown (toLowerCase : String → String)
    (history : List Call) (product : Product)
    (stored : product ∈ (run catalogueStep {} history).products) :
    ∃ price : Number, validatePrice price product.baseCurrency = .ok () ∧
      product.basePrice = price.toText ∧
      (Showable toLowerCase (run catalogueStep {} history) product ↔
        'e' ∉ price.toText.toList) := by
  have well := wellStored_run history
  obtain ⟨price, accepted⟩ := well.priced product stored
  obtain ⟨_, valid, _⟩ := bind_eq_ok.mp accepted
  obtain ⟨x, rfl, text, plainReads⟩ := acceptPrice_ok accepted
  refine ⟨.finite x, valid, text, ?_, ?_⟩
  · rintro showable letter
    obtain ⟨decimal, read, _⟩ := showable.reads_back
    rw [show product.basePrice = (Number.finite x).toText from text] at read
    exact toText_exponent letter ⟨decimal, read⟩
  · intro plain
    exact showable_of_readsBack toLowerCase well stored (plainReads plain)

/-! ### The smallest price -/

theorem defaultRates_positive : defaultRates.Positive := by
  intro currency
  cases currency with
  | XLM => exact ⟨⟨1200000, 7⟩, by decide, by decide⟩
  | USDC => exact ⟨⟨10000000, 7⟩, by decide, by decide⟩
  | USD => exact ⟨⟨10000000, 7⟩, by decide, by decide⟩

def pin (price : Number) : CreateProductDto where
  name := "Pin"
  category := "pins"
  price := some price
  currency := some .XLM
  images := ["https://cdn.example.org/pin.png"]

/-- The catalogue with that pin in it. -/
def pins (price : Number) : Catalogue :=
  run catalogueStep {} [.create ⟨.ok defaultRates, 0, none⟩ 1 (pin price)]

/-- A millionth of an XLM is written without an exponent. -/
theorem cheap_pin_shown :
    ∃ product ∈ (pins (.finite (toDouble (1 / 10 ^ 6)))).products, product.basePrice = "0.000001" ∧
        Showable id (pins (.finite (toDouble (1 / 10 ^ 6)))) product := by
  obtain ⟨product, listed⟩ : ∃ product,
      (pins (.finite (toDouble (1 / 10 ^ 6)))).products = [product] :=
    List.length_eq_one_iff.mp (by decide +kernel)
  have texts : (pins (.finite (toDouble (1 / 10 ^ 6)))).products.map
      Product.basePrice = ["0.000001"] := by decide +kernel
  rw [listed] at texts
  have text : product.basePrice = "0.000001" := List.singleton_inj.mp texts
  have member : product ∈ (pins (.finite (toDouble (1 / 10 ^ 6)))).products := by
    rw [listed]
    exact List.mem_singleton_self product
  obtain ⟨price, _, same, shown⟩ := accepted_products_shown id
    [.create ⟨.ok defaultRates, 0, none⟩ 1 (pin (.finite (toDouble (1 / 10 ^ 6))))] product member
  exact ⟨product, member, text, shown.mpr (by rw [← same, text]; decide)⟩

/-- The smallest price that is accepted, a ten-millionth of an XLM, is written
`1e-7`.  From then on the list, the product and its removal throw. -/
theorem smallest_price_blocks :
    let price := Number.finite (toDouble (1 / 10 ^ 7))
    defaultRates.Positive ∧ validatePrice price .XLM = .ok () ∧
      (pins price).products.map Product.basePrice = ["1e-7"] ∧
      (pins price).products.map Product.basePriceMinor = ["1"] ∧
      (parseDecimal "1e-7").isOk = false ∧
      (findAll id (.ok defaultRates) {} (pins price)).isOk = false ∧
      (findOne (.ok defaultRates) 0 none (pins price)).isOk = false ∧
      (remove (.ok defaultRates) 0 1 (pins price)).1.isOk = false := by
  refine ⟨defaultRates_positive, ?_⟩
  decide +kernel

end MarketX.Products
