/-
Module: MarketX.Proofs.PriceHistoryRows
Purpose: The rows of the price history table beside the histories that the
  products keep in memory, after any sequence of calls.
Trusted boundary: human-reviewed definition of ProductPriceEntity, priceRow,
  pushedEntry, recordStep and HistoryKept
Main exports: ProductPriceEntity, pushedEntry, loses, history_kept_iff
-/
import MarketX.Proofs.ProductRecords

namespace MarketX.Products

open Effects Numerals PricingService ProductsService

/-! ### The table -/

/-- `products/entities/product-price.entity.ts`, without its own key and the
date of its creation. -/
structure ProductPriceEntity where
  productId : Id
  basePrice : Number
  basePriceMinor : String
  rateSnapshot : Rates
  rateTimestamp : Date
  baseCurrency : Currency
  updatedBy : Id
  reason : Option String

/-- What is saved for an entry of the history. -/
def priceRow (productId : Id) (entry : ProductPriceHistoryEntry) :
    ProductPriceEntity where
  productId
  basePrice := numberOf entry.basePrice
  basePriceMinor := entry.basePriceMinor
  rateSnapshot := entry.rateSnapshot
  rateTimestamp := entry.rateTimestamp
  baseCurrency := entry.baseCurrency
  updatedBy := entry.updatedBy
  reason := entry.reason

/-- The entry that `updatePrice` pushes, if it comes to that. -/
def Repricing.entry (repricing : Repricing) : Option ProductPriceHistoryEntry :=
  match acceptPrice repricing.dto.basePrice repricing.dto.baseCurrency,
      repricing.moment.liveRates with
  | .ok (basePriceDecimal, basePriceMinor), .ok rates =>
    if repricing.product.basePrice ≠ basePriceDecimal ∨
        repricing.product.baseCurrency ≠ repricing.dto.baseCurrency then
      some
        { basePrice := basePriceDecimal
          basePriceMinor
          baseCurrency := repricing.dto.baseCurrency
          changedAt := repricing.moment.now
          rateSnapshot := rates
          rateTimestamp := repricing.moment.now
          -- only the seller comes here
          updatedBy := repricing.product.sellerId
          reason := repricing.dto.reason }
    else none
  | _, _ => none

/-- The entry that a call pushes, and the product it is of. -/
def pushedEntry (catalogue : Catalogue) :
    Call → Option (Id × ProductPriceHistoryEntry)
  | .create moment sellerId dto =>
    let baseCurrency := (dto.baseCurrency <|> dto.currency).getD .USD
    match dto.basePrice <|> dto.price with
    | none => none
    | some basePrice =>
      match acceptPrice basePrice baseCurrency, moment.liveRates with
      | .ok (basePriceDecimal, basePriceMinor), .ok rates =>
        some (catalogue.drawn,
          { basePrice := basePriceDecimal
            basePriceMinor
            baseCurrency
            changedAt := moment.now
            rateSnapshot := rates
            rateTimestamp := moment.now
            updatedBy := sellerId
            reason := some "initial_price" })
      | _, _ => none
  | call => (repricing? catalogue call).bind fun repricing =>
    repricing.entry.map (repricing.product.id, ·)

/-- What `priceHistoryRepo.save` throws in a call, if it comes to that. -/
def saveFault : Call → Fault
  | .create moment .. | .update moment .. | .updatePrice moment .. => moment.saved
  | .remove .. => none

def savedRow (catalogue : Catalogue) (call : Call) :
    Option ProductPriceEntity :=
  match saveFault call with
  | none => (pushedEntry catalogue call).map fun pushed => priceRow pushed.1 pushed.2
  | some _ => none

/-- The call comes to a save that throws. -/
def loses (catalogue : Catalogue) (call : Call) : Bool :=
  (pushedEntry catalogue call).isSome && (saveFault call).isSome

/-! ### Runs -/

/-- The products in memory, and the rows of the table. -/
structure Histories where
  catalogue : Catalogue := {}
  rows : List ProductPriceEntity := []

def recordStep (state : Histories) (call : Call) : Histories where
  catalogue := catalogueStep state.catalogue call
  rows := state.rows ++ (savedRow state.catalogue call).toList

def rowsOf (rows : List ProductPriceEntity) (id : Id) :
    List ProductPriceEntity := rows.filter (·.productId = id)

/-- The rows are those of the histories, one for each entry. -/
def RowsMatch (state : Histories) : Prop :=
  ∀ product ∈ state.catalogue.products, rowsOf state.rows product.id =
    product.priceHistory.map (priceRow product.id)

/-- What is to hold of a run from the empty catalogue.  The repeated call is
one that reads the rates and can save. -/
structure HistoryKept (history : List Call) : Prop where
  unchanged : ∀ front call back, history = front ++ call :: back →
    loses (run recordStep {} front).catalogue call = true →
      catalogueStep (run recordStep {} front).catalogue call = (run recordStep {} front).catalogue
  rowsMatch : ∀ front back, history = front ++ back → RowsMatch (run recordStep {} front)
  retried : ∀ front moment again id sellerId dto back,
    history = front ++ .updatePrice moment id sellerId dto ::
        .updatePrice again id sellerId dto :: back → loses (run recordStep {} front).catalogue
          (.updatePrice moment id sellerId dto) = true →
        again.liveRates.isOk = true → again.saved = none →
          (savedRow (catalogueStep (run recordStep {} front).catalogue
            (.updatePrice moment id sellerId dto))
              (.updatePrice again id sellerId dto)).isSome = true

/-! ### One call -/

/-- What a call leaves of the catalogue, where it pushes this entry. -/
inductive Pushed (catalogue : Catalogue) :
    Option (Id × ProductPriceHistoryEntry) → Catalogue → Prop where
  | same : Pushed catalogue none catalogue
  | replaced {product other : Product} {entry : Option ProductPriceHistoryEntry}
      (member : product ∈ catalogue.products) (id : other.id = product.id)
      (history : other.priceHistory = product.priceHistory ++ entry.toList) :
      Pushed catalogue (entry.map (product.id, ·)) (catalogue.put other)
  | created {product : Product} {entry : ProductPriceHistoryEntry}
      (id : product.id = catalogue.drawn) (history : product.priceHistory = [entry]) :
      Pushed catalogue (some (catalogue.drawn, entry))
        { products := catalogue.products ++ [product]
          drawn := catalogue.drawn + 1 }
  | removed {id : Id} : Pushed catalogue none
      { catalogue with products := catalogue.products.filter (·.id ≠ id) }

section

variable {catalogue : Catalogue}

theorem create_pushed (moment : Moment) (sellerId : Id) (dto : CreateProductDto) :
    let call := Call.create moment sellerId dto
    Pushed catalogue (pushedEntry catalogue call) (catalogueStep catalogue call) := by
  intro call
  show Pushed catalogue _ (create moment sellerId dto catalogue).2
  unfold ProductsService.create
  simp only [call, pushedEntry]
  cases dto.basePrice <|> dto.price with
  | none => exact .same
  | some basePrice =>
    dsimp only
    cases acceptPrice basePrice _ with
    | error error => exact .same
    | ok strings =>
      obtain ⟨liveRates, now, saved⟩ := moment
      cases liveRates with
      | error error => exact .same
      | ok rates => exact .created rfl rfl

/-- `updatePrice` refuses the price and changes nothing, or puts a product in
place that has one entry more, if that. -/
theorem updatePrice_history (stored : WellStored catalogue) {product : Product} {id sellerId : Id}
    (own : ownProduct? catalogue id sellerId = some product) (moment : Moment)
    (dto : UpdatePriceDto) :
    let repricing : Repricing := { moment, product, dto }
    let result := updatePrice moment id sellerId dto catalogue
    (repricing.entry = none ∧ ∃ error, result = (.error error, catalogue)) ∨
      ∃ other, result.2 = catalogue.put other ∧ other.id = product.id ∧
        (result.1 = .ok other ∨ ∃ error, result.1 = .error error) ∧ other.priceHistory =
          product.priceHistory ++ repricing.entry.toList := by
  obtain ⟨found, owned⟩ := ownProduct?_eq_some own
  have member : product ∈ catalogue.products := List.mem_of_find?_eq_some found
  intro repricing result
  have answered : updatePrice moment id sellerId dto catalogue = result := rfl
  rw [updatePrice, found] at answered
  dsimp only at answered
  rw [if_neg (not_not.mpr owned)] at answered
  clear_value result
  obtain ⟨liveRates, now, saved⟩ := moment
  unfold Repricing.entry
  cases accepted : acceptPrice dto.basePrice dto.baseCurrency with
  | error error => grind
  | ok strings =>
    rw [accepted] at answered
    dsimp only [repricing] at answered ⊢
    refine .inr ?_
    by_cases changed : product.basePrice ≠ strings.1 ∨ product.baseCurrency ≠ dto.baseCurrency
    · rw [if_neg (not_not.mpr changed)] at answered
      cases liveRates with
      | error error => grind
      | ok rates =>
        subst answered
        refine ⟨_, rfl, rfl, ?_, ?_⟩
        · cases saved with
          | none => exact .inl rfl
          | some error => exact .inr ⟨error, rfl⟩
        · simp only [if_pos changed, ← owned]
          rfl
    · rw [if_pos changed] at answered
      subst answered
      refine ⟨product, (stored.put_self member).symm, rfl, .inl rfl, ?_⟩
      grind

theorem updatePrice_pushed (stored : WellStored catalogue) (moment : Moment)
    (id sellerId : Id) (dto : UpdatePriceDto) :
    let call := Call.updatePrice moment id sellerId dto
    Pushed catalogue (pushedEntry catalogue call) (catalogueStep catalogue call) := by
  intro call
  cases own : ownProduct? catalogue id sellerId with
  | none =>
    obtain ⟨error, refused⟩ := updatePrice_refused own moment dto
    simp only [call, pushedEntry, repricing?, own, catalogueStep, refused]
    exact .same
  | some product =>
    have member : product ∈ catalogue.products :=
      List.mem_of_find?_eq_some (ownProduct?_eq_some own).1
    have asked : repricing? catalogue call = some { moment, product, dto } := by
      simp only [call, repricing?, own]
      rfl
    have pushes : pushedEntry catalogue call =
        (Repricing.entry { moment, product, dto }).map (product.id, ·) := by
      show (repricing? catalogue call).bind _ = _
      rw [asked, Option.bind_some]
    obtain ⟨none, error, result⟩ | ⟨other, left, same, -, history⟩ :=
      updatePrice_history stored own moment dto
    · rw [pushes, none, catalogueStep, result]
      exact .same
    · rw [pushes, catalogueStep, left]
      exact .replaced member same history

theorem update_pushed (stored : WellStored catalogue) (moment : Moment)
    (id sellerId : Id) (dto : UpdateProductDto) :
    let call := Call.update moment id sellerId dto
    Pushed catalogue (pushedEntry catalogue call) (catalogueStep catalogue call) := by
  intro call
  cases own : ownProduct? catalogue id sellerId with
  | none =>
    obtain ⟨error, refused⟩ := update_refused moment dto own
    simp only [call, pushedEntry, repricing?, own, catalogueStep, refused]
    exact .same
  | some product =>
    have member : product ∈ catalogue.products :=
      List.mem_of_find?_eq_some (ownProduct?_eq_some own).1
    cases sent : priceUpdate? product dto with
    | none =>
      have not : repricing? catalogue call = none := by
        simp only [call, repricing?, own, bind, Option.bind, sent]
      have pushes : pushedEntry catalogue call = none := by
        show (repricing? catalogue call).bind _ = _
        rw [not, Option.bind_none]
      rw [pushes, catalogueStep, update_unpriced moment dto own sent]
      have history : (assignRest moment dto product).priceHistory = product.priceHistory ++
            (none : Option ProductPriceHistoryEntry).toList :=
        (List.append_nil _).symm
      have identity : (assignRest moment dto product).id = product.id := rfl
      exact .replaced member identity history
    | some price =>
      have asked : repricing? catalogue call = some { moment, product, dto := price } := by
        simp only [call, repricing?, own, bind, Option.bind, sent]
        rfl
      have pushes : pushedEntry catalogue call =
          (Repricing.entry { moment, product, dto := price }).map (product.id, ·) := by
        show (repricing? catalogue call).bind _ = _
        rw [asked, Option.bind_some]
      rw [pushes, catalogueStep, update_priced moment dto own sent]
      obtain ⟨none, error, result⟩ | ⟨other, left, same, returned, history⟩ :=
        updatePrice_history stored own moment price
      · rw [none, result]
        exact .same
      · generalize updatePrice moment id sellerId price catalogue = result at left returned
        obtain ⟨answer, repriced⟩ := result
        have identity : (assignRest moment dto other).id = other.id := rfl
        subst left
        rcases returned with rfl | ⟨error, rfl⟩
        · dsimp only
          rw [Catalogue.put_put identity]
          exact .replaced member (identity.trans same) history
        · exact .replaced member same history

theorem remove_pushed (liveRates : Except HttpException Rates) (id sellerId : Id) :
    let call := Call.remove liveRates id sellerId
    Pushed catalogue (pushedEntry catalogue call) (catalogueStep catalogue call) := by
  intro call
  show Pushed catalogue none (remove liveRates id sellerId catalogue).2
  unfold ProductsService.remove
  split
  · exact .same
  · exact .same
  · split
    · exact .same
    · exact .removed

theorem pushed (stored : WellStored catalogue) (call : Call) :
    Pushed catalogue (pushedEntry catalogue call) (catalogueStep catalogue call) := by
  cases call <;> simp_all [create_pushed, update_pushed, updatePrice_pushed, remove_pushed]

end

/-! ### The invariant -/

section

variable {rows : List ProductPriceEntity} {row : Option ProductPriceEntity} {id : Id}

theorem rowsOf_append_own (own : ∀ added ∈ row, added.productId = id) :
    rowsOf (rows ++ row.toList) id = rowsOf rows id ++ row.toList := by simp_all [rowsOf]

theorem rowsOf_append_other (other : ∀ added ∈ row, added.productId ≠ id) :
    rowsOf (rows ++ row.toList) id = rowsOf rows id := by
  have none : row.toList.filter (·.productId = id) = [] :=
    List.filter_eq_nil_iff.mpr fun added listed => by
      simpa using other added (Option.mem_toList.mp listed)
  rw [rowsOf, List.filter_append, none, List.append_nil, rowsOf]

theorem rowsOf_unknown (known : ∀ row ∈ rows, row.productId < id) :
    rowsOf rows id = [] := List.filter_eq_nil_iff.mpr fun row listed => by
    simpa using (known row listed).ne

end

structure Numbered (state : Histories) : Prop where
  stored : WellStored state.catalogue
  known : ∀ row ∈ state.rows, row.productId < state.catalogue.drawn

structure Mirrored (state : Histories) : Prop extends Numbered state where
  rows : RowsMatch state

theorem mirrored_empty : Mirrored {} :=
  ⟨⟨wellStored_empty, List.forall_mem_nil _⟩, List.forall_mem_nil _⟩

section

variable {state : Histories} {row : Option ProductPriceEntity}

/-- A product with another history in place: the rows match iff what is added
to the table is what is added to the history. -/
theorem rowsMatch_replaced (mirrored : Mirrored state)
    {product other : Product} {entry : Option ProductPriceHistoryEntry}
    (member : product ∈ state.catalogue.products) (id : other.id = product.id)
    (history : other.priceHistory = product.priceHistory ++ entry.toList)
    (own : ∀ added ∈ row, added.productId = product.id) :
    RowsMatch ⟨state.catalogue.put other, state.rows ++ row.toList⟩ ↔
      row.toList = entry.toList.map (priceRow product.id) := by
  have placed : rowsOf (state.rows ++ row.toList) other.id =
      other.priceHistory.map (priceRow other.id) ↔
        row.toList = entry.toList.map (priceRow product.id) := by
    rw [id, rowsOf_append_own own, mirrored.rows product member, history,
      List.map_append, List.append_cancel_left_eq]
  rw [← placed]
  constructor
  · exact fun all => all other ((Catalogue.mem_put member id).mpr (.inl rfl))
  · intro here listed after
    rcases (Catalogue.mem_put member id).mp after with rfl | ⟨was, different⟩
    · exact here
    · rw [← mirrored.rows listed was]
      grind [rowsOf_append_other]

theorem rowsMatch_created (mirrored : Mirrored state) {product : Product}
    {entry : ProductPriceHistoryEntry} (id : product.id = state.catalogue.drawn)
    (history : product.priceHistory = [entry])
    (own : ∀ added ∈ row, added.productId = state.catalogue.drawn) :
    RowsMatch
        ⟨{ products := state.catalogue.products ++ [product]
           drawn := state.catalogue.drawn + 1 }, state.rows ++ row.toList⟩ ↔
      row.toList = [priceRow state.catalogue.drawn entry] := by
  have placed : rowsOf (state.rows ++ row.toList) product.id =
      product.priceHistory.map (priceRow product.id) ↔
        row.toList = [priceRow state.catalogue.drawn entry] := by
    rw [id, rowsOf_append_own own, rowsOf_unknown mirrored.known, history]
    exact Iff.rfl
  rw [← placed]
  constructor
  · exact fun all => all product (List.mem_append_right _ List.mem_cons_self)
  · intro here listed after
    rcases List.mem_append.mp after with before | new
    · rw [← mirrored.rows listed before]
      exact rowsOf_append_other fun added found same =>
        (mirrored.stored.drawn listed before).ne (same.symm.trans (own added found))
    · cases List.mem_singleton.mp new
      exact here

theorem savedRow_eq (catalogue : Catalogue) (call : Call) :
    savedRow catalogue call = if loses catalogue call = true then none
      else (pushedEntry catalogue call).map fun pushed => priceRow pushed.1 pushed.2 := by
  unfold savedRow loses
  cases pushedEntry catalogue call <;> grind

theorem loses_of_pushes_none {catalogue : Catalogue} {call : Call}
    (pushes : pushedEntry catalogue call = none) :
    loses catalogue call = false := by
  rw [loses, pushes]
  rfl

theorem savedRow_toList {pushed : Id × ProductPriceHistoryEntry} {lost : Bool} :
    (if lost = true then none
      else (some pushed).map fun pushed => priceRow pushed.1 pushed.2).toList =
        [priceRow pushed.1 pushed.2] ↔ lost = false := by
  cases lost <;> simp

theorem savedRow_own {pushed : Id × ProductPriceHistoryEntry} {lost : Bool}
    (saved : row = if lost = true then none
      else (some pushed).map fun pushed => priceRow pushed.1 pushed.2) :
    ∀ added ∈ row, added.productId = pushed.1 := by
  intro added found
  rw [saved] at found
  cases lost with
  | true => cases found
  | false => cases found; rfl

theorem Numbered.step (numbered : Numbered state) (call : Call) :
    Numbered (recordStep state call) := by
  have step := pushed numbered.stored call
  have saved := savedRow_eq state.catalogue call
  have nothing : pushedEntry state.catalogue call = none →
      savedRow state.catalogue call = none := by
    intro pushes
    rw [saved, pushes]
    exact ite_self _
  refine ⟨numbered.stored.step call, fun listed found => ?_⟩
  unfold recordStep at found ⊢
  generalize pushedEntry state.catalogue call = pushes at step saved nothing
  generalize catalogueStep state.catalogue call = after at step ⊢
  rcases List.mem_append.mp found with before | new
  · have older := numbered.known listed before
    cases step with
    | created => exact older.trans (Nat.lt_succ_self _)
    | same | removed | replaced => exact older
  · have added := Option.mem_toList.mp new
    cases step with
    | same | removed =>
      rw [nothing rfl] at added
      cases added
    | created => exact (savedRow_own saved listed added).trans_lt (Nat.lt_succ_self _)
    | @replaced product other entry member id history =>
      cases entry with
      | none =>
        rw [nothing rfl] at added
        cases added
      | some entry =>
        exact (savedRow_own saved listed added).trans_lt (numbered.stored.drawn product member)

/-- A call keeps the rows beside the histories iff it does not come to a save
that throws. -/
theorem Mirrored.step_iff (mirrored : Mirrored state) (call : Call) :
    Mirrored (recordStep state call) ↔ loses state.catalogue call = false := by
  have numbered := mirrored.toNumbered.step call
  suffices matches_iff : RowsMatch (recordStep state call) ↔ loses state.catalogue call = false from
    ⟨fun all => matches_iff.mp all.rows, fun kept => ⟨numbered, matches_iff.mpr kept⟩⟩
  have step := pushed mirrored.stored call
  have saved := savedRow_eq state.catalogue call
  have nothing : pushedEntry state.catalogue call = none →
      loses state.catalogue call = false := loses_of_pushes_none
  unfold recordStep
  generalize loses state.catalogue call = lost at saved nothing ⊢
  generalize savedRow state.catalogue call = row at saved ⊢
  generalize pushedEntry state.catalogue call = pushes at step saved nothing
  generalize catalogueStep state.catalogue call = after at step ⊢
  cases step with
  | same =>
    obtain rfl := nothing rfl
    obtain rfl : row = none := saved
    rw [Option.toList_none, List.append_nil]
    exact iff_of_true mirrored.rows rfl
  | removed =>
    obtain rfl := nothing rfl
    obtain rfl : row = none := saved
    rw [Option.toList_none, List.append_nil]
    exact iff_of_true (fun product listed =>
      mirrored.rows product (List.mem_of_mem_filter listed)) rfl
  | created id history =>
    rw [rowsMatch_created mirrored id history (savedRow_own saved), saved, savedRow_toList]
  | @replaced product other entry member id history =>
    cases entry with
    | none =>
      obtain rfl := nothing rfl
      obtain rfl : row = none := saved
      refine iff_of_true ((rowsMatch_replaced mirrored member id history
        fun added found => ?_).mpr rfl) rfl
      cases found
    | some entry =>
      rw [rowsMatch_replaced mirrored member id history (savedRow_own saved), saved]
      exact savedRow_toList

end

/-! ### The theorem -/

/-- Rows and histories stay beside each other, with all that goes with it, iff
no call of the run comes to a save that throws. -/
theorem history_kept_iff (history : List Call) :
    HistoryKept history ↔ Along recordStep
        (fun state call => loses state.catalogue call = false) {} history := by
  have turn : ∀ (state : Histories) (call : Call), Mirrored state →
      (Mirrored (recordStep state call) ↔ loses state.catalogue call = false) :=
    fun state call mirrored => mirrored.step_iff call
  have reached : (∀ front back, history = front ++ back → Mirrored (run recordStep {} front)) ↔ _ :=
    reached_iff_along turn mirrored_empty
  constructor
  · intro kept
    refine reached.mp fun front back split => ⟨?_, kept.rowsMatch front back split⟩
    exact run_preserves (fun state call numbered => numbered.step call)
      mirrored_empty.toNumbered front
  · intro along
    have none : ∀ front call back, history = front ++ call :: back →
        loses (run recordStep {} front).catalogue call = true → False := by
      rintro front call back rfl lost
      have next := (Along.append_iff.mp along).2.1
      exact Bool.false_ne_true (next.symm.trans lost)
    refine ⟨fun front call back split lost =>
      (none front call back split lost).elim, fun front back split =>
      (reached.mpr along front back split).rows,
      fun front moment again id sellerId dto back split lost =>
        (none front _ _ split lost).elim⟩

/-! ### The lost row -/

def raisedPin : Call := .updatePrice ⟨.ok defaultRates, 1, some (.error "connection lost")⟩ 0 1
    { basePrice := .finite 2, baseCurrency := .XLM }

/-- The seller asks again. -/
def raisedAgain : Call := .updatePrice ⟨.ok defaultRates, 2, none⟩ 0 1
    { basePrice := .finite 2, baseCurrency := .XLM }

def lostSave : List Call := [.create ⟨.ok defaultRates, 0, none⟩ 1 (pin (.finite 1)), raisedPin,
    raisedAgain]

/-- The history has two entries and the table one row, and asking again, which
succeeds, adds none. -/
theorem lost_row :
    ((run recordStep {} lostSave).catalogue.products.map (fun product =>
        (product.basePrice, product.priceHistory.length)) = [("2", 2)] ∧
      (run recordStep {} lostSave).rows.length = 1 ∧
      throws (run recordStep {} (lostSave.take 2)).catalogue raisedAgain = false) ∧
      ¬ HistoryKept lostSave := by
  have left : (run recordStep {} lostSave).catalogue.products.map
      (fun product => (product.basePrice, product.priceHistory.length)) = [("2", 2)] := by
    decide +kernel
  have rows : (run recordStep {} lostSave).rows.length = 1 := by decide +kernel
  refine ⟨⟨left, rows, by decide +kernel⟩, fun kept => ?_⟩
  obtain ⟨product, listed, same⟩ := List.mem_map.mp (left ▸ List.mem_singleton_self ("2", 2))
  have few : (rowsOf (run recordStep {} lostSave).rows product.id).length ≤
      1 :=
    (List.length_filter_le _ _).trans_eq rows
  rw [kept.rowsMatch lostSave [] (List.append_nil _).symm product listed,
    List.length_map, (Prod.mk.inj same).2] at few
  exact absurd few (by decide)

end MarketX.Products
