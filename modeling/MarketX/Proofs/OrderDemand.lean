/-
Module: MarketX.Proofs.OrderDemand
Purpose: The reservations of a new order, item by item in one transaction,
  come to one check and one reservation for each product: an order is created
  exactly when every product covers what the items together ask of it.
Trusted boundary: none
Main exports: withReserved, StockCovers, Reserves, create_reserves_demand
-/
import MarketX.Commerce.Runs

namespace MarketX.Commerce

open Effects Handler

/-! ### Reserving item by item -/

/-- A product of which more is reserved. -/
def withReserved (amount : ℤ) (product : Product) : Product :=
  { product with
    reserved := product.reserved + amount
    available := product.available - amount }

@[simp] theorem withReserved_zero :
    withReserved 0 = fun product => product := by
  funext product
  simp [withReserved]

theorem withReserved_add (first second : ℤ) (product : Product) :
    withReserved second (withReserved first product) = withReserved (first + second) product := by
  simp only [withReserved, add_assoc, sub_sub]

/-- What is available is what is not reserved. -/
def Consistent (products : Table Product) : Prop := ∀ id product, products.row id = some product →
    product.available = product.quantity - product.reserved

/-- Every product has what the items together ask of it. -/
def StockCovers (items : List OrderItem) (products : Table Product) : Prop :=
  ∀ item ∈ items, ∃ product, products.row item.productId = some product ∧
    demand item.productId items ≤ product.available

/-- Every product has what the items ask of it reserved. -/
def Taken (items : List OrderItem) (before after : Table Product) : Prop := ∀ id, after.row id =
    (before.row id).map (withReserved (demand id items))

variable {items : List OrderItem} {before after first second : Table Product} {item : OrderItem}
  {world : World} {dto : CreateOrderDto}

theorem Taken.consistent (taken : Taken items before after)
    (consistent : Consistent before) : Consistent after := by
  intro id product stored
  rw [taken id] at stored
  obtain ⟨old, found, rfl⟩ := Option.map_eq_some_iff.mp stored
  have fits := consistent id old found
  simp only [withReserved]
  omega

theorem Taken.cons {third : Table Product}
    (front : Taken [item] first second) (back : Taken items second third) :
    Taken (item :: items) first third := by
  intro id
  rw [back id, front id, Option.map_map]
  congr 1
  funext product
  rw [Function.comp_apply, withReserved_add, demand_cons, demand_cons, demand_nil, add_zero]

theorem demand_pos (member : item ∈ items) : 0 < demand item.productId items := by
  induction items with
  | nil => cases member
  | cons head tail ih =>
    have rest := demand_nonneg item.productId tail
    have positive := head.quantity_pos
    rw [demand_cons]
    grind

theorem exists_of_demand {productId : Id} (asked : demand productId items ≠ 0) :
    ∃ item ∈ items, item.productId = productId := by
  by_contra none
  refine asked (List.sum_eq_zero fun amount member => ?_)
  grind

theorem covered_cons_iff (front : StockCovers [item] first) (taken : Taken [item] first second) :
    StockCovers (item :: items) first ↔ StockCovers items second := by
  have left : ∀ {id product}, first.row id = some product →
      ∃ remaining, second.row id = some remaining ∧ remaining.available = product.available -
            (if item.productId = id then item.quantity else 0) := by
    intro id product stored
    refine ⟨_, by rw [taken id, stored, Option.map_some], ?_⟩
    simp [withReserved]
  constructor
  · intro covered other member
    obtain ⟨product, stored, enough⟩ := covered other (List.mem_cons_of_mem _ member)
    grind [demand_cons]
  · intro covered other member
    by_cases alone : demand other.productId items = 0
    · -- nothing else asks for this product, so it is the first item's
      have same : other = item := by
        rcases List.mem_cons.mp member with same | later
        · exact same
        · exact absurd alone (demand_pos later).ne'
      subst same
      obtain ⟨product, stored, enough⟩ := front other List.mem_cons_self
      simp_all
    · obtain ⟨later, listed, named⟩ := exists_of_demand alone
      obtain ⟨remaining, storedNow, enough⟩ := covered later listed
      obtain ⟨product, stored, rfl⟩ := Option.map_eq_some_iff.mp ((taken _).symm.trans storedNow)
      grind [demand_cons]

/-! ### The loop -/

/-- What a loop of reservations does: one that returns has taken what its
items ask and found it there; one in which nothing else fails throws only
where it is missing. -/
structure Reserves (sure : Prop) (items : List OrderItem) (world : World)
    (returns : Bool) (after : World) : Prop where
  taken : returns = true → Consistent world.db.products → StockCovers items world.db.products ∧
      Taken items world.db.products after.db.products
  short : returns = false → sure → Consistent world.db.products →
    ¬ StockCovers items world.db.products

section

variable {spared : Spared} {world : World}

theorem covered_single_iff {item : OrderItem} {products : Table Product} :
    StockCovers [item] products ↔ ∃ product, products.row item.productId = some product ∧
        item.quantity ≤ product.available := by simp [StockCovers]

theorem taken_save {item : OrderItem} {products : Table Product} {product : Product}
    (found : products.row item.productId = some product) :
    Taken [item] products (products.save (withReserved item.quantity product)) := by
  have keyed : Keyed.key (withReserved item.quantity product) =
      item.productId := by
    rw [← products.keyed found]
    rfl
  intro id
  rw [Table.row_save, keyed, demand_cons, demand_nil, add_zero]
  by_cases asked : item.productId = id
  · simp_all
  · rw [if_neg (Ne.symm asked), if_neg asked]
    simp

theorem reserveItem_takes (userId : Id) (item : OrderItem) :
    (commerce.shield spared).wp (do
        let _ ← InventoryService.reserveInventory item.productId userId item.quantity)
      (fun result after => Reserves (∀ op, spared op = true) [item] world
        result.isOk after) world := by
  have exposed : ∀ {op : Op} {after : World}, spared op = false →
      Reserves (∀ op, spared op = true) [item] world false after := by
    refine fun unspared => ⟨by intros; contradiction, fun _ sure => ?_⟩
    rw [sure] at unspared
    cases unspared
  apply wp_discard
  apply wp_await_bind _ _ fun unspared _ => exposed unspared
  simp only [act]
  cases found : world.db.products.row item.productId with
  | none =>
    refine ⟨by intros; contradiction, fun _ _ _ covered => ?_⟩
    obtain ⟨product, stored, _⟩ := covered_single_iff.mp covered
    exact absurd (found.symm.trans stored) (Option.some_ne_none _).symm
  | some product =>
    apply wp_guard
    · intro missing
      refine ⟨by intros; contradiction, fun _ _ _ covered => ?_⟩
      obtain ⟨other, stored, enough⟩ := covered_single_iff.mp covered
      cases found.symm.trans stored
      omega
    intro enough
    apply wp_await_bind _ _ fun unspared _ => exposed unspared
    apply wp_await_bind _ _ fun unspared _ => exposed unspared
    have reserved : ∀ {after : World}, after.db.products = world.db.products.save
          { product with
            reserved := product.reserved + item.quantity
            available :=
              product.quantity - (product.reserved + item.quantity) } →
        Reserves (∀ op, spared op = true) [item] world true after := by
      intro after saved
      refine ⟨fun _ consistent => ⟨covered_single_iff.mpr
        ⟨product, found, not_lt.mp enough⟩, ?_⟩, by intros; contradiction⟩
      have row : { product with
          reserved := product.reserved + item.quantity
          available :=
            product.quantity - (product.reserved + item.quantity) } =
            withReserved item.quantity product := by
        simp only [withReserved, consistent _ _ found, sub_sub]
      rw [saved, row]
      exact taken_save found
    apply wp_branch
    · exact fun _ => wp_total_bind _ rfl (reserved rfl)
    · exact fun _ => reserved rfl

theorem reserveItems_covers (userId : Id) (items : List OrderItem) :
    (commerce.shield spared).wp (items.forM fun item => do
        let _ ← InventoryService.reserveInventory item.productId userId item.quantity)
      (fun result after => Reserves (∀ op, spared op = true) items world
        result.isOk after) world := by
  apply Handler.wp_forM _ (Reserves (∀ op, spared op = true))
  · intro current
    refine ⟨fun _ _ => ⟨List.forall_mem_nil _, fun id => ?_⟩, nofun⟩
    simp
  · exact fun item _ => reserveItem_takes userId item
  · intro head tail start after front
    refine ⟨nofun, fun _ sure consistent covered => ?_⟩
    apply front.short rfl sure consistent
    obtain ⟨product, stored, enough⟩ := covered head List.mem_cons_self
    have rest := demand_nonneg head.productId tail
    rw [demand_cons, if_pos rfl] at enough
    exact covered_single_iff.mpr ⟨product, stored, by omega⟩
  · intro head tail start middle returns final front back
    have first := front.taken rfl
    refine ⟨fun returned consistent => ?_, fun threw sure consistent => ?_⟩
    · obtain ⟨covered, taken⟩ := first consistent
      obtain ⟨coveredRest, takenRest⟩ := back.taken returned (taken.consistent consistent)
      exact ⟨(covered_cons_iff covered taken).mpr coveredRest, taken.cons takenRest⟩
    · obtain ⟨covered, taken⟩ := first consistent
      rw [covered_cons_iff covered taken]
      exact back.short threw sure (taken.consistent consistent)

end

/-! ### The order -/

/-- What the items of an order together ask of a product. -/
def CreateOrderDto.demand (dto : CreateOrderDto) (productId : Id) : ℤ :=
  (dto.items.map fun item =>
    if item.productId = productId then item.quantity else 0).sum

/-- Every product of the order has what its items together ask of it. -/
def CreateOrderDto.Available (dto : CreateOrderDto) (products : Table Product) : Prop :=
  ∀ item ∈ dto.items, ∀ product, products.row item.productId = some product →
      dto.demand item.productId ≤ product.available

/-- The products of the order have what their items ask of them reserved, and
no other product has changed. -/
structure CreateOrderDto.Reserved (dto : CreateOrderDto)
    (before after : Table Product) : Prop where
  taken : ∀ id, after.row id = (before.row id).map (withReserved (dto.demand id))
  untouched : ∀ id, (∀ item ∈ dto.items, item.productId ≠ id) → after.row id = before.row id

def lineTotal (world : World) (item : CreateOrderItemDto) : Amount :=
  match world.catalogue item.productId with
  | none => 0
  | some product => product.price * item.quantity

/-- Every item is on display, in the currency of the order. -/
def Displayed (world : World) (dto : CreateOrderDto) : Prop := ∀ item ∈ dto.items, ∃ product,
    world.catalogue item.productId = some product ∧ product.currency = dto.paymentCurrency.getD .USD

/-- What `create` checks before it looks at the stock. -/
structure Orderable (world : World) (dto : CreateOrderDto) : Prop where
  displayed : Displayed world dto
  positive : 0 < (dto.items.map (lineTotal world)).sum
  withinTotal :
    ((dto.milestones.getD []).map CreateOrderMilestoneDto.amount).sum ≤
      (dto.items.map (lineTotal world)).sum

/-- What `create` checks besides how much there is. -/
structure PassesOtherChecks (world : World) (dto : CreateOrderDto) : Prop
    extends Orderable world dto where
  stocked : ∀ item ∈ dto.items, ∃ product, world.db.products.row item.productId = some product

def pricedItem (world : World) (item : CreateOrderItemDto) : OrderItem :=
  let product := (world.catalogue item.productId).getD { name := "", price := 0, currency := .USD }
  { productId := item.productId
    productName := product.name
    quantity := item.quantity
    price := product.price
    subtotal := product.price * item.quantity
    priceCurrency := product.currency
    quantity_pos := item.quantity_pos }

theorem demand_pricedItems (world : World) (dto : CreateOrderDto) (productId : Id) :
    demand productId (dto.items.map (pricedItem world)) =
      dto.demand productId := by
  rw [demand, CreateOrderDto.demand, List.map_map]
  rfl

theorem reserved_of_taken (taken : Taken (dto.items.map (pricedItem world)) before after) :
    dto.Reserved before after := by
  have each : ∀ id, after.row id = (before.row id).map (withReserved (dto.demand id)) := by
    intro id
    rw [← demand_pricedItems world dto]
    exact taken id
  refine ⟨each, fun id absent => ?_⟩
  have nothing : dto.demand id = 0 := by
    refine List.sum_eq_zero fun amount member => ?_
    grind
  rw [each, nothing, withReserved_zero, Option.map_id']

theorem subtotal_pricedItem (world : World) (item : CreateOrderItemDto) :
    (pricedItem world item).subtotal = lineTotal world item := by grind [pricedItem, lineTotal]

theorem total_pricedItems (world : World) (items : List CreateOrderItemDto) :
    ((items.map (pricedItem world)).map OrderItem.subtotal).sum =
      (items.map (lineTotal world)).sum := by simp [List.map_congr_left, subtotal_pricedItem]

theorem total_orderMilestones (milestones : Option (List CreateOrderMilestoneDto)) :
    (((milestones.map fun milestones =>
        milestones.map OrdersService.orderMilestone).getD []).map OrderMilestone.amount).sum =
      ((milestones.getD []).map CreateOrderMilestoneDto.amount).sum := by
  cases milestones with
  | none => rfl
  | some milestones =>
    simp only [Option.map_some, Option.getD_some, List.map_map]
    rfl

theorem covered_pricedItems_iff (valid : PassesOtherChecks world dto) :
    StockCovers (dto.items.map (pricedItem world)) world.db.products ↔
      dto.Available world.db.products := by
  simp only [StockCovers, List.forall_mem_map, demand_pricedItems]
  refine forall₂_congr fun item member => ?_
  obtain ⟨product, stored⟩ := valid.stocked item member
  simp_all [pricedItem]

section

variable {spared : Spared} {world : World} {dto : CreateOrderDto}

/-- Pricing reads the catalogue; it gives every item its price, and only
where all of them are displayed. -/
theorem priceItems_spec :
    (commerce.shield spared).wp (dto.items.mapM
        (OrdersService.priceItem (dto.paymentCurrency.getD .USD)))
      (fun result after => after = world ∧
        match result with
        | .ok orderItems => Displayed world dto ∧ orderItems = dto.items.map (pricedItem world)
        | .error _ => (∀ op, spared op = true) → ¬ Displayed world dto)
      world := by
  apply Handler.wp_mapM _ fun remaining orderItems current =>
    current = world ∧ ∃ done, dto.items = done ++ remaining ∧ (∀ item ∈ done, ∃ product,
        world.catalogue item.productId = some product ∧
          product.currency = dto.paymentCurrency.getD .USD) ∧
      orderItems = done.map (pricedItem world)
  · exact ⟨rfl, [], rfl, List.forall_mem_nil _, rfl⟩
  · rintro head tail orderItems current ⟨rfl, done, split, shown, collected⟩
    have member : head ∈ dto.items := split ▸ List.mem_append_cons_self
    apply wp_await_bind
    · simp only [act]
      cases found : current.catalogue head.productId with
      | none =>
        refine ⟨rfl, fun _ displayed => ?_⟩
        obtain ⟨product, present, _⟩ := displayed head member
        cases found.symm.trans present
      | some product =>
        apply wp_guard
        · intro differs
          refine ⟨rfl, fun _ displayed => ?_⟩
          obtain ⟨other, present, agrees⟩ := displayed head member
          simp_all
        · intro agrees
          refine ⟨rfl, done ++ [head], by rw [split, List.append_cons], fun item listed => ?_, ?_⟩
          · grind
          · simp [collected, pricedItem, found]
    · intro exposed _
      refine ⟨rfl, fun sure => ?_⟩
      rw [sure] at exposed
      cases exposed
  · simp [Displayed]

theorem priceItems_reads (world : World) (dto : CreateOrderDto) :
    commerce.wp (dto.items.mapM (OrdersService.priceItem (dto.paymentCurrency.getD .USD)))
      (fun result after => after = world ∧ ∀ found, result = .ok found →
        Displayed world dto ∧ found = dto.items.map (pricedItem world))
      world := by
  have reads : (commerce.shield noneSpared).wp _ _ world := @priceItems_spec noneSpared world dto
  grind [shield_none, Handler.wp_mono]

/-- What a creation does: one that returns has taken what its items ask, and
one that throws has changed no row; where nothing else fails it throws only
if something is missing. -/
structure Created (sure : Prop) (world : World) (dto : CreateOrderDto)
    (returns : Bool) (after : World) : Prop where
  taken : returns = true → dto.Available world.db.products ∧
    dto.Reserved world.db.products after.db.products
  undone : returns = false → after.db = world.db
  short : returns = false → sure → ¬ dto.Available world.db.products

theorem create_takes (valid : PassesOtherChecks world dto)
    (consistent : Consistent world.db.products) :
    (commerce.shield spared).wp (OrdersService.create dto)
      (fun result after => Created (∀ op, spared op = true) world dto
        result.isOk after) world := by
  have failed : ∀ {after : World}, (¬ ∀ op, spared op = true) → after.db = world.db →
        Created (∀ op, spared op = true) world dto false after :=
    fun unsure same => ⟨nofun, fun _ => same, fun _ sure => absurd sure unsure⟩
  have unsure : ∀ {op : Op}, spared op = false → ¬ ∀ op, spared op = true := by
    intro op exposed sure
    rw [sure] at exposed
    cases exposed
  apply wp_transaction_exposed _ fun exposed _ => failed (unsure exposed) rfl
  rw [wp_bind]
  apply Handler.wp_mono _ priceItems_spec
  rintro result start ⟨rfl, priced⟩
  cases result with
  | error error => exact failed (fun sure => priced sure valid.displayed) rfl
  | ok orderItems =>
    obtain ⟨-, rfl⟩ := priced
    apply wp_guard
    · intro nothing
      rw [total_pricedItems] at nothing
      exact absurd valid.positive (not_lt.mpr nothing)
    intro _
    apply wp_guard
    · intro exceeds
      rw [total_pricedItems, total_orderMilestones] at exceeds
      exact absurd valid.withinTotal (not_le.mpr exceeds)
    intro _
    apply wp_await_bind _ _ fun exposed _ => failed (unsure exposed) rfl
    rw [wp_bind]
    apply Handler.wp_mono _ (reserveItems_covers _ _)
    intro result after reserves
    cases result with
    | error error =>
      refine ⟨nofun, fun _ => rfl, fun _ sure available => ?_⟩
      exact reserves.short rfl sure consistent ((covered_pricedItems_iff valid).mpr available)
    | ok value =>
      obtain ⟨covered, taken⟩ := reserves.taken rfl consistent
      have ends : ∀ (savedOrder : Order) (final : World), final.db = after.db →
            concludes spared start (fun result after =>
              Created (∀ op, spared op = true) start dto result.isOk
                after) (.ok savedOrder) final := by
        intro savedOrder final same
        refine ⟨⟨fun _ => ⟨(covered_pricedItems_iff valid).mp covered, ?_⟩, nofun, nofun⟩,
          fun exposed _ => failed (unsure exposed) rfl⟩
        rw [same]
        exact reserved_of_taken taken
      apply wp_branch
      · exact fun _ => wp_total_bind _ rfl (ends _ _ rfl)
      · exact fun _ => ends _ _ rfl

end

/-- The checks made item by item come to one for each product, and the
reservations to one for each product; a creation that throws leaves every
table as it was. -/
theorem create_reserves_demand {world : World} {dto : CreateOrderDto}
    (consistent : Consistent world.db.products) (valid : PassesOtherChecks world dto) :
    ((commerce.exec (OrdersService.create dto) [] world).1.isOk = true ↔
        dto.Available world.db.products) ∧ ∀ faults,
        ((commerce.exec (OrdersService.create dto) faults world).1.isOk = true →
          dto.Available world.db.products ∧ dto.Reserved world.db.products
              (commerce.exec (OrdersService.create dto) faults world).2.db.products) ∧
        ((commerce.exec (OrdersService.create dto) faults world).1.isOk = false →
          (commerce.exec (OrdersService.create dto) faults world).2.db = world.db) := by
  constructor
  · -- nothing fails, so the only reason to throw is missing stock
    have created := commerce.wp_sound_spared (create_takes valid consistent)
      (commerce.spares_nil (fun _ => true) (OrdersService.create dto) world)
    refine ⟨fun returned => (created.taken returned).1, fun available => ?_⟩
    by_contra threw
    exact created.short (Bool.eq_false_of_not_eq_true threw) (fun _ => rfl) available
  · intro faults
    have takes := @create_takes noneSpared world dto valid consistent
    rw [shield_none] at takes
    have created := commerce.wp_sound takes faults
    exact ⟨created.taken, created.undone⟩

/-- An order that names the lamp twice, and asks for all there are. -/
def sixAndFourLamps : CreateOrderDto where
  items := [ { productId := 0, quantity := 6, quantity_pos := by decide },
      { productId := 0, quantity := 4, quantity_pos := by decide } ]
  buyerId := 7

theorem ten_lamps_reserved :
    (commerce.exec (OrdersService.create sixAndFourLamps) [] openShop).1.isOk = true ∧
      sixAndFourLamps.Reserved openShop.db.products
        (commerce.exec (OrdersService.create sixAndFourLamps) [] openShop).2.db.products := by
  have stored : openShop.db.products.row 0 =
      some { id := 0, title := "lamp", quantity := 10, available := 10 } := rfl
  have named : ∀ item ∈ sixAndFourLamps.items, item.productId = 0 := by decide
  have consistent : Consistent openShop.db.products := by
    intro id product found
    change (Table.save .empty _).row id = some product at found
    rw [Table.row_save] at found
    split at found
    · cases found
      rfl
    · cases found
  have valid : PassesOtherChecks openShop sixAndFourLamps := by
    refine ⟨⟨fun item member => ?_, by decide +kernel, by decide +kernel⟩, fun item member => ?_⟩
    · exact ⟨_, by rw [named item member]; rfl, rfl⟩
    · exact ⟨_, by rw [named item member]; exact stored⟩
  have available : sixAndFourLamps.Available openShop.db.products := by
    intro item member product found
    rw [named item member] at found ⊢
    cases stored.symm.trans found
    decide
  obtain ⟨returns, schedules⟩ := create_reserves_demand consistent valid
  exact ⟨returns.mpr available, ((schedules []).1 (returns.mpr available)).2⟩

end MarketX.Commerce
