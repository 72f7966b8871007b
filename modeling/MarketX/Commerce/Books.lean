/-
Module: MarketX.Commerce.Books
Purpose: What the loops over stock do to it, and what one call on the shop side
  can do to orders, payments and shipments, for every outcome of every effect.
Trusted boundary: none
Main exports: demand, Restocked, Stocked, Delisted, movedOrder, Booked, program_spec
-/
import MarketX.Commerce.Rules

namespace MarketX.Commerce

open Effects Handler

/-! ### Demand -/

/-- The quantity some items ask of one product. -/
def demand (productId : Id) (items : List OrderItem) : ℤ :=
  (items.map fun item =>
    if item.productId = productId then item.quantity else 0).sum

@[simp] theorem demand_nil (productId : Id) : demand productId [] = 0 := rfl

@[simp] theorem demand_cons (productId : Id) (item : OrderItem) (items : List OrderItem) :
    demand productId (item :: items) = (if item.productId = productId then item.quantity else 0) +
        demand productId items := by simp [demand]

theorem demand_nonneg (productId : Id) (items : List OrderItem) :
    0 ≤ demand productId items := by
  induction items with
  | nil => exact le_rfl
  | cons item items ih =>
    have positive := item.quantity_pos
    rw [demand_cons]
    split <;> omega

/-- The reserved quantity of a product after some items. -/
def reservedAfter (change : ℤ → ℤ → ℤ) (productId : Id)
    (items : List OrderItem) (reserved : ℤ) : ℤ := items.foldl (fun reserved item =>
      if item.productId = productId then change reserved item.quantity
      else reserved)
    reserved

/-- Reserving adds. -/
def reserving (reserved amount : ℤ) : ℤ := reserved + amount

/-- Releasing subtracts, and stops at zero. -/
def releasing (reserved amount : ℤ) : ℤ :=
  if reserved - amount < 0 then 0 else reserved - amount

theorem reservedAfter_reserving (productId : Id) (items : List OrderItem) (reserved : ℤ) :
    reservedAfter reserving productId items reserved = reserved + demand productId items := by
  induction items generalizing reserved with
  | nil => simp [reservedAfter]
  | cons item items ih =>
    simp only [reservedAfter, List.foldl_cons] at ih ⊢
    grind [demand_cons, reserving]

theorem reservedAfter_releasing {productId : Id} {items : List OrderItem}
    {reserved : ℤ} (enough : demand productId items ≤ reserved) :
    reservedAfter releasing productId items reserved = reserved - demand productId items := by
  induction items generalizing reserved with
  | nil => simp [reservedAfter]
  | cons item items ih =>
    have rest := demand_nonneg productId items
    rw [demand_cons] at enough ⊢
    simp only [reservedAfter, List.foldl_cons] at ih ⊢
    split
    next asked =>
      rw [if_pos asked] at enough
      have unclamped : releasing reserved item.quantity = reserved - item.quantity := by
        rw [releasing, if_neg (by omega)]
      rw [unclamped, ih (by omega), sub_sub]
    next other => simp_all

/-! ### Products -/

/-- Every product keeps its quantity, and its reserved quantity follows the
items. -/
def Restocked (change : ℤ → ℤ → ℤ) (items : List OrderItem) (before after : Table Product) : Prop :=
  ∀ id product, before.row id = some product → ∃ stocked, after.row id = some stocked ∧
      stocked.quantity = product.quantity ∧
        stocked.reserved = reservedAfter change id items product.reserved

theorem Restocked.cons {change : ℤ → ℤ → ℤ} {item : OrderItem}
    {items : List OrderItem} {first second third : Table Product}
    (front : Restocked change [item] first second) (back : Restocked change items second third) :
    Restocked change (item :: items) first third := by
  intro id product stored
  obtain ⟨middle, storedMiddle, sameQuantity, reserved⟩ := front id product stored
  obtain ⟨stocked, storedLast, lastQuantity, lastReserved⟩ := back id middle storedMiddle
  refine ⟨stocked, storedLast, lastQuantity.trans sameQuantity, ?_⟩
  rw [lastReserved, reserved]
  rfl

theorem restocked_save {change : ℤ → ℤ → ℤ} {item : OrderItem}
    {products : Table Product} {product stocked : Product}
    (found : products.row item.productId = some product) (sameId : stocked.id = product.id)
    (sameQuantity : stocked.quantity = product.quantity)
    (reserved : stocked.reserved = change product.reserved item.quantity) :
    Restocked change [item] products (products.save stocked) := by
  have keyed : item.productId = stocked.id :=
    (products.keyed found).symm.trans sameId.symm
  intro id other stored
  by_cases asked : item.productId = id
  · subst asked
    cases found.symm.trans stored
    refine ⟨stocked, ?_, sameQuantity, ?_⟩
    · rw [keyed]
      exact products.row_save_self stocked
    · simp [reservedAfter, reserved]
  · refine ⟨other, ?_, rfl, ?_⟩
    · rw [products.row_save_of_ne, stored]
      exact fun same => asked (keyed.trans same.symm)
    · simp [reservedAfter, asked]

/-- The world with other products. -/
def World.withProducts (world : World) (products : Table Product) : World :=
  { world with db := { world.db with products } }

/-- Nothing but the products changes, and the products follow the items if
the program returns. -/
structure Stocked (change : ℤ → ℤ → ℤ) (items : List OrderItem)
    (world : World) (returns : Bool) (after : World) : Prop where
  books : SameBooks (world.withProducts after.db.products) after
  products : returns = true → Restocked change items world.db.products after.db.products

namespace Stocked

variable {change : ℤ → ℤ → ℤ} {items : List OrderItem} {returns : Bool}
  {world start after final : World}

theorem of_same (same : SameBooks world start)
    (stocked : Stocked change items start returns after) :
    Stocked change items world returns after where
  books :=
    { orders := stocked.books.orders.trans same.orders
      payments := stocked.books.payments.trans same.payments
      shipments := stocked.books.shipments.trans same.shipments
      products := rfl
      now := stocked.books.now.trans same.now }
  products done := by
    rw [← same.products]
    exact stocked.products done

theorem same (stocked : Stocked change items world returns after) (quiet : SameBooks after final) :
    Stocked change items world returns final where
  books :=
    { orders := quiet.orders.trans stocked.books.orders
      payments := quiet.payments.trans stocked.books.payments
      shipments := quiet.shipments.trans stocked.books.shipments
      products := rfl
      now := quiet.now.trans stocked.books.now }
  products done := by
    rw [quiet.products]
    exact stocked.products done

end Stocked

section

variable {spared : Spared} {world : World}

theorem wp_stockLoop {change : ℤ → ℤ → ℤ} {body : OrderItem → Service Unit}
    (each : ∀ item current, (commerce.shield spared).wp (body item)
      (fun result after => Stocked change [item] current result.isOk after)
      current) (items : List OrderItem) :
    (commerce.shield spared).wp (items.forM body)
      (fun result after => Stocked change items world result.isOk after)
      world := by
  apply Handler.wp_forM _ (Stocked change)
  · intro current
    refine ⟨.refl current, fun _ id product stored => ?_⟩
    exact ⟨product, stored, rfl, rfl⟩
  · exact each
  · exact fun head tail start stopped front => ⟨front.books, nofun⟩
  · intro head tail start middle returns final front back
    refine ⟨?_, fun done => (front.products rfl).cons (back.products done)⟩
    exact ⟨back.books.orders.trans front.books.orders,
      back.books.payments.trans front.books.payments,
      back.books.shipments.trans front.books.shipments, rfl, back.books.now.trans front.books.now⟩

theorem reserveItem_spec (userId : Id) (item : OrderItem) :
    (commerce.shield spared).wp (do
        let _ ← InventoryService.reserveInventory item.productId userId item.quantity)
      (fun result after => Stocked reserving [item] world result.isOk after)
      world := by
  have stopped : Stocked reserving [item] world false world :=
    ⟨.refl world, nofun⟩
  apply wp_discard
  apply wp_await_bind _ _ fun _ _ => stopped
  simp only [act]
  cases found : world.db.products.row item.productId with
  | none => exact stopped
  | some product =>
    apply wp_guard
    · exact fun _ => stopped
    intro _
    apply wp_await_bind _ _ fun _ _ => stopped
    have stocked : ∀ returns after, SameBooks (world.withProduct
            { product with
              reserved := product.reserved + item.quantity
              available :=
                product.quantity - (product.reserved + item.quantity) })
          after → Stocked reserving [item] world returns after := by
      intro returns after books
      refine ⟨⟨books.orders, books.payments, books.shipments, rfl, books.now⟩, fun _ => ?_⟩
      rw [books.products]
      exact restocked_save found rfl rfl rfl
    apply wp_await_bind _ _ fun _ _ => stocked _ _ (.refl _)
    apply wp_branch
    · exact fun _ => wp_total_bind _ rfl (stocked _ _ ⟨rfl, rfl, rfl, rfl, rfl⟩)
    · exact fun _ => stocked _ _ ⟨rfl, rfl, rfl, rfl, rfl⟩

theorem releaseItem_spec (userId : Id) (item : OrderItem) :
    (commerce.shield spared).wp (do
        let _ ← InventoryService.releaseInventory item.productId userId item.quantity)
      (fun result after => Stocked releasing [item] world result.isOk after)
      world := by
  have stopped : Stocked releasing [item] world false world :=
    ⟨.refl world, nofun⟩
  apply wp_discard
  apply wp_await_bind _ _ fun _ _ => stopped
  simp only [act]
  cases found : world.db.products.row item.productId with
  | none => exact stopped
  | some product =>
    apply wp_await_bind _ _ fun _ _ => stopped
    have stocked : ∀ returns after, SameBooks (world.withProduct
            { product with
              reserved := releasing product.reserved item.quantity
              available := product.quantity -
                releasing product.reserved item.quantity })
          after → Stocked releasing [item] world returns after := by
      intro returns after books
      refine ⟨⟨books.orders, books.payments, books.shipments, rfl, books.now⟩, fun _ => ?_⟩
      rw [books.products]
      exact restocked_save found rfl rfl rfl
    apply wp_await_bind _ _ fun _ _ => stocked _ _ (.refl _)
    exact stocked _ _ ⟨rfl, rfl, rfl, rfl, rfl⟩

theorem reserveItems_spec (userId : Id) (items : List OrderItem) :
    (commerce.shield spared).wp (items.forM fun item => do
        let _ ← InventoryService.reserveInventory item.productId userId item.quantity)
      (fun result after => Stocked reserving items world result.isOk after)
      world := wp_stockLoop (fun item _ => reserveItem_spec userId item) items

theorem releaseItems_spec (userId : Id) (items : List OrderItem) :
    (commerce.shield spared).wp (items.forM fun item => do
        let _ ← InventoryService.releaseInventory item.productId userId item.quantity)
      (fun result after => Stocked releasing items world result.isOk after)
      world := wp_stockLoop (fun item _ => releaseItem_spec userId item) items

/-! ### Listings -/

/-- The books are the same, no listing appears or disappears, and a program
that returns found the listing of every item. -/
structure Delisted (items : List OrderItem) (world : World) (returns : Bool)
    (after : World) : Prop where
  books : SameBooks world after
  listings : ∀ id, (after.db.listings.row id).isSome = (world.db.listings.row id).isSome
  listed : returns = true → ∀ item ∈ items, (world.db.listings.row item.productId).isSome

theorem wp_listingLoop {body : OrderItem → Service Unit}
    (each : ∀ item current, (commerce.shield spared).wp (body item)
      (fun result after => Delisted [item] current result.isOk after)
      current) (items : List OrderItem) :
    (commerce.shield spared).wp (transaction (items.forM body))
      (fun result after => Delisted items world result.isOk after) world := by
  have loop : (commerce.shield spared).wp (items.forM body)
      (fun result after => Delisted items world result.isOk after)
      world := by
    apply Handler.wp_forM _ Delisted
    · exact fun current => ⟨.refl current, fun _ => rfl, by simp⟩
    · exact each
    · exact fun head tail start after front =>
        ⟨front.books, front.listings, nofun⟩
    · intro head tail start middle returns after front back
      refine ⟨front.books.trans back.books, fun id =>
        (back.listings id).trans (front.listings id), ?_⟩
      intro done item member
      rcases List.mem_cons.mp member with rfl | later
      · exact front.listed rfl item List.mem_cons_self
      · rw [← front.listings]
        exact back.listed done item later
  apply wp_transaction
  · apply Handler.wp_mono _ loop
    intro result after moved
    have restored : Delisted items world false (after.withTables world.db) :=
      ⟨⟨rfl, rfl, rfl, rfl, moved.books.now⟩, fun _ => rfl, nofun⟩
    cases result with
    | ok value => exact ⟨moved, fun _ => restored⟩
    | error error => exact restored
  · exact fun _ => ⟨.refl world, fun _ => rfl, nofun⟩

theorem delisted_save {item : OrderItem} {listing changed : Listing}
    {returns : Bool} {after : World} (found : world.db.listings.row item.productId = some listing)
    (books : SameBooks world after) (listings : after.db.listings = world.db.listings.save changed)
    (sameId : changed.id = listing.id) :
    Delisted [item] world returns after := by
  have keyed : item.productId = changed.id :=
    (world.db.listings.keyed found).symm.trans sameId.symm
  refine ⟨books, fun id => ?_, fun _ other member => ?_⟩
  · rw [listings, Table.row_save]
    split
    next same =>
      have stored : world.db.listings.row id = some listing := by
        rw [same, ← found, keyed]
        rfl
      rw [stored]
      rfl
    next => rfl
  · cases List.mem_singleton.mp member
    rw [found]
    rfl

theorem confirmOrder_spec (order : Order) :
    (commerce.shield spared).wp (InventoryService.confirmOrder order)
      (fun result after => Delisted order.items world result.isOk after)
      world := by
  apply wp_listingLoop
  intro item current
  have stopped : Delisted [item] current false current :=
    ⟨.refl current, fun _ => rfl, by intros; contradiction⟩
  apply wp_await_bind _ _ fun _ _ => stopped
  simp only [act]
  cases found : current.db.listings.row item.productId with
  | none => exact stopped
  | some listing =>
    apply wp_await_bind _ _ fun _ _ => stopped
    apply wp_await_bind
    · apply wp_branch
      · intro _
        unfold InventoryService.notifyLowStock
        refine ⟨?_, by intros; contradiction⟩
        exact delisted_save found ⟨rfl, rfl, rfl, rfl, rfl⟩ rfl rfl
      · intro _
        exact delisted_save found ⟨rfl, rfl, rfl, rfl, rfl⟩ rfl rfl
    · exact fun _ _ => delisted_save found ⟨rfl, rfl, rfl, rfl, rfl⟩ rfl rfl

theorem cancelListings_spec (order : Order) :
    (commerce.shield spared).wp (InventoryService.cancelOrder order)
      (fun result after => Delisted order.items world result.isOk after)
      world := by
  apply wp_listingLoop
  intro item current
  have stopped : Delisted [item] current false current :=
    ⟨.refl current, fun _ => rfl, nofun⟩
  apply wp_await_bind _ _ fun _ _ => stopped
  simp only [act]
  cases found : current.db.listings.row item.productId with
  | none => exact stopped
  | some listing =>
    apply wp_await_bind _ _ fun _ _ => stopped
    rw [wp_await]
    refine ⟨?_, fun _ _ _ => ?_⟩
    all_goals
      exact delisted_save found ⟨rfl, rfl, rfl, rfl, rfl⟩ rfl rfl

end

/-! ### The outcomes -/

/-- The order as a status update leaves it. -/
def movedOrder (order : Order) (status : OrderStatus) (now : Date) : Order :=
  match status with
  | .paid =>
    { order with
      status := .paid, paymentStatus := .paid, confirmedAt := some now }
  | .cancelled =>
    { order with status := .cancelled, cancelledAt := some now }
  | .shipped => { order with status := .shipped, shippedAt := some now }
  | .delivered =>
    { order with status := .delivered, deliveredAt := some now }
  | _ => { order with status }

/-- The request with the distance, where both addresses can be located. -/
def located (world : World) (input : FraudInput) : FraudInput :=
  match input.metadata with
  | none => input
  | some metadata =>
    match FraudService.given input.ip, FraudService.given metadata.shippingAddress with
    | some ip, some shippingAddress =>
      match world.geoDistance ip shippingAddress with
      | some distance =>
        { input with
          metadata := some
            { metadata with geoDistanceMiles := some distance } }
      | none => input
    | _, _ => input

/-- The request scores high enough for its order to be held, with or without
the distance: the look-up may fail. -/
def highRisk (foldAddress : String → String) (world : World) (input : FraudInput) : Bool :=
  [input, located world input].any fun considered =>
    (FraudService.evaluateAllRules foldAddress considered).riskScore ≥ 75

/-- What a call can do to the books, and whether it returns or throws. -/
inductive Booked (foldAddress : String → String) (spared : Spared)
    (world : World) : CommerceCall → Bool → World → Prop where
  | kept {call : CommerceCall} {returns : Bool} {after : World} (books : SameBooks world after) :
      Booked foldAddress spared world call returns after
  | created {dto : CreateOrderDto} {order : Order} {after : World}
      (fresh : order.id = world.db.orders.next) (pending : order.status = .pending)
      (unpaid : order.paymentStatus = .unpaid)
      (stocked : Stocked reserving order.items (world.withOrder order) true after) :
      Booked foldAddress spared world (.create dto) true after
  | cancelled {id userId : Id} {order : Order} {after : World}
      (found : world.db.orders.row id = some order)
      (owner : order.buyerId = userId) (active : order.status ≠ .cancelled)
      (stocked : Stocked releasing order.items
        (world.withOrder (OrdersService.cancelledOrder order world.now)) true after) :
      Booked foldAddress spared world (.cancelOrder id userId) true after
  | moved {id : Id} {dto : UpdateOrderStatusDto} {order : Order}
      {after : World} (found : world.db.orders.row id = some order) (allowed : dto.status ∈
        orderTransitionValidator.validTransitions order.status)
      (listed : dto.status = .paid ∨ dto.status = .cancelled → ∀ item ∈ order.items,
          (world.db.listings.row item.productId).isSome) (books : SameBooks
        (world.withOrder (movedOrder order dto.status world.now)) after) :
      Booked foldAddress spared world (.updateStatus id dto) true after
  | initiated {dto : InitiatePaymentDto} {order : Order} {payment : Payment} {after : World}
      (found : world.db.orders.row dto.orderId = some order) (isPending : order.status = .pending)
      (fresh : payment.id = world.db.payments.next) (about : payment.orderId = dto.orderId)
      (pending : payment.status = .pending) (books : SameBooks (world.withPayment payment) after) :
      Booked foldAddress spared world (.initiatePayment dto) true after
  | refused {id : Id} {data : TransactionData} {payment : Payment}
      {message : String} {after : World} (found : world.db.payments.row id = some payment)
      (pending : payment.status = .pending) (books : SameBooks (world.withPayment
        (PaymentsService.failedPayment payment message world.now)) after) :
      Booked foldAddress spared world (.verifyAndConfirmPayment id data) true after
  | halfConfirmed {id : Id} {data : TransactionData} {payment : Payment}
      {after : World} (found : world.db.payments.row id = some payment)
      (pending : payment.status = .pending) (valid :
        PaymentsService.checkTransaction payment data world.now = none) (exposed : ∀ order,
        world.db.orders.row payment.orderId = some order → order.status ≠ .manualReview ∧
            spared (.saveOrder (PaymentsService.paidOrder order world.now)) = false)
      (books : SameBooks (world.withPayment
        (PaymentsService.confirmedPayment payment data world.now)) after) :
      Booked foldAddress spared world (.verifyAndConfirmPayment id data) false after
  | confirmed {id : Id} {data : TransactionData} {payment : Payment} {order : Order} {after : World}
      (found : world.db.payments.row id = some payment) (pending : payment.status = .pending)
      (ordered : world.db.orders.row payment.orderId = some order)
      (unheld : order.status ≠ .manualReview) (valid :
        PaymentsService.checkTransaction payment data world.now = none) (books : SameBooks
        ((world.withPayment (PaymentsService.confirmedPayment payment data world.now)).withOrder
            (PaymentsService.paidOrder order world.now)) after) :
      Booked foldAddress spared world (.verifyAndConfirmPayment id data) true after
  | timedOut {id : Id} {payment : Payment} {after : World}
      (found : world.db.payments.row id = some payment) (pending : payment.status = .pending)
      (books : SameBooks (world.withPayment
        (PaymentsService.timedOutPayment payment world.now)) after) :
      Booked foldAddress spared world (.handlePaymentTimeout id) true after
  | labelled {dto : CreateShipmentDto} {order : Order} {shipment : Shipment} {after : World}
      (found : world.db.orders.row dto.orderId = some order) (paid : order.status = .paid)
      (fresh : shipment.id = world.db.shipments.next) (about : shipment.orderId = dto.orderId)
      (books : SameBooks (world.withShipment shipment) after) :
      Booked foldAddress spared world (.createShipment dto) false after
  | shipped {dto : CreateShipmentDto} {order : Order} {shipment : Shipment} {after : World}
      (found : world.db.orders.row dto.orderId = some order) (paid : order.status = .paid)
      (fresh : shipment.id = world.db.shipments.next) (about : shipment.orderId = dto.orderId)
      (books : SameBooks ((world.withShipment shipment).withOrder
        (ShippingService.shippedOrder order dto.trackingNumber world.now)) after) :
      Booked foldAddress spared world (.createShipment dto) true after
  | forwarded {id : Id} {dto : UpdateShipmentStatusDto}
      {shipment : Shipment} {returns : Bool} {after : World}
      (found : world.db.shipments.row id = some shipment) (books : SameBooks (world.withShipment
        (ShippingService.movedShipment shipment dto world.now)) after) :
      Booked foldAddress spared world (.updateShipmentStatus id dto) returns after
  | delivered {id : Id} {dto : UpdateShipmentStatusDto}
      {shipment : Shipment} {order : Order} {after : World}
      (found : world.db.shipments.row id = some shipment)
      (ordered : world.db.orders.row shipment.orderId = some order) (allowed :
        ShippingService.isValidStateTransition shipment.status dto.status = true)
      (arrived : dto.status = .delivered) (books : SameBooks ((world.withShipment
          (ShippingService.movedShipment shipment dto world.now)).withOrder
            (ShippingService.deliveredOrder order world.now)) after) :
      Booked foldAddress spared world (.updateShipmentStatus id dto) true after
  | held {input : FraudInput} {orderId : Id} {order : Order} {returns : Bool} {after : World}
      (about : input.orderId = some orderId) (found : world.db.orders.row orderId = some order)
      (unheld : order.status ≠ .manualReview) (high : highRisk foldAddress world input = true)
      (books : SameBooks (world.withOrder (FraudService.heldOrder order)) after) :
      Booked foldAddress spared world (.analyzeRequest input) returns after

/-! ### Writing after quiet effects -/

namespace SameBooks

variable {world after : World} (same : SameBooks world after)

include same

theorem withOrder (order : Order) :
    SameBooks (world.withOrder order) (after.withOrder order) where
  orders := congrArg (Table.save · order) same.orders
  payments := same.payments
  shipments := same.shipments
  products := same.products
  now := same.now

theorem withPayment (payment : Payment) :
    SameBooks (world.withPayment payment) (after.withPayment payment) where
  orders := same.orders
  payments := congrArg (Table.save · payment) same.payments
  shipments := same.shipments
  products := same.products
  now := same.now

theorem withShipment (shipment : Shipment) :
    SameBooks (world.withShipment shipment) (after.withShipment shipment) where
  orders := same.orders
  payments := same.payments
  shipments := congrArg (Table.save · shipment) same.shipments
  products := same.products
  now := same.now

end SameBooks

theorem SameBooks.emitted (world : World) (event : CommerceEvent) :
    SameBooks world (world.emitted event) :=
  ⟨rfl, rfl, rfl, rfl, rfl⟩

theorem Stocked.withOrder {change : ℤ → ℤ → ℤ} {items : List OrderItem}
    {returns : Bool} {world after : World}
    (stocked : Stocked change items world returns after) (order : Order) :
    Stocked change items (world.withOrder order) returns (after.withOrder order) where
  books :=
    { orders := congrArg (Table.save · order) stocked.books.orders
      payments := stocked.books.payments
      shipments := stocked.books.shipments
      products := rfl
      now := stocked.books.now }
  products := stocked.products

section

variable {spared : Spared} {α β : Type}

theorem wp_quiet_bind {first : Service α} {rest : α → Service β}
    {post : Except HttpException β → World → Prop} {start world : World}
    (before : SameBooks start world) (quiet : (commerce.shield spared).Respects SameBooks first)
    (continues : ∀ value after, SameBooks start after →
      (commerce.shield spared).wp (rest value) post after)
    (failed : ∀ error after, SameBooks start after → post (.error error) after) :
    (commerce.shield spared).wp (first >>= rest) post world := by
  rw [wp_bind]
  apply Handler.wp_mono _ (quiet world)
  intro result after same
  cases result with
  | ok value => exact continues value after (before.trans same)
  | error error => exact failed error after (before.trans same)

theorem wp_ofExcept_validate (order : Order) (status : OrderStatus)
    (post : Except HttpException Unit → World → Prop) (world : World) (allowed : status ∈
      orderTransitionValidator.validTransitions order.status → post (.ok ()) world)
    (refused : ∀ error, post (.error error) world) :
    (commerce.shield spared).wp
      (ofExcept (orderTransitionValidator.validate order.status status)) post
      world := by
  rcases orderTransitionValidator.validate_cases order.status status with
    ⟨isAllowed, accepts⟩ | ⟨_, error, rejects⟩
  · rw [accepts]
    exact allowed isAllowed
  · rw [rejects]
    exact refused error

/-! ### Orders -/

variable {foldAddress : String → String} {world : World}

theorem respects_priceItem (currency : Currency) (item : CreateOrderItemDto) :
    (commerce.shield spared).Respects SameBooks (OrdersService.priceItem currency item) := by
  apply Respects.bind (respects_await _ rfl)
  intro product?
  cases product? with
  | none => exact .throw _
  | some product => exact .guard _ _ fun _ => .pure _

theorem sameBooks_withTables {before start after : World}
    (now : after.now = start.now) (same : SameBooks before start) :
    SameBooks before (after.withTables start.db) where
  orders := same.orders
  payments := same.payments
  shipments := same.shipments
  products := same.products
  now := now.trans same.now

theorem create_spec (dto : CreateOrderDto) :
    (commerce.shield spared).wp (OrdersService.create dto) (fun result after =>
        Booked foldAddress spared world (.create dto) result.isOk after)
      world := by
  have undone : ∀ {after : World}, after.now = world.now →
      Booked foldAddress spared world (.create dto) false (after.withTables world.db) :=
    fun now => .kept (sameBooks_withTables now (.refl world))
  apply wp_transaction _ fun _ => .kept (.refl world)
  apply wp_quiet_bind (.refl world) (.mapM (respects_priceItem _) _)
  · intro orderItems start same
    apply wp_guard
    · exact fun _ => undone same.now
    intro _
    apply wp_guard
    · exact fun _ => undone same.now
    intro _
    apply wp_await_bind _ _ fun _ _ => undone same.now
    rw [wp_bind]
    apply Handler.wp_mono _ (reserveItems_spec _ _)
    intro result after stocked
    cases result with
    | error error => exact undone (stocked.books.now.trans same.now)
    | ok value =>
      have ends : ∀ (savedOrder : Order) (final : World), SameBooks after final →
            settles world (fun result after =>
              Booked foldAddress spared world (.create dto) result.isOk
                after) (.ok savedOrder) final := by
        intro savedOrder final quiet
        refine ⟨.created ?_ rfl rfl ((stocked.of_same (same.withOrder _)).same quiet), fun _ => ?_⟩
        · exact congrArg Table.next same.orders
        · exact undone (quiet.now.trans (stocked.books.now.trans same.now))
      apply wp_branch
      · exact fun _ => wp_total_bind _ rfl (ends _ _ (.emitted _ _))
      · exact fun _ => ends _ _ (.refl after)
  · exact fun error after same => undone same.now

theorem cancelOrder_spec (id userId : Id) :
    (commerce.shield spared).wp (OrdersService.cancelOrder id userId) (fun result after =>
        Booked foldAddress spared world (.cancelOrder id userId) result.isOk after) world := by
  have undone : ∀ {after : World}, after.now = world.now →
      Booked foldAddress spared world (.cancelOrder id userId) false (after.withTables world.db) :=
    fun now => .kept (sameBooks_withTables now (.refl world))
  apply wp_transaction _ fun _ => .kept (.refl world)
  apply wp_await_bind _ _ fun _ _ => undone rfl
  simp only [act]
  cases found : world.db.orders.row id with
  | none => exact undone rfl
  | some order =>
    apply wp_guard
    · exact fun _ => undone rfl
    intro owner
    apply wp_guard
    · exact fun _ => undone rfl
    intro active
    rw [wp_bind]
    apply Handler.wp_mono _ (releaseItems_spec _ _)
    intro result released stocked
    cases result with
    | error error => exact undone stocked.books.now
    | ok value =>
      apply wp_total_bind _ rfl
      apply wp_await_bind _ _ fun _ _ => undone stocked.books.now
      refine ⟨.cancelled found (not_not.mp owner) active ?_, fun _ => undone stocked.books.now⟩
      have now : (act .dateNow released).1 = world.now := stocked.books.now
      rw [now]
      exact stocked.withOrder _

theorem wp_applyStatus (order : Order) (status : OrderStatus)
    {post : Except HttpException Order → World → Prop}
    (applied : ∀ dated after, SameBooks world after →
      (status = .paid ∨ status = .cancelled → ∀ item ∈ order.items,
        (world.db.listings.row item.productId).isSome) →
      { dated with status } = movedOrder order status world.now → post (.ok dated) after)
    (failed : ∀ error after, SameBooks world after → post (.error error) after) :
    (commerce.shield spared).wp (OrdersService.applyStatus order status) post
      world := by
  have dating : ∀ (date : Date → Order) (after : World), SameBooks world after →
        (status = .paid ∨ status = .cancelled → ∀ item ∈ order.items,
          (world.db.listings.row item.productId).isSome) →
        { date world.now with status } = movedOrder order status world.now →
          (commerce.shield spared).wp (do let now ← dateNow; pure (date now)) post after := by
    intro date after same listed dated
    apply wp_total_bind _ rfl
    refine applied _ after same listed ?_
    rw [← dated, ← same.now]
    rfl
  cases status with
  | paid =>
    rw [OrdersService.applyStatus, wp_bind]
    apply Handler.wp_mono _ (confirmOrder_spec order)
    intro result after delisted
    cases result with
    | error error => exact failed error after delisted.books
    | ok value => exact dating _ after delisted.books (fun _ => delisted.listed rfl) rfl
  | cancelled =>
    rw [OrdersService.applyStatus, wp_bind]
    apply Handler.wp_mono _ (cancelListings_spec order)
    intro result after delisted
    cases result with
    | error error => exact failed error after delisted.books
    | ok value => exact dating _ after delisted.books (fun _ => delisted.listed rfl) rfl
  | shipped => exact dating _ world (.refl world) (by simp) rfl
  | delivered => exact dating _ world (.refl world) (by simp) rfl
  | _ => exact applied order world (.refl world) (by simp) rfl

theorem updateStatus_spec (id : Id) (dto : UpdateOrderStatusDto) :
    (commerce.shield spared).wp (OrdersService.updateStatus id dto) (fun result after =>
        Booked foldAddress spared world (.updateStatus id dto) result.isOk after) world := by
  unfold OrdersService.updateStatus OrdersService.findOne
  rw [wp_bind]
  apply wp_await_bind _ _ fun _ _ => .kept (.refl world)
  simp only [act]
  cases found : world.db.orders.row id with
  | none => exact .kept (.refl world)
  | some order =>
    rw [wp_pure, andThen_ok, wp_bind]
    apply wp_ofExcept_validate
    · intro allowed
      rw [andThen_ok, wp_bind]
      apply wp_applyStatus
      · intro dated after same listed moved
        have books : ∀ {final : World},
            SameBooks (after.withOrder { dated with status := dto.status }) final →
              Booked foldAddress spared world (.updateStatus id dto) true
                final := by
          intro final quiet
          refine .moved found allowed listed (SameBooks.trans ?_ quiet)
          rw [← moved]
          exact same.withOrder _
        apply wp_await_bind _ _ fun _ _ => .kept same
        apply wp_total_bind _ rfl
        split
        · exact wp_total_bind _ rfl (books ((SameBooks.emitted _ _).trans (.emitted _ _)))
        · exact books (.emitted _ _)
      · exact fun error after same => .kept same
    · exact fun error => .kept (.refl world)

/-! ### Payments -/

theorem respects_createReward (dto : RewardsService.CreateRewardDto) :
    (commerce.shield spared).Respects SameBooks (RewardsService.createReward dto) := by
  apply Respects.bind (respects_await (.sumPoints dto.userId) rfl)
  intro balance
  apply Respects.guard
  intro _
  exact .bind (respects_await _ rfl) fun _ => .pure _

theorem respects_payableAmount (order : Order) (pointsToUse : Option ℚ) :
    (commerce.shield spared).Respects SameBooks
      (PaymentsService.payableAmount order pointsToUse) := by
  have applying : ∀ points, (commerce.shield spared).Respects SameBooks
      (RewardsService.applyPointsToCheckout order.buyerId points order.totalAmount) := by
    intro points
    apply Respects.bind (respects_await (.sumPoints order.buyerId) rfl)
    intro balance
    apply Respects.guard
    intro _
    apply Respects.bind (respects_createReward _)
    intro _
    apply Respects.bind (respects_await (.sumPoints order.buyerId) rfl)
    exact fun _ => .pure _
  cases pointsToUse with
  | none => exact .pure _
  | some points =>
    apply Respects.ite
    · apply Respects.bind (applying points).attempt
      intro outcome
      cases outcome <;> exact .pure _
    · exact .pure _

theorem initiatePayment_spec (dto : InitiatePaymentDto) :
    (commerce.shield spared).wp (PaymentsService.initiatePayment dto) (fun result after =>
        Booked foldAddress spared world (.initiatePayment dto) result.isOk after) world := by
  apply wp_await_bind _ _ fun _ _ => .kept (.refl world)
  simp only [act]
  cases found : world.db.orders.row dto.orderId with
  | none => exact .kept (.refl world)
  | some order =>
    apply wp_guard
    · exact fun _ => .kept (.refl world)
    intro _
    apply wp_guard
    · exact fun _ => .kept (.refl world)
    intro isPending
    apply wp_guard
    · exact fun _ => .kept (.refl world)
    intro _
    apply wp_await_bind _ _ fun _ _ => .kept (.refl world)
    simp only [act]
    cases world.db.payments.rows.find? _ with
    | some existingPayment => exact .kept (.refl world)
    | none =>
      apply wp_quiet_bind (.refl world) (respects_payableAmount order dto.pointsToUse)
      · intro finalAmount after same
        apply wp_await_bind _ _ fun _ _ => .kept same
        simp only [act]
        cases after.db.wallets.rows.find? _ with
        | none => exact .kept same
        | some wallet =>
          apply wp_total_bind _ rfl
          apply wp_await_bind _ _ fun _ _ => .kept same
          apply wp_total_bind _ rfl
          refine .initiated found (not_not.mp isPending) ?_ ?_ ?_
            ((same.withPayment _).trans (.emitted _ _))
          · exact congrArg Table.next same.payments
          · rfl
          · rfl
      · exact fun error after same => .kept same

theorem verifyAndConfirmPayment_spec (id : Id) (data : TransactionData) :
    (commerce.shield spared).wp (PaymentsService.verifyAndConfirmPayment id data)
      (fun result after =>
        Booked foldAddress spared world (.verifyAndConfirmPayment id data)
          result.isOk after) world := by
  apply wp_await_bind _ _ fun _ _ => .kept (.refl world)
  simp only [act]
  cases found : world.db.payments.row id with
  | none => exact .kept (.refl world)
  | some payment =>
    apply wp_guard
    · exact fun _ => .kept (.refl world)
    intro isPending
    have pending := not_not.mp isPending
    apply wp_guard
    · exact fun _ => .kept (.refl world)
    intro unheld
    rw [wp_bind]
    apply wp_total_bind _ rfl
    simp only [act, wp_pure, andThen_ok]
    cases valid : PaymentsService.checkTransaction payment data world.now with
    | some message =>
      apply wp_total_bind _ rfl
      apply wp_await_bind _ _ fun _ _ => .kept (.refl world)
      apply wp_total_bind _ rfl
      exact .refused found pending (.emitted _ _)
    | none =>
      apply wp_total_bind _ rfl
      apply wp_await_bind _ _ fun _ _ => .kept (.refl world)
      cases ordered : world.db.orders.row payment.orderId with
      | none =>
        refine .halfConfirmed found pending valid ?_ (.refl _)
        intro order stored
        cases ordered.symm.trans stored
      | some order =>
        have free : order.status ≠ .manualReview := by simpa [ordered] using unheld
        apply wp_total_bind _ rfl
        apply wp_await_bind
        · apply wp_total_bind _ rfl
          exact .confirmed found pending ordered free valid (.emitted _ _)
        · intro exposed error
          refine .halfConfirmed found pending valid ?_ (.refl _)
          intro other stored
          cases ordered.symm.trans stored
          exact ⟨free, exposed⟩

theorem handlePaymentTimeout_spec (id : Id) :
    (commerce.shield spared).wp (PaymentsService.handlePaymentTimeout id) (fun result after =>
        Booked foldAddress spared world (.handlePaymentTimeout id)
          result.isOk after) world := by
  apply wp_await_bind _ _ fun _ _ => .kept (.refl world)
  simp only [act]
  cases found : world.db.payments.row id with
  | none => exact .kept (.refl world)
  | some payment =>
    dsimp only
    split
    next pending =>
      apply wp_total_bind _ rfl
      apply wp_await_bind _ _ fun _ _ => .kept (.refl world)
      apply wp_total_bind _ rfl
      exact .timedOut found pending (.emitted _ _)
    next => exact .kept (.refl world)

/-! ### Shipments -/

theorem createShipment_spec (dto : CreateShipmentDto) :
    (commerce.shield spared).wp (ShippingService.createShipment dto) (fun result after =>
        Booked foldAddress spared world (.createShipment dto) result.isOk after) world := by
  apply wp_await_bind _ _ fun _ _ => .kept (.refl world)
  simp only [act]
  cases found : world.db.orders.row dto.orderId with
  | none => exact .kept (.refl world)
  | some order =>
    apply wp_guard
    · exact fun _ => .kept (.refl world)
    intro isPaid
    have paid := not_not.mp isPaid
    apply wp_await_bind _ _ fun _ _ => .kept (.refl world)
    simp only [act]
    cases world.db.shipments.rows.find? _ with
    | some existingShipment => exact .kept (.refl world)
    | none =>
      apply wp_quiet_bind (.refl world)
      · unfold ShippingService.estimatedDelivery
        cases dto.estimatedDeliveryDate with
        | some date => exact .pure _
        | none => exact .bind (respects_await .dateNow rfl) fun _ => .pure _
      · intro estimatedDeliveryDate after same
        apply wp_await_bind _ _ fun _ _ => .kept same
        apply wp_total_bind _ rfl
        have labelled := same.withShipment
          { id := after.db.shipments.next
            orderId := dto.orderId
            carrier := dto.carrier
            trackingNumber := dto.trackingNumber
            status := .labelCreated
            shippingAddress := dto.shippingAddress
            weight := dto.weight
            dimensions := dto.dimensions
            shippingCost := dto.shippingCost
            estimatedDeliveryDate := some estimatedDeliveryDate
            labelUrl := dto.labelUrl
            notes := dto.notes }
        have fresh : after.db.shipments.next = world.db.shipments.next :=
          congrArg Table.next same.shipments
        apply wp_await_bind
        · apply wp_total_bind _ rfl
          refine .shipped found paid fresh rfl (SameBooks.trans (labelled.withOrder _) ?_)
          rw [← same.now]
          exact .emitted _ _
        · exact fun _ _ => .labelled found paid fresh rfl labelled
      · exact fun error after same => .kept same

theorem updateShipmentStatus_spec (id : Id) (dto : UpdateShipmentStatusDto) :
    (commerce.shield spared).wp (ShippingService.updateStatus id dto) (fun result after =>
        Booked foldAddress spared world (.updateShipmentStatus id dto)
          result.isOk after) world := by
  apply wp_await_bind _ _ fun _ _ => .kept (.refl world)
  simp only [act]
  cases found : world.db.shipments.row id with
  | none => exact .kept (.refl world)
  | some shipment =>
    apply wp_guard
    · exact fun _ => .kept (.refl world)
    intro isAllowed
    have allowed : ShippingService.isValidStateTransition shipment.status dto.status = true := by
      simpa using isAllowed
    apply wp_total_bind _ rfl
    apply wp_await_bind _ _ fun _ _ => .kept (.refl world)
    rw [wp_bind]
    apply wp_await_bind _ _ fun _ _ => .forwarded found (.refl _)
    simp only [act]
    cases ordered : world.db.orders.row shipment.orderId with
    | none =>
      simp only [World.withShipment, ordered, wp_pure, andThen_ok]
      exact wp_total_bind _ rfl (.forwarded found (.emitted _ _))
    | some order =>
      simp only [World.withShipment, ordered, wp_ite]
      split
      next arrived =>
        apply wp_total_bind _ rfl
        rw [wp_await]
        refine ⟨?_, fun _ _ _ => .forwarded found (.refl _)⟩
        exact wp_total_bind _ rfl (.delivered found ordered allowed arrived (.emitted _ _))
      next => exact wp_total_bind _ rfl (.forwarded found (.emitted _ _))

/-! ### Fraud -/

theorem wp_enrich (input : FraudInput) {post : Except HttpException FraudInput → World → Prop}
    (enriched : ∀ considered ∈ [input, located world input], post (.ok considered) world) :
    (commerce.shield spared).wp (FraudService.enrich input) post world := by
  have plain := enriched input (by simp)
  have withDistance := enriched (located world input) (by simp)
  unfold FraudService.enrich
  unfold located at withDistance
  cases known : input.metadata with
  | none => exact plain
  | some metadata =>
    cases reached : FraudService.given input.ip with
    | none => exact plain
    | some ip =>
      cases addressed : FraudService.given metadata.shippingAddress with
      | none =>
        simp only [addressed]
        exact plain
      | some shippingAddress =>
        simp only [addressed]
        rw [wp_bind, wp_attempt, wp_await]
        refine ⟨?_, fun _ _ _ => plain⟩
        simp only [act, andThen_ok]
        cases found : world.geoDistance ip shippingAddress <;> simp_all

theorem respects_lockAccount (userId : Id) (result : ScoreResult) :
    (commerce.shield spared).Respects SameBooks (FraudService.lockAccount userId result) := by
  have counting : (commerce.shield spared).Respects SameBooks
      (FraudService.increment s!"fraud_flags:{userId}" 3600) := by
    apply Respects.bind
    · apply Respects.attempt
      apply Respects.bind (respects_await (.incr _) rfl)
      intro count
      apply Respects.ite
      · exact .bind (respects_await _ rfl) fun _ => .pure _
      · exact .pure _
    · intro outcome
      cases outcome <;> exact .pure _
  apply Respects.bind counting
  intro flagCount
  apply Respects.ite
  · apply Respects.bind
    · apply Respects.attempt
      apply Respects.bind (respects_await (.findUser userId) rfl)
      intro user?
      cases user? with
      | none => exact .pure _
      | some user =>
        apply Respects.ite
        · apply Respects.bind (respects_await _ rfl)
          intro _
          apply Respects.bind (respects_await _ rfl)
          exact fun _ => respects_await _ rfl
        · exact .pure _
    · exact fun _ => .pure _
  · exact .pure _

theorem holdOrder_spec (orderId : Id) {post : Except HttpException Unit → World → Prop}
    (kept : ∀ result, post result world) (held : ∀ order, world.db.orders.row orderId = some order →
      order.status ≠ .manualReview →
        post (.ok ()) (world.withOrder (FraudService.heldOrder order))) :
    (commerce.shield spared).wp (FraudService.holdOrder orderId) post
      world := by
  apply wp_await_bind _ _ fun _ _ => kept _
  simp only [act]
  cases found : world.db.orders.row orderId with
  | none => exact kept _
  | some order =>
    rw [wp_ite]
    split
    next unheld =>
      rw [wp_await]
      exact ⟨held order found unheld, fun _ _ _ => kept _⟩
    next => exact kept _

theorem respects_flagUser (considered : FraudInput) (scored : ScoreResult) :
    (commerce.shield spared).Respects SameBooks (FraudService.flagUser considered scored) := by
  unfold FraudService.flagUser
  cases considered.userId with
  | none => exact .pure _
  | some userId => exact respects_lockAccount _ _

theorem respects_notifyAdmin (considered : FraudInput) (scored : ScoreResult) :
    (commerce.shield spared).Respects SameBooks (FraudService.notifyAdmin considered scored) := by
  exact .ite _ (respects_await (.emit _) rfl) (.pure _)

theorem respects_suspendUser (considered : FraudInput) (scored : ScoreResult) :
    (commerce.shield spared).Respects SameBooks (FraudService.suspendUser considered scored) := by
  apply Respects.ite
  · cases considered.userId with
    | none => exact .pure _
    | some userId =>
      apply Respects.bind (respects_await (.suspendUser userId) rfl).attempt
      exact fun _ => .pure _
  · exact .pure _

theorem raiseAlert_spec {input considered : FraudInput} (same : considered.orderId = input.orderId)
    (read : considered ∈ [input, located world input]) :
    (commerce.shield spared).wp (FraudService.raiseAlert considered
        (FraudService.evaluateAllRules foldAddress considered)) (fun result after =>
        Booked foldAddress spared world (.analyzeRequest input) result.isOk after) world := by
  have reviewing : ∀ before, SameBooks world before → (commerce.shield spared).wp (do
          FraudService.reviewOrder considered (FraudService.evaluateAllRules foldAddress considered)
          FraudService.suspendUser considered
            (FraudService.evaluateAllRules foldAddress considered))
        (fun result after =>
          Booked foldAddress spared world (.analyzeRequest input) result.isOk after) before := by
    intro before sameBefore
    have unheld : (commerce.shield spared).wp (FraudService.suspendUser considered
          (FraudService.evaluateAllRules foldAddress considered)) (fun result after =>
          Booked foldAddress spared world (.analyzeRequest input) result.isOk after) before :=
      Handler.wp_mono _ (respects_suspendUser _ _ before) fun result after sameAfter =>
        .kept (sameBefore.trans sameAfter)
    unfold FraudService.reviewOrder
    rw [wp_bind, wp_ite]
    split
    next scored =>
      cases about : considered.orderId with
      | none => exact unheld
      | some orderId =>
        apply holdOrder_spec
        · intro result
          cases result with
          | ok value => exact unheld
          | error error => exact .kept sameBefore
        · intro order found isUnheld
          apply Handler.wp_mono _ (respects_suspendUser _ _ _)
          intro result after sameAfter
          have high : highRisk foldAddress world input = true :=
            List.any_eq_true.mpr ⟨considered, read, decide_eq_true scored⟩
          rw [sameBefore.orders] at found
          exact .held (same.symm.trans about) found isUnheld high
            ((sameBefore.withOrder _).trans sameAfter)
    next => exact unheld
  apply wp_quiet_bind (.refl world) (respects_await _ rfl)
  · intro _ saved sameSaved
    apply wp_quiet_bind sameSaved (respects_await (.emit _) rfl)
    · intro _ emitted sameEmitted
      apply wp_quiet_bind sameEmitted (respects_flagUser _ _)
      · intro _ flagged sameFlagged
        apply wp_quiet_bind sameFlagged (respects_notifyAdmin _ _)
        · exact fun _ notified sameNotified => reviewing notified sameNotified
        · exact fun error after same => .kept same
      · exact fun error after same => .kept same
    · exact fun error after same => .kept same
  · exact fun error after same => .kept same

theorem analyzeRequest_spec (input : FraudInput) :
    (commerce.shield spared).wp (FraudService.analyzeRequest foldAddress input) (fun result after =>
        Booked foldAddress spared world (.analyzeRequest input) result.isOk after) world := by
  have sameOrder : (located world input).orderId = input.orderId := by grind [located]
  unfold FraudService.analyzeRequest
  rw [wp_bind]
  apply wp_enrich
  intro considered read
  have same : considered.orderId = input.orderId := by grind
  rw [andThen_ok, wp_ite]
  split
  · rw [wp_bind]
    apply Handler.wp_mono _ (raiseAlert_spec same read)
    intro result after booked
    cases result <;> exact booked
  · exact .kept (.refl world)

theorem program_spec (call : CommerceCall) :
    (commerce.shield spared).wp (call.program foldAddress) (fun result after =>
        Booked foldAddress spared world call result.isOk after) world := by
  have discarded : ∀ {γ : Type} {program : Service γ}, (commerce.shield spared).wp program
        (fun result after => Booked foldAddress spared world call result.isOk after) world →
      (commerce.shield spared).wp (do let _ ← program; pure ()) (fun result after =>
          Booked foldAddress spared world call result.isOk after) world := by
    intro γ program holds
    apply wp_discard
    apply Handler.wp_mono _ holds
    intro result after booked
    cases result <;> exact booked
  cases call with
  | create dto => exact discarded (create_spec dto)
  | cancelOrder id userId => exact discarded (cancelOrder_spec id userId)
  | updateStatus id dto => exact discarded (updateStatus_spec id dto)
  | initiatePayment dto => exact discarded (initiatePayment_spec dto)
  | verifyAndConfirmPayment id data => exact discarded (verifyAndConfirmPayment_spec id data)
  | handlePaymentTimeout id => exact discarded (handlePaymentTimeout_spec id)
  | createShipment dto => exact discarded (createShipment_spec dto)
  | updateShipmentStatus id dto => exact discarded (updateShipmentStatus_spec id dto)
  | analyzeRequest input => exact discarded (analyzeRequest_spec input)

end

/-! ### One call -/

variable (foldAddress : String → String)

/-- Every call that is made, with every failure, does one of the things the
books allow. -/
theorem booked_call (world : World) (call : CommerceCall) (faults : List Fault) :
    Booked foldAddress noneSpared world call
      (commerce.exec (call.program foldAddress) faults world).1.isOk
      (trade foldAddress world (.call call faults)) := by
  have holds : (commerce.shield noneSpared).wp (call.program foldAddress) (fun result after =>
        Booked foldAddress noneSpared world call result.isOk after) world := program_spec call
  rw [commerce.shield_none] at holds
  exact commerce.wp_sound holds faults

variable {foldAddress}

theorem booked_sparing {spared : Spared} {world : World} {call : CommerceCall} {faults : List Fault}
    (spares : commerce.Spares spared (call.program foldAddress) faults world) :
    Booked foldAddress spared world call
      (commerce.exec (call.program foldAddress) faults world).1.isOk
      (trade foldAddress world (.call call faults)) :=
  commerce.wp_sound_spared (program_spec call) spares

end MarketX.Commerce
