/-
Module: MarketX.Commerce.Runs
Purpose: What one event on the shop side does to one order row, and that the
  keys by which payments and shipments name their orders stay valid.
Trusted boundary: none
Main exports: Rewritten, Booked.order_row, Related, related_trade
-/
import MarketX.Commerce.Books

namespace MarketX.Commerce

open Effects

section

variable (foldAddress : String → String)

/-- How a call rewrites the order stored under `id`. -/
inductive Rewritten (world : World) (id : Id) :
    CommerceCall → Order → Order → Prop where
  | cancelled {userId : Id} {order : Order} (owner : order.buyerId = userId)
      (active : order.status ≠ .cancelled) :
      Rewritten world id (.cancelOrder id userId) order
        (OrdersService.cancelledOrder order world.now)
  | moved {dto : UpdateOrderStatusDto} {order : Order} (allowed : dto.status ∈
        orderTransitionValidator.validTransitions order.status) :
      Rewritten world id (.updateStatus id dto) order (movedOrder order dto.status world.now)
  | paid {paymentId : Id} {data : TransactionData} {payment : Payment} {order : Order}
      (found : world.db.payments.row paymentId = some payment)
      (pending : payment.status = .pending) (about : payment.orderId = id)
      (unheld : order.status ≠ .manualReview) (valid :
        PaymentsService.checkTransaction payment data world.now = none) :
      Rewritten world id (.verifyAndConfirmPayment paymentId data) order
        (PaymentsService.paidOrder order world.now)
  | shipped {dto : CreateShipmentDto} {order : Order}
      (about : dto.orderId = id) (paid : order.status = .paid) :
      Rewritten world id (.createShipment dto) order
        (ShippingService.shippedOrder order dto.trackingNumber world.now)
  | delivered {shipmentId : Id} {dto : UpdateShipmentStatusDto}
      {shipment : Shipment} {order : Order}
      (found : world.db.shipments.row shipmentId = some shipment) (about : shipment.orderId = id)
      (allowed :
        ShippingService.isValidStateTransition shipment.status dto.status = true)
      (arrived : dto.status = .delivered) :
      Rewritten world id (.updateShipmentStatus shipmentId dto) order
        (ShippingService.deliveredOrder order world.now)
  | held {input : FraudInput} {order : Order} (about : input.orderId = some id)
      (unheld : order.status ≠ .manualReview) (high : highRisk foldAddress world input = true) :
      Rewritten world id (.analyzeRequest input) order (FraudService.heldOrder order)

variable {foldAddress}

@[simp] theorem movedOrder_id (order : Order) (status : OrderStatus)
    (now : Date) : (movedOrder order status now).id = order.id := by
  cases status <;> rfl

@[simp] theorem movedOrder_status (order : Order) (status : OrderStatus)
    (now : Date) : (movedOrder order status now).status = status := by
  cases status <;> rfl

variable {world after : World} {id key : Id} {call : CommerceCall} {order later : Order}
  {spared : Spared} {returns : Bool}

theorem Rewritten.id_eq (rewritten : Rewritten foldAddress world id call order later) :
    later.id = order.id := by
  cases rewritten with
  | moved => exact movedOrder_id _ _ _
  | cancelled | paid | shipped | delivered | held => rfl

/-- An order row after a call: as before, new, or rewritten. -/
def OrderRow (foldAddress : String → String) (world : World)
    (call : CommerceCall) (after : World) (id : Id) : Prop :=
  after.db.orders.row id = world.db.orders.row id ∨ (world.db.orders.row id = none ∧
      ∃ order, after.db.orders.row id = some order ∧
        order.status = .pending ∧ order.paymentStatus = .unpaid) ∨
      ∃ order later, world.db.orders.row id = some order ∧ after.db.orders.row id = some later ∧
          Rewritten foldAddress world id call order later

theorem OrderRow.of_save (found : world.db.orders.row key = some order)
    (rewritten : Rewritten foldAddress world key call order later)
    (orders : after.db.orders = world.db.orders.save later) (id : Id) :
    OrderRow foldAddress world call after id := by
  have keyed : Keyed.key later = key := rewritten.id_eq.trans (world.db.orders.keyed found)
  grind [OrderRow, Table.row_save]

theorem Booked.order_row (booked : Booked foldAddress spared world call returns after) (id : Id) :
    OrderRow foldAddress world call after id := by
  cases booked with
  | kept books => exact .inl (by rw [books.orders])
  | initiated _ _ _ _ _ books | refused _ _ books
  | halfConfirmed _ _ _ _ books | timedOut _ _ books
  | labelled _ _ _ _ books | forwarded _ books => exact .inl (by rw [books.orders]; rfl)
  | created fresh pending unpaid stocked =>
    rename_i dto order
    have orders : after.db.orders = world.db.orders.save order := stocked.books.orders
    have keyed : Keyed.key order = world.db.orders.next := fresh
    unfold OrderRow
    rw [orders, Table.row_save, keyed]
    split
    next same => simp_all
    next => exact .inl rfl
  | cancelled found owner active stocked =>
    exact .of_save found (.cancelled owner active) stocked.books.orders id
  | moved found allowed _ books => exact .of_save found (.moved allowed) books.orders id
  | confirmed found pending ordered unheld valid books =>
    exact .of_save ordered (.paid found pending rfl unheld valid) books.orders id
  | shipped found paid _ _ books => exact .of_save found (.shipped rfl paid) books.orders id
  | delivered found ordered allowed arrived books =>
    exact .of_save ordered (.delivered found rfl allowed arrived) books.orders id
  | held about found unheld high books =>
    exact .of_save found (.held about unheld high) books.orders id

theorem Booked.stored (booked : Booked foldAddress spared world call returns after)
    (found : world.db.orders.row id = some order) :
    ∃ later, after.db.orders.row id = some later ∧
      (later = order ∨ Rewritten foldAddress world id call order later) := by
  rcases booked.order_row id with same | ⟨missing, _⟩ |
    ⟨earlier, later, foundEarlier, stored, rewritten⟩
  · exact ⟨order, same.trans found, .inl rfl⟩
  · cases missing.symm.trans found
  · simp_all

/-! ### Payments and shipments -/

/-- A payment row after a call: as before, new and pending, or a pending one
that is settled, and then CONFIRMED only by the call that verifies it. -/
def PaymentRow (world : World) (call : CommerceCall) (after : World) (id : Id) : Prop :=
  after.db.payments.row id = world.db.payments.row id ∨ (world.db.payments.row id = none ∧
      ∃ payment order, after.db.payments.row id = some payment ∧ payment.status = .pending ∧
          world.db.orders.row payment.orderId = some order) ∨
      ∃ payment later, world.db.payments.row id = some payment ∧
        payment.status = .pending ∧ after.db.payments.row id = some later ∧
          later.orderId = payment.orderId ∧ (later.status = .confirmed →
              ∃ data, call = .verifyAndConfirmPayment id data)

theorem PaymentRow.of_save {payment later : Payment}
    (found : world.db.payments.row key = some payment)
    (pending : payment.status = .pending)
    (payments : after.db.payments = world.db.payments.save later) (sameId : later.id = payment.id)
    (sameOrder : later.orderId = payment.orderId) (confirming : later.status = .confirmed →
      ∃ data, call = .verifyAndConfirmPayment key data) (id : Id) :
    PaymentRow world call after id := by
  have keyed : Keyed.key later = key := sameId.trans (world.db.payments.keyed found)
  grind [PaymentRow, Table.row_save]

theorem Booked.payment_row (booked : Booked foldAddress spared world call returns after) (id : Id) :
    PaymentRow world call after id := by
  cases booked with
  | kept books => exact .inl (by rw [books.payments])
  | created _ _ _ stocked | cancelled _ _ _ stocked =>
    exact .inl (by rw [stocked.books.payments]; rfl)
  | moved _ _ _ books | labelled _ _ _ _ books | shipped _ _ _ _ books
  | forwarded _ books | delivered _ _ _ _ books | held _ _ _ _ books =>
    exact .inl (by rw [books.payments]; rfl)
  | initiated found isPending fresh about pending books =>
    rename_i dto order payment
    have payments : after.db.payments = world.db.payments.save payment := books.payments
    have keyed : Keyed.key payment = world.db.payments.next := fresh
    unfold PaymentRow
    rw [payments, Table.row_save, keyed]
    split
    next same => simp_all
    next => exact .inl rfl
  | refused found pending books | timedOut found pending books =>
    exact .of_save found pending books.payments rfl rfl nofun id
  | halfConfirmed found pending valid exposed books =>
    exact .of_save found pending books.payments rfl rfl (fun _ => ⟨_, rfl⟩) id
  | confirmed found pending ordered unheld valid books =>
    exact .of_save found pending books.payments rfl rfl (fun _ => ⟨_, rfl⟩) id

/-- A shipment row after a call: one that was there, or a new one of a PAID
order. -/
theorem Booked.shipment_row
    (booked : Booked foldAddress spared world call returns after) {shipment : Shipment}
    (stored : after.db.shipments.row id = some shipment) :
    (∃ earlier, world.db.shipments.row id = some earlier ∧ earlier.orderId = shipment.orderId) ∨
        ∃ order, world.db.orders.row shipment.orderId = some order ∧ order.status = .paid := by
  have unchanged : after.db.shipments = world.db.shipments →
      ∃ earlier, world.db.shipments.row id = some earlier ∧
        earlier.orderId = shipment.orderId := by grind
  have saved : ∀ {key : Id} {earlier later : Shipment}, world.db.shipments.row key = some earlier →
        after.db.shipments = world.db.shipments.save later →
          later.id = earlier.id → later.orderId = earlier.orderId →
            ∃ earlier, world.db.shipments.row id = some earlier ∧
              earlier.orderId = shipment.orderId := by
    intro key earlier later found shipments sameId sameOrder
    have keyed : Keyed.key later = key := sameId.trans (world.db.shipments.keyed found)
    grind [Table.row_save]
  have inserted : ∀ {new : Shipment} {order : Order},
      world.db.orders.row new.orderId = some order → order.status = .paid →
        after.db.shipments = world.db.shipments.save new →
          (∃ earlier, world.db.shipments.row id = some earlier ∧
            earlier.orderId = shipment.orderId) ∨
              ∃ order, world.db.orders.row shipment.orderId = some order ∧
                order.status = .paid := by grind [Table.row_save]
  cases booked with
  | kept books => exact .inl (unchanged books.shipments)
  | created _ _ _ stocked | cancelled _ _ _ stocked =>
    exact .inl (unchanged stocked.books.shipments)
  | moved _ _ _ books | initiated _ _ _ _ _ books | refused _ _ books
  | halfConfirmed _ _ _ _ books | confirmed _ _ _ _ _ books
  | timedOut _ _ books | held _ _ _ _ books => exact .inl (unchanged books.shipments)
  | labelled found paid fresh about books
  | shipped found paid fresh about books =>
    rw [← about] at found
    exact inserted found paid books.shipments
  | forwarded found books | delivered found _ _ _ books =>
    exact .inl (saved found books.shipments rfl rfl)

/-- The foreign keys of the two tables (`@ManyToOne(() => Order, { onDelete:
'CASCADE' })`): payments and shipments name stored orders. -/
structure Related (world : World) : Prop where
  payments : ∀ id payment, world.db.payments.row id = some payment →
    ∃ order, world.db.orders.row payment.orderId = some order
  shipments : ∀ id shipment, world.db.shipments.row id = some shipment →
    ∃ order, world.db.orders.row shipment.orderId = some order

theorem related_trade (world : World) (event : Event)
    (related : Related world) : Related (trade foldAddress world event) := by
  cases event with
  | elsewhere now catalogue geoDistance wallets => exact ⟨related.payments, related.shipments⟩
  | call call faults =>
    have booked := booked_call foldAddress world call faults
    have kept : ∀ {id : Id} {order : Order}, world.db.orders.row id = some order →
          ∃ later, (trade foldAddress world (.call call faults)).db.orders.row id = some later := by
      intro id order found
      obtain ⟨later, stored, _⟩ := booked.stored found
      exact ⟨later, stored⟩
    constructor
    · intro id payment stored
      rcases booked.payment_row id with same | ⟨_, new, order, storedNew, _, found⟩ |
        ⟨earlier, later, found, _, storedLater, sameOrder, _⟩
      · obtain ⟨order, found⟩ := related.payments id payment (same.symm.trans stored)
        exact kept found
      · simp_all
      · cases storedLater.symm.trans stored
        rw [sameOrder]
        obtain ⟨order, ordered⟩ := related.payments id earlier found
        exact kept ordered
    · intro id shipment stored
      rcases booked.shipment_row stored with ⟨earlier, found, sameOrder⟩ | ⟨order, found, _⟩
      · rw [← sameOrder]
        obtain ⟨order, ordered⟩ := related.shipments id earlier found
        exact kept ordered
      · exact kept found

end

/-! ### A small shop -/

/-- One product, with a listing under the same id, and the wallet of user 7:
where the concrete runs start. -/
def openShop : World where
  db :=
    { Database.empty with
      products := .save .empty
        { id := 0, title := "lamp", quantity := 10, available := 10 }
      listings := .save .empty
        { id := 0, title := "lamp", price := 100, quantity := 10
          available := 10 }
      wallets := .save .empty { id := 0, publicKey := 70, userId := 7 } }
  catalogue id :=
    if id = 0 then some { name := "lamp", price := 100, currency := .USD }
    else none
  geoDistance _ _ := none
  counters _ := none
  events := []
  now := 0

theorem openShop_related : Related openShop where
  payments _ _ stored := by cases stored
  shipments _ _ stored := by cases stored

/-! ### Quantities of sample orders -/

theorem single_positive : (1 : ℤ) ≤ 1 := by decide

theorem pair_positive : (1 : ℤ) ≤ 2 := by decide

theorem six_positive : (1 : ℤ) ≤ 6 := by decide

/-- User 7 orders two lamps. -/
def twoLamps : CreateOrderDto where
  items := [{ productId := 0, quantity := 2, quantity_pos := pair_positive }]
  buyerId := 7

/-- The transfer that pays for them. -/
def lampTransfer : TransactionData where
  id := some "transfer"
  «to» := some 70
  sourceAccount := some 71
  amount := some 200
  assetCode := none
  createdAt := none
  confirmations := none

end MarketX.Commerce
