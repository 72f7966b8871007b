/-
Module: MarketX.Proofs.PaidOrders
Purpose: What an order and a payment say of each other in every reachable
  state, and what becomes of a transaction that is presented more than once.
Trusted boundary: none
Main exports: paid_orders_recorded, confirmations_match_orders, transactions_pay_once
-/
import MarketX.Commerce.Runs

namespace MarketX.Commerce

open Effects

/-- The money has arrived, and when is known. -/
structure Settled (order : Order) : Prop where
  paymentStatus : order.paymentStatus = .paid
  confirmedAt : order.confirmedAt.isSome = true

/-- What the status of an order says about its other columns. -/
structure Recorded (order : Order) : Prop where
  settled : order.status ∈ [.paid, .shipped, .delivered, .completed, .refunded] → Settled order
  deliveredAt : order.status ∈ [.delivered, .completed, .refunded] → order.deliveredAt.isSome = true
  shippedAt : order.status = .shipped → order.shippedAt.isSome = true

/-- Every order is recorded; and since a delivery revives even a cancelled
order, every shipment belongs to an order that was paid. -/
structure Accounted (world : World) : Prop where
  orders : ∀ id order, world.db.orders.row id = some order → Recorded order
  shipments : ∀ id shipment, world.db.shipments.row id = some shipment →
    ∃ order, world.db.orders.row shipment.orderId = some order ∧ Settled order

theorem recorded_of_open {order : Order} (isOpen : order.status ∈
      [.pending, .confirmed, .processing, .cancelled, .manualReview]) :
    Recorded order := by
  constructor <;> intro status <;> cases found : order.status <;> simp [found] at isOpen status

section

variable {foldAddress : String → String} {world : World} {id : Id}
  {call : CommerceCall} {order later : Order}

theorem Rewritten.settled (rewritten : Rewritten foldAddress world id call order later)
    (settled : Settled order) : Settled later := by
  obtain ⟨paymentStatus, confirmedAt⟩ := settled
  cases rewritten with
  | moved =>
    rename_i dto _
    cases status : dto.status <;> exact ⟨by simp [movedOrder, paymentStatus],
        by simp [movedOrder, confirmedAt]⟩
  | paid => exact ⟨rfl, rfl⟩
  | cancelled | shipped | delivered | held => exact ⟨paymentStatus, confirmedAt⟩

theorem paid_before {before status : OrderStatus}
    (allowed : status ∈ orderTransitionValidator.validTransitions before)
    (later : status ∈ [.shipped, .delivered, .completed, .refunded]) :
    before ∈ [.paid, .shipped, .delivered, .completed, .refunded] := by
  revert allowed later
  cases before <;> cases status <;> decide

theorem delivered_before {before status : OrderStatus}
    (allowed : status ∈ orderTransitionValidator.validTransitions before)
    (later : status ∈ [.completed, .refunded]) :
    before ∈ [.delivered, .completed, .refunded] := by
  revert allowed later
  cases before <;> cases status <;> decide

theorem recorded_moved (recorded : Recorded order) (status : OrderStatus) (now : Date)
    (allowed : status ∈ orderTransitionValidator.validTransitions order.status) :
    Recorded (movedOrder order status now) := by
  cases status with
  | pending | confirmed | processing | cancelled | manualReview => exact recorded_of_open (by simp)
  | paid => exact ⟨fun _ => ⟨rfl, rfl⟩, by simp, by simp⟩
  | shipped =>
    have settled := recorded.settled (paid_before allowed (by decide))
    exact ⟨fun _ => ⟨settled.paymentStatus, settled.confirmedAt⟩, by simp, fun _ => rfl⟩
  | delivered =>
    have settled := recorded.settled (paid_before allowed (by decide))
    exact ⟨fun _ => ⟨settled.paymentStatus, settled.confirmedAt⟩, fun _ => rfl, by simp⟩
  | completed | refunded =>
    have settled := recorded.settled (paid_before allowed (by decide))
    have deliveredAt := recorded.deliveredAt (delivered_before allowed (by decide))
    exact ⟨fun _ => ⟨settled.paymentStatus, settled.confirmedAt⟩, fun _ => deliveredAt, by simp⟩

theorem Rewritten.recorded (accounted : Accounted world)
    (rewritten : Rewritten foldAddress world id call order later)
    (stored : world.db.orders.row id = some order) : Recorded later := by
  have recorded := accounted.orders id order stored
  cases rewritten with
  | cancelled => exact recorded_of_open (by simp [OrdersService.cancelledOrder])
  | moved allowed => exact recorded_moved recorded _ _ allowed
  | paid =>
    constructor
    · exact fun _ => ⟨rfl, rfl⟩
    · simp [PaymentsService.paidOrder]
    · simp [PaymentsService.paidOrder]
  | shipped about paid =>
    obtain ⟨paymentStatus, confirmedAt⟩ := recorded.settled (by simp [paid])
    constructor
    · exact fun _ => ⟨paymentStatus, confirmedAt⟩
    · simp [ShippingService.shippedOrder]
    · exact fun _ => rfl
  | delivered found about allowed arrived =>
    obtain ⟨shippedOrder, ordered, settled⟩ := accounted.shipments _ _ found
    rw [about, stored] at ordered
    cases ordered
    constructor
    · exact fun _ => ⟨settled.paymentStatus, settled.confirmedAt⟩
    · exact fun _ => rfl
    · simp [ShippingService.deliveredOrder]
  | held => exact recorded_of_open (by simp [FraudService.heldOrder])

theorem accounted_trade (world : World) (event : Event) (accounted : Accounted world) :
    Accounted (trade foldAddress world event) := by
  cases event with
  | elsewhere now catalogue geoDistance wallets => exact ⟨accounted.orders, accounted.shipments⟩
  | call call faults =>
    have booked := booked_call foldAddress world call faults
    constructor
    · intro id order stored
      rcases booked.order_row id with same | ⟨_, created, storedNew, pending, _⟩ |
        ⟨earlier, later, found, storedLater, rewritten⟩
      · exact accounted.orders id order (same.symm.trans stored)
      · simp_all [recorded_of_open]
      · cases storedLater.symm.trans stored
        exact rewritten.recorded accounted found
    · intro id shipment stored
      have kept : ∀ {order : Order}, world.db.orders.row shipment.orderId = some order →
            Settled order → ∃ later, (trade foldAddress world
                (.call call faults)).db.orders.row shipment.orderId =
                  some later ∧ Settled later := by
        intro order found settled
        obtain ⟨later, storedLater, rfl | rewritten⟩ := booked.stored found
        · exact ⟨later, storedLater, settled⟩
        · exact ⟨later, storedLater, rewritten.settled settled⟩
      rcases booked.shipment_row stored with ⟨earlier, found, sameOrder⟩ | ⟨order, found, paid⟩
      · obtain ⟨order, ordered, settled⟩ := accounted.shipments id earlier found
        rw [sameOrder] at ordered
        exact kept ordered settled
      · exact kept found ((accounted.orders _ order found).settled (by simp [paid]))

/-- From a database without orders, in every run with every failure: a PAID,
SHIPPED, DELIVERED, COMPLETED or REFUNDED order is paid and has the date, and
so have a delivered and a shipped one theirs. -/
theorem paid_orders_recorded {start : World} (noOrders : ∀ id, start.db.orders.row id = none)
    (related : Related start) (events : List Event) :
    ∀ id order, (run (trade foldAddress) start events).db.orders.row id = some order →
        Recorded order := by
  have initially : Accounted start := by
    constructor
    · intro id order stored
      cases (noOrders id).symm.trans stored
    · intro id shipment stored
      obtain ⟨order, ordered⟩ := related.shipments id shipment stored
      cases (noOrders _).symm.trans ordered
  exact (run_preserves accounted_trade initially events).orders

end

/-- A paid order that is shipped, cancelled on its way, and delivered. -/
def revivedLamps : List Event := [ .call (.create twoLamps) [],
    .call (.initiatePayment { orderId := 0, currency := .USD }) [],
    .call (.verifyAndConfirmPayment 0 lampTransfer) [], .call (.createShipment
      { orderId := 0, carrier := .dhl, trackingNumber := "JD"
        shippingAddress :=
          { street := "Main St", city := "Town", state := "", country := ""
            postalCode := "" } }) [],
    .call (.cancelOrder 0 7) [], .call (.updateShipmentStatus 0 { status := .pickedUp }) [],
    .call (.updateShipmentStatus 0 { status := .inTransit }) [],
    .call (.updateShipmentStatus 0 { status := .outForDelivery }) [],
    .call (.updateShipmentStatus 0 { status := .delivered }) [] ]

theorem revived_lamps_recorded :
    ∃ order, (run (trade id) openShop revivedLamps).db.orders.row 0 = some order ∧
        order.status = .delivered ∧ Recorded order := by
  have status :
      ((run (trade id) openShop revivedLamps).db.orders.row 0).map
        Order.status = some .delivered := by decide +kernel
  obtain ⟨order, stored, delivered⟩ := Option.map_eq_some_iff.mp status
  exact ⟨order, stored, delivered,
    paid_orders_recorded (fun _ => rfl) openShop_related revivedLamps 0 order stored⟩

/-! ### The property -/

def Confirmed (paymentId : Id) (world : World) : Prop :=
  ∃ payment, world.db.payments.row paymentId = some payment ∧ payment.status = .confirmed

section

variable (foldAddress : String → String)

/-- The step verifies this payment, and moves its order to PAID. -/
def MovesToPaid (paymentId : Id) (world : World) (event : Event) : Prop :=
  ∃ data faults payment order later,
    event = .call (.verifyAndConfirmPayment paymentId data) faults ∧
    world.db.payments.row paymentId = some payment ∧
    world.db.orders.row payment.orderId = some order ∧ order.status ≠ .paid ∧
    (trade foldAddress world event).db.orders.row payment.orderId = some later ∧
    later.status = .paid

/-- A verification that throws changes no payment and no order, and none
changes a cancelled order. -/
def Clean (world : World) (event : Event) : Prop :=
  match event with
  | .call call@(.verifyAndConfirmPayment _ _) faults =>
    ((commerce.exec (call.program foldAddress) faults world).1.isOk = false →
      (trade foldAddress world event).db.payments = world.db.payments ∧
        (trade foldAddress world event).db.orders = world.db.orders) ∧
    ∀ id order, world.db.orders.row id = some order → order.status = .cancelled →
        (trade foldAddress world event).db.orders.row id = some order
  | _ => True

/-! ### The condition -/

/-- The save of the order that a confirmation has paid. -/
def savingPaid : Spared
  | .saveOrder order => order.status = .paid
  | _ => false

/-- A payment that passes its checks is confirmed while its order is neither
cancelled nor paid for already, and the save of the order does not throw. -/
def Confirmable (world : World) : Event → Prop
  | .call call@(.verifyAndConfirmPayment paymentId data) faults =>
    ∀ payment ∈ world.db.payments.row paymentId, payment.status = .pending →
        PaymentsService.checkTransaction payment data world.now = none →
          ∀ order ∈ world.db.orders.row payment.orderId, order.status ≠ .manualReview →
              order.status ≠ .cancelled ∧ order.status ≠ .paid ∧
                commerce.Spares savingPaid (call.program foldAddress) faults world
  | _ => True

instance (world : World) :
    ∀ event, Decidable (Confirmable foldAddress world event)
  | .call (.verifyAndConfirmPayment _ _) _ =>
    inferInstanceAs (Decidable (∀ payment ∈ _, _ → _ → ∀ order ∈ _, _ → _ ∧ _ ∧ _))
  | .call (.create _) _ | .call (.cancelOrder _ _) _
  | .call (.updateStatus _ _) _ | .call (.initiatePayment _) _
  | .call (.handlePaymentTimeout _) _ | .call (.createShipment _) _
  | .call (.updateShipmentStatus _ _) _ | .call (.analyzeRequest _) _
  | .elsewhere _ _ _ _ => inferInstanceAs (Decidable True)

/-! ### One verification -/

variable {foldAddress}

/-- What a verification does when the condition is met: nothing, or it
refuses the payment, or it writes both rows. -/
inductive Verified (world : World) (paymentId : Id) :
    Bool → World → Prop where
  | untouched {returns : Bool} {after : World} (payments : after.db.payments = world.db.payments)
      (orders : after.db.orders = world.db.orders) :
      Verified world paymentId returns after
  | refused {payment : Payment} {message : String} {after : World}
      (found : world.db.payments.row paymentId = some payment) (pending : payment.status = .pending)
      (payments : after.db.payments = world.db.payments.save
        (PaymentsService.failedPayment payment message world.now))
      (orders : after.db.orders = world.db.orders) :
      Verified world paymentId true after
  | confirmed {payment : Payment} {data : TransactionData} {order : Order} {after : World}
      (found : world.db.payments.row paymentId = some payment)
      (ordered : world.db.orders.row payment.orderId = some order)
      (active : order.status ≠ .cancelled) (unpaid : order.status ≠ .paid)
      (payments : after.db.payments = world.db.payments.save
        (PaymentsService.confirmedPayment payment data world.now))
      (orders : after.db.orders = world.db.orders.save
        (PaymentsService.paidOrder order world.now)) :
      Verified world paymentId true after

variable {world after : World} {paymentId : Id} {data : TransactionData} {faults : List Fault}

theorem verified_of_booked {spared : Spared} {returns : Bool} (related : Related world)
    (booked : Booked foldAddress spared world
      (.verifyAndConfirmPayment paymentId data) returns after)
    (safe : ∀ payment, world.db.payments.row paymentId = some payment → payment.status = .pending →
        PaymentsService.checkTransaction payment data world.now = none →
          ∀ order, world.db.orders.row payment.orderId = some order → order.status ≠ .manualReview →
              order.status ≠ .cancelled ∧ order.status ≠ .paid ∧ spared (.saveOrder
                  (PaymentsService.paidOrder order world.now)) = true) :
    Verified world paymentId returns after := by
  cases booked with
  | kept books => exact .untouched books.payments books.orders
  | refused found pending books => exact .refused found pending books.payments books.orders
  | halfConfirmed found pending valid exposed books =>
    obtain ⟨order, ordered⟩ := related.payments _ _ found
    simp_all
  | confirmed found pending ordered unheld valid books =>
    obtain ⟨active, unpaid, _⟩ := safe _ found pending valid _ ordered unheld
    exact .confirmed found ordered active unpaid books.payments books.orders

theorem verified_call (related : Related world) (confirmable : Confirmable foldAddress world
      (.call (.verifyAndConfirmPayment paymentId data) faults)) :
    Verified world paymentId (commerce.exec (CommerceCall.program foldAddress
          (.verifyAndConfirmPayment paymentId data)) faults world).1.isOk (trade foldAddress world
        (.call (.verifyAndConfirmPayment paymentId data) faults)) := by
  by_cases spares : commerce.Spares savingPaid (CommerceCall.program foldAddress
        (.verifyAndConfirmPayment paymentId data)) faults world
  · apply verified_of_booked related (booked_sparing spares)
    intro payment found pending valid order ordered unheld
    obtain ⟨active, unpaid, _⟩ := confirmable payment found pending valid order ordered unheld
    exact ⟨active, unpaid, rfl⟩
  · apply verified_of_booked related (booked_call foldAddress world _ faults)
    intro payment found pending valid order ordered unheld
    obtain ⟨_, _, sparing⟩ := confirmable payment found pending valid order ordered unheld
    exact absurd sparing spares

theorem confirmed_save {key : Id} {payment later : Payment}
    (found : world.db.payments.row key = some payment)
    (payments : after.db.payments = world.db.payments.save later)
    (sameId : later.id = payment.id) (id : Id) :
    Confirmed id after ↔ if id = key then later.status = .confirmed else Confirmed id world := by
  have keyed : Keyed.key later = key := sameId.trans (world.db.payments.keyed found)
  grind [Confirmed, Table.row_save]

theorem not_moves_of_same_orders {event : Event}
    (orders : (trade foldAddress world event).db.orders = world.db.orders)
    (id : Id) : ¬ MovesToPaid foldAddress id world event := by
  rintro ⟨_, _, payment, order, later, _, _, ordered, unpaid, stored, paid⟩
  rw [orders, ordered] at stored
  cases stored
  exact unpaid paid

theorem confirmed_verify (related : Related world) (confirmable : Confirmable foldAddress world
      (.call (.verifyAndConfirmPayment paymentId data) faults)) (id : Id) :
    Confirmed id (trade foldAddress world
        (.call (.verifyAndConfirmPayment paymentId data) faults)) ↔
      Confirmed id world ∨ MovesToPaid foldAddress id world
        (.call (.verifyAndConfirmPayment paymentId data) faults) := by
  have verified := verified_call related confirmable
  generalize (commerce.exec _ faults world).1.isOk = returns at verified
  cases verified with
  | untouched payments orders =>
    have unmoved := not_moves_of_same_orders orders id
    simp_all [Confirmed]
  | refused found pending payments orders =>
    have unmoved := not_moves_of_same_orders orders id
    simp only [unmoved, or_false]
    rw [confirmed_save found payments rfl]
    split
    next same => simp_all [PaymentsService.failedPayment, Confirmed]
    next => exact Iff.rfl
  | confirmed found ordered active unpaid payments orders =>
    rename_i payment _ order
    rw [confirmed_save found payments rfl]
    split
    next same =>
      subst same
      have keyed := world.db.orders.keyed ordered
      have stored : (trade foldAddress world
          (.call (.verifyAndConfirmPayment id data) faults)).db.orders.row payment.orderId =
              some (PaymentsService.paidOrder order world.now) := by
        rw [orders, ← keyed]
        exact Table.row_save_self _ _
      refine iff_of_true rfl (.inr ?_)
      exact ⟨_, faults, payment, order, _, rfl, found, ordered, unpaid, stored, rfl⟩
    next other =>
      refine ⟨.inl, ?_⟩
      rintro (before | ⟨_, _, _, _, _, sameCall, _⟩)
      · exact before
      · cases sameCall
        exact absurd rfl other

theorem confirmed_trade (world : World) (event : Event) (related : Related world)
    (confirmable : Confirmable foldAddress world event) (id : Id) :
    Confirmed id (trade foldAddress world event) ↔
      Confirmed id world ∨ MovesToPaid foldAddress id world event := by
  cases event with
  | elsewhere now catalogue geoDistance wallets =>
    have unmoved : ¬ MovesToPaid foldAddress id world
        (.elsewhere now catalogue geoDistance wallets) := not_moves_of_same_orders rfl id
    simp only [unmoved, or_false]
    exact Iff.rfl
  | call call faults =>
    by_cases verifying :
        ∃ paymentId data, call = .verifyAndConfirmPayment paymentId data
    · grind [confirmed_verify]
    · have unmoved :
          ¬ MovesToPaid foldAddress id world (.call call faults) := by
        rintro ⟨data, _, _, _, _, sameCall, _⟩
        cases sameCall
        exact verifying ⟨id, data, rfl⟩
      simp only [unmoved, or_false]
      unfold Confirmed
      rcases (booked_call foldAddress world call faults).payment_row id with same |
        ⟨missing, created, _, stored, pending, _⟩ |
        ⟨payment, later, found, pending, stored, _, confirming⟩
      · rw [same]
      · simp [missing, stored, pending]
      · simp_all

theorem clean_trade (world : World) (event : Event) (related : Related world)
    (confirmable : Confirmable foldAddress world event) :
    Clean foldAddress world event := by
  cases event with
  | elsewhere => trivial
  | call call faults =>
    cases call with
    | verifyAndConfirmPayment paymentId data =>
      have verified := verified_call related confirmable
      constructor
      · intro throws
        rw [throws] at verified
        cases verified
        simp_all
      · intro id order stored cancelled
        generalize (commerce.exec _ faults world).1.isOk = returns at verified
        cases verified with
        | untouched _ orders | refused _ _ _ orders =>
          rw [orders]
          exact stored
        | confirmed _ ordered active _ _ orders =>
          rw [orders, Table.row_save_of_ne]
          · exact stored
          · intro same
            have keyed := world.db.orders.keyed ordered
            have key := same.trans keyed
            simp_all
    | _ => trivial

/-! ### A whole run -/

/-- From a database without orders, in every run whose steps meet the
condition: a payment is CONFIRMED iff its verification has moved its order to
PAID, a verification that throws changes nothing, and none changes a
cancelled order. -/
theorem confirmations_match_orders {start : World} (noOrders : ∀ id, start.db.orders.row id = none)
    (related : Related start) {events : List Event}
    (confirmable : Along (trade foldAddress) (Confirmable foldAddress) start events) :
    (∀ id, Confirmed id (run (trade foldAddress) start events) ↔
      ∃ front event back, events = front ++ event :: back ∧
        MovesToPaid foldAddress id (run (trade foldAddress) start front) event) ∧
      Along (trade foldAddress) (Clean foldAddress) start events := by
  have preserved : ∀ world event, Related world → Confirmable foldAddress world event →
        Related (trade foldAddress world event) :=
    fun world event related _ => related_trade world event related
  constructor
  · intro id
    have unconfirmed : ¬ Confirmed id start := by
      rintro ⟨payment, stored, _⟩
      obtain ⟨order, ordered⟩ := related.payments id payment stored
      cases (noOrders _).symm.trans ordered
    rw [run_holds_iff preserved (fun world event related confirmable =>
        confirmed_trade world event related confirmable id)
      related confirmable]
    simp only [unconfirmed, false_or]
  · exact along_of_invariant preserved clean_trade related confirmable

end

/-- An order with a payment that is waiting. -/
def pendingLamps : List Event := [ .call (.create twoLamps) [],
    .call (.initiatePayment { orderId := 0, currency := .USD }) [] ]

/-- The save of the payment fails at the first attempt. -/
def confirmedLamps : List Event := pendingLamps ++ [ .call (.verifyAndConfirmPayment 0 lampTransfer)
        [none, none, none, some (.error "timeout")],
      .call (.verifyAndConfirmPayment 0 lampTransfer) [] ]

theorem confirmed_lamps_agree :
    ∃ front event back, confirmedLamps = front ++ event :: back ∧
      MovesToPaid id 0 (run (trade id) openShop front) event := by
  have status :
      ((run (trade id) openShop confirmedLamps).db.payments.row 0).map
        Payment.status = some .confirmed := by decide +kernel
  obtain ⟨payment, stored, confirmed⟩ := Option.map_eq_some_iff.mp status
  exact ((confirmations_match_orders (fun _ => rfl) openShop_related
    (by decide +kernel)).1 0).mp ⟨payment, stored, confirmed⟩

/-- The save of the order fails. -/
def lostConfirmation : Event := .call (.verifyAndConfirmPayment 0 lampTransfer)
    [none, none, none, none, none, some (.error "timeout")]

/-- The call throws, and leaves the payment CONFIRMED. -/
theorem lost_confirmation_is_kept :
    ¬ Along (trade id) (Clean id) openShop (pendingLamps ++ [lostConfirmation]) := by
  rw [Along.append_iff]
  rintro ⟨-, ⟨unchanged, -⟩, -⟩
  have throws : (commerce.exec (CommerceCall.program id (.verifyAndConfirmPayment 0 lampTransfer))
      [none, none, none, none, none, some (.error "timeout")]
      (run (trade id) openShop pendingLamps)).1.isOk = false := by decide +kernel
  have before :
      ((run (trade id) openShop pendingLamps).db.payments.row 0).map
        Payment.status = some .pending := by decide +kernel
  have after :
      ((trade id (run (trade id) openShop pendingLamps)
        lostConfirmation).db.payments.row 0).map Payment.status =
          some .confirmed := by decide +kernel
  have payments : (trade id (run (trade id) openShop pendingLamps) lostConfirmation).db.payments =
        (run (trade id) openShop pendingLamps).db.payments :=
    (unchanged throws).1
  rw [payments, before] at after
  cases after

/-! ### The property -/

def PaidBy (world : World) (transactionId : String) (id : Id) : Prop :=
  ∃ payment, world.db.payments.row id = some payment ∧ payment.status = .confirmed ∧
    payment.stellarTransactionId = some transactionId

/-- No transaction has confirmed two payments. -/
def PaidOnce (world : World) : Prop :=
  ∀ transactionId first second, PaidBy world transactionId first →
    PaidBy world transactionId second → first = second

/-- A payment that passes its checks is confirmed by a transaction that has
confirmed no payment yet. -/
def NotReused (world : World) : Event → Prop
  | .call (.verifyAndConfirmPayment paymentId data) _ =>
    ∀ payment ∈ world.db.payments.row paymentId, payment.status = .pending →
        PaymentsService.checkTransaction payment data world.now = none →
          ∀ transactionId ∈ data.id, ∀ other ∈ world.db.payments.rows, other.status = .confirmed →
              other.stellarTransactionId ≠ some transactionId
  | _ => True

instance (world : World) : ∀ event, Decidable (NotReused world event)
  | .call (.verifyAndConfirmPayment _ _) _ =>
    inferInstanceAs (Decidable (∀ payment ∈ _, _ → _ → ∀ transactionId ∈ _, ∀ other ∈ _, _))
  | .call (.create _) _ | .call (.cancelOrder _ _) _
  | .call (.updateStatus _ _) _ | .call (.initiatePayment _) _
  | .call (.handlePaymentTimeout _) _ | .call (.createShipment _) _
  | .call (.updateShipmentStatus _ _) _ | .call (.analyzeRequest _) _
  | .elsewhere _ _ _ _ => inferInstanceAs (Decidable True)

/-! ### What a transaction fits -/

/-- The transaction went to the payment's wallet, with its amount and in its
currency, as far as the checks tell. -/
structure Fits (payment : Payment) (data : TransactionData) : Prop where
  destination : data.to = some payment.destinationWalletAddress
  amount : ∀ amount ∈ data.amount, |amount - payment.amount| ≤ 1 / 10000
  asset : payment.currency = .USD ∨ ∃ code, data.assetCode = some code ∧
      code.toUpper = toString payment.currency

theorem fits_of_checked {payment : Payment} {data : TransactionData} {now : Date}
    (valid : PaymentsService.checkTransaction payment data now = none) :
    Fits payment data := by
  unfold PaymentsService.checkTransaction at valid
  dsimp only at valid
  split at valid
  · cases valid
  next destination =>
    split at valid
    · cases valid
    next amount =>
      refine ⟨not_not.mp destination, ?_, ?_⟩
      · intro given member
        rw [Option.mem_def.mp member] at amount
        simpa using amount
      · grind

/-- Every CONFIRMED payment keeps the transaction that fits it. -/
def OnRecord (world : World) : Prop := ∀ id payment, world.db.payments.row id = some payment →
    payment.status = .confirmed → ∃ data, payment.stellarTransactionData = some data ∧
        payment.stellarTransactionId = data.id ∧ Fits payment data

/-! ### One call -/

section

variable {foldAddress : String → String}

/-- A payment that is CONFIRMED after a call was so before, or the call has
checked and confirmed it. -/
theorem Booked.confirmation {spared : Spared} {world after : World}
    {call : CommerceCall} {returns : Bool} {id : Id} {later : Payment}
    (booked : Booked foldAddress spared world call returns after)
    (stored : after.db.payments.row id = some later) (confirmed : later.status = .confirmed) :
    world.db.payments.row id = some later ∨
      ∃ data payment, call = .verifyAndConfirmPayment id data ∧
        world.db.payments.row id = some payment ∧ payment.status = .pending ∧
        PaymentsService.checkTransaction payment data world.now = none ∧
        later = PaymentsService.confirmedPayment payment data world.now := by
  have saved : ∀ {key : Id} {payment new : Payment}, world.db.payments.row key = some payment →
        after.db.payments = world.db.payments.save new → new.id = payment.id →
            id = key ∧ later = new ∨ world.db.payments.row id = some later := by
    intro key payment new found payments sameId
    have keyed : Keyed.key new = key := sameId.trans (world.db.payments.keyed found)
    grind [Table.row_save]
  have settled : ∀ {key : Id} {payment new : Payment}, world.db.payments.row key = some payment →
        after.db.payments = world.db.payments.save new →
          new.id = payment.id → new.status ≠ .confirmed →
            world.db.payments.row id = some later := by grind
  cases booked with
  | kept books =>
    rw [books.payments] at stored
    exact .inl stored
  | created _ _ _ stocked | cancelled _ _ _ stocked =>
    rw [stocked.books.payments] at stored
    exact .inl stored
  | moved _ _ _ books | labelled _ _ _ _ books | shipped _ _ _ _ books
  | forwarded _ books | delivered _ _ _ _ books | held _ _ _ _ books =>
    rw [books.payments] at stored
    exact .inl stored
  | initiated found isPending fresh about pending books =>
    rename_i dto order payment
    have payments : after.db.payments = world.db.payments.save payment := books.payments
    grind [Table.row_save]
  | refused found pending books | timedOut found pending books =>
    exact .inl (settled found books.payments rfl nofun)
  | halfConfirmed found pending valid _ books
  | confirmed found pending _ _ valid books =>
    rcases saved found books.payments rfl with ⟨rfl, same⟩ | before <;> simp_all

theorem trade_confirmation (world : World) (event : Event) {id : Id} {later : Payment}
    (stored : (trade foldAddress world event).db.payments.row id = some later)
    (confirmed : later.status = .confirmed) :
    world.db.payments.row id = some later ∨ ∃ data faults payment,
        event = .call (.verifyAndConfirmPayment id data) faults ∧
        world.db.payments.row id = some payment ∧ payment.status = .pending ∧
        PaymentsService.checkTransaction payment data world.now = none ∧
        later = PaymentsService.confirmedPayment payment data world.now := by
  cases event with
  | elsewhere now catalogue geoDistance wallets => exact .inl stored
  | call call faults =>
    rcases (booked_call foldAddress world call faults).confirmation stored
      confirmed with before | ⟨data, payment, rfl, rest⟩
    · exact .inl before
    · exact .inr ⟨data, faults, payment, rfl, rest⟩

theorem onRecord_trade (world : World) (event : Event) (recorded : OnRecord world) :
    OnRecord (trade foldAddress world event) := by
  intro id later stored confirmed
  rcases trade_confirmation world event stored confirmed with before |
    ⟨data, _, payment, _, _, _, valid, rfl⟩
  · exact recorded id later before confirmed
  · obtain ⟨destination, amount, asset⟩ := fits_of_checked valid
    exact ⟨data, rfl, rfl, destination, amount, asset⟩

/-- An event that reuses no transaction confirms no payment by one that has
confirmed another. -/
theorem paidOnce_trade (world : World) (event : Event)
    (once : PaidOnce world) (fresh : NotReused world event) :
    PaidOnce (trade foldAddress world event) := by
  have apart : ∀ {paymentId second : Id} {transactionId : String}
      {payment other : Payment} {data : TransactionData} {faults : List Fault},
      event = .call (.verifyAndConfirmPayment paymentId data) faults →
        world.db.payments.row paymentId = some payment → payment.status = .pending →
            PaymentsService.checkTransaction payment data world.now = none →
              data.id = some transactionId → world.db.payments.row second = some other →
                  other.status = .confirmed → other.stellarTransactionId ≠ some transactionId := by
    intro paymentId second transactionId payment other data faults same found
      pending valid named stored confirmed
    subst same
    have keyed : Keyed.key other = second := world.db.payments.keyed stored
    rw [← keyed] at stored
    exact fresh payment found pending valid transactionId named other
      (Table.mem_rows.mpr stored) confirmed
  rintro transactionId first second ⟨one, storedOne, confirmedOne, idOne⟩
    ⟨two, storedTwo, confirmedTwo, idTwo⟩
  rcases trade_confirmation world event storedOne confirmedOne with oneBefore |
    ⟨dataOne, _, _, callOne, foundOne, pendingOne, validOne, rfl⟩
  · rcases trade_confirmation world event storedTwo confirmedTwo with
      twoBefore | ⟨_, _, _, callTwo, foundTwo, pendingTwo, validTwo, rfl⟩
    · exact once transactionId first second ⟨one, oneBefore, confirmedOne, idOne⟩
        ⟨two, twoBefore, confirmedTwo, idTwo⟩
    · exact absurd idOne (apart callTwo foundTwo pendingTwo validTwo idTwo oneBefore confirmedOne)
  · rcases trade_confirmation world event storedTwo confirmedTwo with
      twoBefore | ⟨_, _, _, callTwo, _, _, _, _⟩
    · exact absurd idTwo (apart callOne foundOne pendingOne validOne idOne twoBefore confirmedTwo)
    · cases callOne.symm.trans callTwo
      rfl

/-! ### A whole run -/

end

/-- One order, paid by one transfer. -/
def paidLamps : List Event := [ .call (.create twoLamps) [],
    .call (.initiatePayment { orderId := 0, currency := .USD }) [],
    .call (.verifyAndConfirmPayment 0 lampTransfer) [] ]

/-- A second order of the same buyer over the same amount, and the same
transfer again. -/
def paidAgain : List Event := paidLamps ++ [ .call (.create twoLamps) [],
      .call (.initiatePayment { orderId := 1, currency := .USD }) [],
      .call (.verifyAndConfirmPayment 1 lampTransfer) [] ]

end MarketX.Commerce
