/-
Module: MarketX.Commerce.Rules
Purpose: Everything that is called on the shop side, one call at a time, with
  other services at work in between; the rules of the calculus for the awaited
  calls and the transactions of the shop, and the programs that leave its books
  alone.
Trusted boundary: human-reviewed model of the source (the calls)
Main exports: CommerceCall, CommerceCall.program, Event, trade
-/
import MarketX.Effects.Respects
import MarketX.Commerce.OrdersService
import MarketX.Commerce.PaymentsService
import MarketX.Commerce.ShippingService
import MarketX.Commerce.FraudService

namespace MarketX.Commerce

open Effects Handler

/-! ### The calls -/

/-- A call of the orders, payments, shipping or fraud service that can
write. -/
inductive CommerceCall where
  | create (dto : CreateOrderDto)
  | cancelOrder (id userId : Id)
  | updateStatus (id : Id) (dto : UpdateOrderStatusDto)
  | initiatePayment (dto : InitiatePaymentDto)
  | verifyAndConfirmPayment (paymentId : Id) (transactionData : TransactionData)
  | handlePaymentTimeout (paymentId : Id)
  | createShipment (dto : CreateShipmentDto)
  | updateShipmentStatus (id : Id) (dto : UpdateShipmentStatusDto)
  | analyzeRequest (input : FraudInput)
deriving DecidableEq

section

-- `trim().toLowerCase()` of the runtime
variable (foldAddress : String → String)

/-- The program of a call, without the value it returns. -/
def CommerceCall.program : CommerceCall → Service Unit
  | .create dto => do let _ ← OrdersService.create dto; pure ()
  | .cancelOrder id userId => do
      let _ ← OrdersService.cancelOrder id userId
      pure ()
  | .updateStatus id dto => do
      let _ ← OrdersService.updateStatus id dto
      pure ()
  | .initiatePayment dto => do
      let _ ← PaymentsService.initiatePayment dto
      pure ()
  | .verifyAndConfirmPayment paymentId transactionData => do
      let _ ← PaymentsService.verifyAndConfirmPayment paymentId transactionData
      pure ()
  | .handlePaymentTimeout paymentId => do
      let _ ← PaymentsService.handlePaymentTimeout paymentId
      pure ()
  | .createShipment dto => do
      let _ ← ShippingService.createShipment dto
      pure ()
  | .updateShipmentStatus id dto => do
      let _ ← ShippingService.updateStatus id dto
      pure ()
  | .analyzeRequest input => do
      let _ ← FraudService.analyzeRequest foldAddress input
      pure ()

/-- One call with the failures of its effects; or time passing, and other
services changing what is on display and the wallets. -/
inductive Event where
  | call (call : CommerceCall) (faults : List Fault)
  | elsewhere (now : Date) (catalogue : Id → Option DisplayProduct)
      (geoDistance : String → String → Option Amount) (wallets : Table Wallet)

def trade (world : World) : Event → World
  | .call call faults =>
    (commerce.exec (call.program foldAddress) faults world).2
  | .elsewhere now catalogue geoDistance wallets =>
    { world with
      now
      catalogue
      geoDistance
      db := { world.db with wallets } }

end

/-! ### Awaited calls and transactions -/

/-- Calls that are assumed not to throw.  Most results spare none. -/
abbrev Spared := Op → Bool

/-- Every call may throw that can. -/
abbrev noneSpared : Spared := fun _ => false

section

variable {spared : Spared} {α : Type}

@[simp] theorem wp_await (op : Op)
    (post : Except HttpException (Reply op) → World → Prop) (world : World) :
    (commerce.shield spared).wp (await op) post world ↔
      post (.ok (act op world).1) (act op world).2 ∧ (mayFail op = true → spared op = false →
          ∀ error, post (.error error) world) := commerce.wp_shield_perform spared op post world

variable {post : Except HttpException α → World → Prop} {world : World} {body : Service α}

theorem wp_await_bind (op : Op) {rest : Reply op → Service α}
    (acts : (commerce.shield spared).wp (rest (act op world).1) post (act op world).2)
    (fails : spared op = false → ∀ error, post (.error error) world) :
    (commerce.shield spared).wp (await op >>= rest) post world := by simp_all

theorem wp_total_bind (op : Op) {rest : Reply op → Service α} (total : mayFail op = false)
    (acts : (commerce.shield spared).wp (rest (act op world).1) post (act op world).2) :
    (commerce.shield spared).wp (await op >>= rest) post world := by simp_all

/-- What the body of a transaction has to reach: its changes stay, or the
tables go back; after a body that returns they go back if the commit throws. -/
def concludes (spared : Spared) (before : World) (post : Except HttpException α → World → Prop) :
    Except HttpException α → World → Prop
  | .ok value, after =>
    post (.ok value) after ∧ (spared .commit = false →
      ∀ error, post (.error error) (after.withTables before.db))
  | .error error, after => post (.error error) (after.withTables before.db)

theorem wp_transaction_iff :
    (commerce.shield spared).wp (transaction body) post world ↔
      (commerce.shield spared).wp body (concludes spared world post) world ∧
        (spared .begin = false → ∀ error, post (.error error) world) := by
  unfold transaction
  rw [wp_bind, wp_await]
  refine and_congr ?_ ⟨fun failed => failed rfl, fun failed _ => failed⟩
  rw [andThen_ok, wp_bind, wp_attempt, wp_bind]
  apply wp_congr
  intro result after
  have rolledBack : ∀ error, (commerce.shield spared).wp
          (do await (.rollback world.db); throw error : Service α) post after ↔
        post (.error error) (after.withTables world.db) := by
    intro error
    exact and_iff_left fun fallible => by cases fallible
  cases result with
  | error error => exact rolledBack error
  | ok value =>
    rw [andThen_ok, wp_bind, wp_await]
    refine and_congr Iff.rfl ?_
    refine ⟨fun failed exposed error =>
      (rolledBack error).mp (failed rfl exposed error),
      fun failed _ exposed error => (rolledBack error).mpr (failed exposed error)⟩

theorem wp_transaction_exposed
    (holds : (commerce.shield spared).wp body (concludes spared world post) world)
    (failed : spared .begin = false → ∀ error, post (.error error) world) :
    (commerce.shield spared).wp (transaction body) post world :=
  wp_transaction_iff.mpr ⟨holds, failed⟩

/-- The same where nothing is known about the commit. -/
def settles (before : World) (post : Except HttpException α → World → Prop) :
    Except HttpException α → World → Prop
  | .ok value, after =>
    post (.ok value) after ∧ ∀ error, post (.error error) (after.withTables before.db)
  | .error error, after => post (.error error) (after.withTables before.db)

theorem wp_transaction (holds : (commerce.shield spared).wp body (settles world post) world)
    (failed : ∀ error, post (.error error) world) :
    (commerce.shield spared).wp (transaction body) post world := by
  apply wp_transaction_exposed _ fun _ => failed
  apply Handler.wp_mono _ holds
  intro result after settled
  cases result with
  | error error => exact settled
  | ok value => exact ⟨settled.1, fun _ => settled.2⟩

theorem exec_transaction {after : World} {value : α}
    (done : commerce.exec body [] world = (.ok value, after)) :
    commerce.exec (transaction body) [] world = (.ok value, after) := by
  have committed : commerce.exec
      (do let value ← body; await .commit; pure value : Service α) [] world =
        (.ok value, after) := by
    rw [exec_bind, done]
    rfl
  unfold transaction
  show commerce.exec (Program.attempt _ >>= _) [] world = _
  rw [exec_bind, exec_attempt, committed]
  rfl

end

/-! ### Leaving the books alone -/

/-- Orders, payments, shipments, products and the clock are the same. -/
structure SameBooks (world after : World) : Prop where
  orders : after.db.orders = world.db.orders
  payments : after.db.payments = world.db.payments
  shipments : after.db.shipments = world.db.shipments
  products : after.db.products = world.db.products
  now : after.now = world.now

instance : IsPreorder World SameBooks where
  refl _ := ⟨rfl, rfl, rfl, rfl, rfl⟩
  trans _ _ _ first second :=
    ⟨second.orders.trans first.orders, second.payments.trans first.payments,
      second.shipments.trans first.shipments,
      second.products.trans first.products, second.now.trans first.now⟩

theorem SameBooks.refl (world : World) : SameBooks world world := refl_of SameBooks world

theorem SameBooks.trans {first second third : World}
    (front : SameBooks first second) (back : SameBooks second third) :
    SameBooks first third := trans_of SameBooks front back

/-- The calls that write orders, payments, shipments or products. -/
def writesBooks : Op → Bool
  | .rollback _ | .insertOrder _ | .saveOrder _ | .insertPayment _
  | .savePayment _ | .insertShipment _ | .saveShipment _
  | .saveProduct _ => true
  | _ => false

theorem sameBooks_act (op : Op) (quiet : writesBooks op = false)
    (world : World) : SameBooks world (act op world).2 := by
  cases op with
  | saveListingEntity listing =>
    rw [act]
    split <;> exact ⟨rfl, rfl, rfl, rfl, rfl⟩
  | _ => first | exact ⟨rfl, rfl, rfl, rfl, rfl⟩ | cases quiet

section

variable {spared : Spared} {α : Type}

theorem respects_await (op : Op) (quiet : writesBooks op = false) :
    (commerce.shield spared).Respects SameBooks (await op) := by
  intro world
  rw [wp_await]
  exact ⟨sameBooks_act op quiet world, fun _ _ _ => .refl world⟩

end

end MarketX.Commerce
