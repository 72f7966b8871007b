/-
Module: MarketX.Commerce.OrdersService
Purpose: The orders service (`orders/orders.service.ts`), and the creation of
  an order on a table with the columns of `orders` (`entities/order.entity.ts`).
Trusted boundary: human-reviewed model of the source; texts without the character NUL
Main exports: orderTransitionValidator, OrdersService.create, moneyColumn, storedOrder
-/
import MarketX.Commerce.CouponsService
import MarketX.Commerce.InventoryService

namespace MarketX.Commerce

open Effects

def orderTransitionValidator : StatusTransitionValidator OrderStatus where
  validTransitions
    | .pending => [.confirmed, .cancelled, .manualReview]
    | .confirmed => [.processing, .cancelled]
    | .processing => [.paid, .cancelled]
    | .paid => [.shipped, .cancelled]
    | .shipped => [.delivered, .cancelled]
    | .delivered => [.completed, .refunded]
    | .completed => [.refunded]
    | .cancelled => []
    | .refunded => []
    | .manualReview => [.confirmed, .cancelled]
  entityName := "Order"

/-- A quantity passes `@IsInt() @Min(1)`. -/
@[ext] structure CreateOrderItemDto where
  productId : Id
  quantity : ℤ
  quantity_pos : 1 ≤ quantity

instance : DecidableEq CreateOrderItemDto := fun _ _ =>
  decidable_of_iff' _ CreateOrderItemDto.ext_iff

/-- Without the release conditions and documents, which `create` does not
read.  A text that is empty counts as missing. -/
structure CreateOrderMilestoneDto where
  title : String
  description : String
  amount : Amount
  percentage : Amount
  type : Option String := none
  trigger : Option String := none
  autoRelease : Option Bool := none
  sortOrder : Option ℕ := none
deriving DecidableEq

structure CreateOrderDto where
  items : List CreateOrderItemDto
  buyerId : Id
  shippingAddress : Option String := none
  paymentCurrency : Option Currency := none
  milestones : Option (List CreateOrderMilestoneDto) := none
  escrowType : Option EscrowType := none
deriving DecidableEq

structure UpdateOrderStatusDto where
  status : OrderStatus
deriving DecidableEq

namespace OrdersService

/-- The price of one item, in the currency of the order. -/
def priceItem (paymentCurrency : Currency) (item : CreateOrderItemDto) :
    Service OrderItem := do
  match ← productsService.findOne item.productId paymentCurrency with
  | none => throw (.notFound s!"Product with ID {item.productId} not found")
  | some product =>
    if product.currency ≠ paymentCurrency then
      throw (.badRequest (s!"Product {item.productId} currency {product.currency} does " ++
          s!"not match order currency {paymentCurrency}"))
    pure
      { productId := item.productId
        productName := product.name
        quantity := item.quantity
        price := product.price
        subtotal := product.price * item.quantity
        priceCurrency := product.currency
        quantity_pos := item.quantity_pos }

def orderMilestone (milestone : CreateOrderMilestoneDto) :
    OrderMilestone where
  title := milestone.title
  description := milestone.description
  amount := milestone.amount
  percentage := milestone.percentage
  type := milestone.type.getD "standard"
  trigger := milestone.trigger.getD "manual"
  autoRelease := milestone.autoRelease.getD false
  sortOrder := milestone.sortOrder.getD 0

def create (dto : CreateOrderDto) : Service Order := transaction do
    let paymentCurrency := dto.paymentCurrency.getD .USD
    let orderItems ← dto.items.mapM (priceItem paymentCurrency)
    let orderMilestones := dto.milestones.map fun milestones => milestones.map orderMilestone
    let totalAmount := (orderItems.map OrderItem.subtotal).sum
    if totalAmount ≤ 0 then
      throw (.badRequest "Order total amount must be greater than zero")
    let totalMilestoneAmount :=
      ((orderMilestones.getD []).map OrderMilestone.amount).sum
    if totalMilestoneAmount > totalAmount then
      throw (.badRequest "Total milestone amount cannot exceed order total")
    let savedOrder ← ordersRepository.insert
      { id := 0
        buyerId := dto.buyerId
        totalAmount
        currency := paymentCurrency
        status := .pending
        paymentStatus := .unpaid
        items := orderItems
        escrowType := dto.escrowType
        milestones := orderMilestones
        releasedAmount := 0
        remainingAmount := totalAmount
        shippingAddress := dto.shippingAddress }
    savedOrder.items.forM fun item => do
      let _ ← InventoryService.reserveInventory item.productId savedOrder.buyerId item.quantity
    if savedOrder.totalAmount > 5000 then
      emit (.massiveOrderDetected savedOrder.id savedOrder.buyerId
        savedOrder.totalAmount savedOrder.items.length)
    pure savedOrder

/-- The order as a cancellation leaves it. -/
def cancelledOrder (order : Order) (now : Date) : Order :=
  { order with status := .cancelled, cancelledAt := some now }

def cancelOrder (id userId : Id) : Service Order := transaction do
    match ← ordersRepository.findOne id with
    | none => throw (.badRequest "Order not found or unauthorized")
    | some order =>
      if order.buyerId ≠ userId then
        throw (.badRequest "Order not found or unauthorized")
      if order.status = .cancelled then
        throw (.badRequest "Order is already cancelled")
      order.items.forM fun item => do
        let _ ← InventoryService.releaseInventory item.productId userId item.quantity
      let now ← dateNow
      ordersRepository.save (cancelledOrder order now)
      pure (cancelledOrder order now)

def findOne (id : Id) : Service Order := do
  match ← ordersRepository.findOne id with
  | none => throw (.notFound s!"Order with ID \"{id}\" not found")
  | some order => pure order

/-- The inventory and the dates that go with the new status. -/
def applyStatus (order : Order) : OrderStatus → Service Order
  | .paid => do
      InventoryService.confirmOrder order
      let now ← dateNow
      pure { order with paymentStatus := .paid, confirmedAt := some now }
  | .cancelled => do
      InventoryService.cancelOrder order
      let now ← dateNow
      pure { order with cancelledAt := some now }
  | .shipped => do
      let now ← dateNow
      pure { order with shippedAt := some now }
  | .delivered => do
      let now ← dateNow
      pure { order with deliveredAt := some now }
  | _ => pure order

def updateStatus (id : Id) (dto : UpdateOrderStatusDto) : Service Order := do
  let order ← findOne id
  let previousStatus := order.status
  ofExcept (orderTransitionValidator.validate previousStatus dto.status)
  let dated ← applyStatus order dto.status
  let updatedOrder := { dated with status := dto.status }
  ordersRepository.save updatedOrder
  emit (.orderUpdated updatedOrder.id updatedOrder.buyerId updatedOrder.status previousStatus)
  if dto.status = .completed then
    emit (.orderCompleted updatedOrder.id updatedOrder.buyerId updatedOrder.totalAmount)
  pure updatedOrder

end OrdersService

open Effects Numerals

/-! ### Columns -/

/-- A column of type `decimal(12, 2)`: two digits are kept. -/
def moneyColumn (value : Amount) : Option Amount :=
  let hundredths := roundAway (value * 100)
  if |hundredths| < 10 ^ 12 then some (hundredths / 100) else none

/-- A whole number of hundredths, of which there are not too many, is kept as
it is; nothing else is. -/
theorem moneyColumn_eq_self (value : Amount) :
    moneyColumn value = some value ↔
      (∃ hundredths : ℤ, value = hundredths / 100) ∧ |value| < 10 ^ 10 := by
  have fits : ∀ hundredths : ℤ, |hundredths| < 10 ^ 12 ↔
      |(hundredths / 100 : ℚ)| < 10 ^ 10 := by
    intro hundredths
    rw [abs_div, div_lt_iff₀ (by norm_num), ← Int.cast_abs]
    norm_num
    exact_mod_cast Iff.rfl
  unfold moneyColumn
  constructor
  · grind
  · simp_all

/-- The row of an order as its columns keep it, if they take it. -/
def storedOrder (order : Order) : Option Order := do
  let totalAmount ← moneyColumn order.totalAmount
  let _ ← varcharColumn 3 (toString order.currency)
  let releasedAmount ← moneyColumn order.releasedAmount
  let remainingAmount ← moneyColumn order.remainingAmount
  let shippingAddress ← order.shippingAddress.mapM (varcharColumn 255)
  let trackingNumber ← order.trackingNumber.mapM (varcharColumn 100)
  some
    { order with
      totalAmount
      releasedAmount
      remainingAmount
      shippingAddress
      trackingNumber }

/-! ### Creation -/

namespace OrdersService

/-- What `create` does before it saves. -/
def checkout (dto : CreateOrderDto) : Service Order := do
  let paymentCurrency := dto.paymentCurrency.getD .USD
  let orderItems ← dto.items.mapM (priceItem paymentCurrency)
  let orderMilestones := dto.milestones.map fun milestones => milestones.map orderMilestone
  let totalAmount := (orderItems.map OrderItem.subtotal).sum
  if totalAmount ≤ 0 then
    throw (.badRequest "Order total amount must be greater than zero")
  let totalMilestoneAmount :=
    ((orderMilestones.getD []).map OrderMilestone.amount).sum
  if totalMilestoneAmount > totalAmount then
    throw (.badRequest "Total milestone amount cannot exceed order total")
  pure
    { id := 0
      buyerId := dto.buyerId
      totalAmount
      currency := paymentCurrency
      status := .pending
      paymentStatus := .unpaid
      items := orderItems
      escrowType := dto.escrowType
      milestones := orderMilestones
      releasedAmount := 0
      remainingAmount := totalAmount
      shippingAddress := dto.shippingAddress }

/-- What `create` does when the order is saved. -/
def fulfil (savedOrder : Order) : Service Order := do
  savedOrder.items.forM fun item => do
    let _ ← InventoryService.reserveInventory item.productId savedOrder.buyerId item.quantity
  if savedOrder.totalAmount > 5000 then
    emit (.massiveOrderDetected savedOrder.id savedOrder.buyerId
      savedOrder.totalAmount savedOrder.items.length)
  pure savedOrder

/-- `create` with a `save` of its own. -/
def createBy (save : Order → Service Order) (dto : CreateOrderDto) :
    Service Order := transaction do
    let order ← checkout dto
    let savedOrder ← save order
    fulfil savedOrder

theorem create_eq (dto : CreateOrderDto) :
    create dto = createBy ordersRepository.insert dto := by
  refine congrArg transaction ((congrArg (_ >>= ·) (funext fun items => ?_)).trans
    (Program.bind_assoc _ _ _).symm)
  dsimp only
  split
  · rfl
  · show (if _ then _ else _) = _
    split
    · rfl
    · rfl

end OrdersService

/-- `save` of an order that is new: the row is kept as the columns do, and the
entity keeps what it has. -/
def storeOrder (order : Order) : Service Order :=
  match storedOrder order with
  | none => throw columnError
  | some row => do
      let saved ← ordersRepository.insert row
      pure { order with id := saved.id }

/-- `create` on a table with columns. -/
def OrdersService.createStored (dto : CreateOrderDto) : Service Order := createBy storeOrder dto

end MarketX.Commerce
