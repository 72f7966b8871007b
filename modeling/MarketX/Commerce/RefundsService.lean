/-
Module: MarketX.Commerce.RefundsService
Purpose: The refunds service (`refunds/refunds.service.ts`): return requests
  for delivered orders and their review.
Trusted boundary: human-reviewed model of the source
Main exports: CreateReturnRequestDto, ReviewReturnRequestDto, ReturnEvent
-/
import MarketX.Effects.Runs
import MarketX.Commerce.World

namespace MarketX.Commerce

open Effects

/-- The DTO admits one to 90 days only (`@Min(1) @Max(90)`). -/
structure CreateReturnRequestDto where
  orderId : Id
  buyerId : Id
  sellerId : Id
  reason : ReturnReason
  reasonDescription : Option String := none
  refundType : Option RefundType := some .fullRefund
  items : Option (List ReturnItem) := none
  returnWindowDays : Option ℕ := some 30
  evidenceHash : Option String := none
  window_range : ∀ days ∈ returnWindowDays, 1 ≤ days ∧ days ≤ 90 := by decide
deriving DecidableEq

inductive ReviewAction where
  | approved
  | rejected
deriving DecidableEq

/-- The DTO admits no negative amount (`@IsNumber() @Min(0)`). -/
structure ReviewReturnRequestDto where
  action : ReviewAction
  notes : Option String := none
  approvedAmount : Option Amount := none
  approved_nonneg : ∀ amount ∈ approvedAmount, 0 ≤ amount := by decide
deriving DecidableEq

namespace RefundsService

def defaultReturnWindowDays : ℕ := 30

/-- `items?.find` by the product. -/
def orderItem? (order : Order) (listingId : Id) : Option OrderItem :=
  order.items.find? fun item => item.productId = listingId

/-- The loop over the items of a partial refund. -/
def sumItems (order : Order) (items : List ReturnItem) :
    Except HttpException Amount := items.foldlM (fun requestedAmount item =>
    match orderItem? order item.listingId with
    | none => .error (.badRequest s!"Item {item.listingId} not found in order")
    | some orderItem => .ok (requestedAmount + orderItem.price * item.quantity)) 0

def requestedAmount (order : Order) (finalRefundType : RefundType)
    (items : Option (List ReturnItem)) : Except HttpException Amount :=
  match finalRefundType with
  | .fullRefund => .ok order.totalAmount
  | .partialRefund =>
    match items with
    | none | some [] => .error (.badRequest "Partial refund requires specifying items")
    | some items => sumItems order items

/-- Whether more days have passed since the delivery than the window has. -/
def windowExpired (now deliveredAt : Date) (maxReturnDays : ℕ) : Prop :=
  (now - deliveredAt : ℚ) / (1000 * 60 * 60 * 24) > maxReturnDays

instance (now deliveredAt : Date) (maxReturnDays : ℕ) :
    Decidable (windowExpired now deliveredAt maxReturnDays) := inferInstanceAs (Decidable (_ < _))

/-- What `||` makes of an optional field of the request. -/
def finalRefundType (dto : CreateReturnRequestDto) : RefundType := dto.refundType.getD .fullRefund

def maxReturnDays (dto : CreateReturnRequestDto) : ℕ :=
  dto.returnWindowDays.getD defaultReturnWindowDays

def createReturnRequest (dto : CreateReturnRequestDto) :
    Service ReturnRequest := do
  match ← ordersRepository.findOne dto.orderId with
  | none => throw (.notFound s!"Order {dto.orderId} not found")
  | some order =>
    if order.buyerId ≠ dto.buyerId then
      throw (.forbidden "You can only request returns for your own orders")
    if order.status ≠ .delivered then
      throw (.badRequest "Only delivered orders can be refunded")
    match order.deliveredAt with
    | none => throw (.badRequest "Order has no delivery date recorded")
    | some deliveredAt =>
      let now ← dateNow
      if windowExpired now deliveredAt (maxReturnDays dto) then
        throw (.badRequest s!"Return window of {maxReturnDays dto} days has expired")
      match ← returnRequestRepository.findPending dto.orderId with
      | some _ =>
        throw (.badRequest ("A pending return request already exists for this " ++ "order"))
      | none =>
        let requestedAmount ← ofExcept (requestedAmount order (finalRefundType dto) dto.items)
        let saved ← returnRequestRepository.insert
          { id := 0
            orderId := dto.orderId
            buyerId := dto.buyerId
            sellerId := dto.sellerId
            reason := dto.reason
            reasonDescription := dto.reasonDescription
            status := .pending
            refundType := finalRefundType dto
            requestedAmount := some requestedAmount
            currency := order.currency
            items := dto.items
            returnWindowDays := maxReturnDays dto
            evidenceHash := dto.evidenceHash.filter (· ≠ "") }
        emit (.returnRequested saved.id dto.orderId dto.buyerId dto.sellerId)
        pure saved

/-- The branches on `action`.  An approved amount of zero leaves the requested
amount as it is. -/
def decideReview (returnRequest : ReturnRequest)
    (dto : ReviewReturnRequestDto) : Except HttpException ReturnRequest :=
  match dto.action with
  | .approved =>
    if dto.approvedAmount.any (returnRequest.requestedAmount.getD 0 < ·) then
      .error (.badRequest "Approved amount cannot exceed requested amount")
    else
      .ok
        { returnRequest with
          status := .approved
          requestedAmount :=
            (dto.approvedAmount.filter (· ≠ 0)).or
              returnRequest.requestedAmount }
  | .rejected => .ok { returnRequest with status := .rejected }

def reviewReturnRequest (id : Id) (dto : ReviewReturnRequestDto)
    (reviewerId : Id) : Service ReturnRequest := do
  match ← returnRequestRepository.findOne id with
  | none => throw (.notFound s!"Return request {id} not found")
  | some returnRequest =>
    if returnRequest.status ≠ .pending then
      throw (.badRequest "Can only review pending return requests")
    let decided ← ofExcept (decideReview returnRequest dto)
    let now ← dateNow
    let saved :=
      { decided with
        reviewedBy := some reviewerId
        reviewedAt := some now
        reviewNotes := dto.notes }
    returnRequestRepository.save saved
    emit (.returnReviewed saved.id saved.status saved.buyerId saved.sellerId)
    pure saved

end RefundsService

/-! ### Runs -/

/-- A call of the refunds service that writes. -/
inductive ReturnCall where
  | createReturnRequest (dto : CreateReturnRequestDto)
  | reviewReturnRequest (id : Id) (dto : ReviewReturnRequestDto) (reviewerId : Id)
deriving DecidableEq

def ReturnCall.program : ReturnCall → Service Unit
  | .createReturnRequest dto => do
      let _ ← RefundsService.createReturnRequest dto
      pure ()
  | .reviewReturnRequest id dto reviewerId => do
      let _ ← RefundsService.reviewReturnRequest id dto reviewerId
      pure ()

/-- One call with the failures of its effects; or the rest of the shop at
work, where time passes, orders are placed that cost something
(`OrdersService.create` refuses others), and an order changes its status and
its dates. -/
inductive ReturnEvent where
  | call (call : ReturnCall) (faults : List Fault)
  | elapsed (now : Date)
  | placed (order : Order) (positive : 0 < order.totalAmount)
  | moved (id : Id) (status : OrderStatus) (deliveredAt : Option Date)

def handleReturn (world : World) : ReturnEvent → World
  | .call call faults => (commerce.exec call.program faults world).2
  | .elapsed now => { world with now }
  | .placed order _ => world.withOrder { order with id := world.db.orders.next }
  | .moved id status deliveredAt =>
    match world.db.orders.row id with
    | none => world
    | some order => world.withOrder { order with status, deliveredAt }

end MarketX.Commerce
