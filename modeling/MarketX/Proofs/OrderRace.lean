/-
Module: MarketX.Proofs.OrderRace
Purpose: Which calls change the status of an order along the transition table,
  and status updates of one order side by side.
Trusted boundary: human-reviewed definition of Orderly and InTurn
Main exports: Lawful, Timely, lawful_trade, status_changes_follow_table, updates_orderly
-/
import MarketX.Commerce.OrderUpdates
import MarketX.Commerce.Runs

namespace MarketX.Commerce

open Effects

/-- Every stored order keeps its status or takes one step of the table. -/
def Lawful (world after : World) : Prop := ∀ id order, world.db.orders.row id = some order →
    ∃ later, after.db.orders.row id = some later ∧ (later.status = order.status ∨
        later.status ∈ orderTransitionValidator.validTransitions order.status)

/-! ### The condition -/

section

variable (foldAddress : String → String)

/-- What a step has to avoid.  The other calls consult the table, write no
status, or check that they start from the right one. -/
def Timely (world : World) : Event → Prop
  | .call (.cancelOrder id userId) _ =>
    -- the buyer's order has not been delivered
    ∀ order ∈ world.db.orders.row id, order.buyerId = userId →
      order.status ≠ .delivered ∧ order.status ≠ .completed ∧ order.status ≠ .refunded
  | .call (.verifyAndConfirmPayment paymentId data) _ =>
    -- what is confirmed is the payment of an order in processing
    ∀ payment ∈ world.db.payments.row paymentId, payment.status = .pending →
        PaymentsService.checkTransaction payment data world.now = none →
          ∀ order ∈ world.db.orders.row payment.orderId,
            order.status = .processing ∨ order.status = .paid ∨ order.status = .manualReview
  | .call (.updateShipmentStatus id dto) _ =>
    -- what arrives is an order that was shipped
    dto.status = .delivered → ∀ shipment ∈ world.db.shipments.row id,
        ShippingService.isValidStateTransition shipment.status dto.status = true →
            ∀ order ∈ world.db.orders.row shipment.orderId,
              order.status = .shipped ∨ order.status = .delivered
  | .call (.analyzeRequest input) _ =>
    -- what is held for review is a new order
    highRisk foldAddress world input = true →
      ∀ orderId ∈ input.orderId, ∀ order ∈ world.db.orders.row orderId,
        order.status = .pending ∨ order.status = .manualReview
  | _ => True

instance (world : World) : ∀ event, Decidable (Timely foldAddress world event)
  | .call (.cancelOrder _ _) _ => inferInstanceAs (Decidable (∀ order ∈ _, _ → _ ∧ _))
  | .call (.verifyAndConfirmPayment _ _) _ =>
    inferInstanceAs (Decidable (∀ payment ∈ _, _ → _ → ∀ order ∈ _, _ ∨ _))
  | .call (.updateShipmentStatus _ _) _ =>
    inferInstanceAs (Decidable (_ → ∀ shipment ∈ _, _ → ∀ order ∈ _, _ ∨ _))
  | .call (.analyzeRequest _) _ =>
    inferInstanceAs (Decidable (_ → ∀ orderId ∈ _, ∀ order ∈ _, _ ∨ _))
  | .call (.create _) _ | .call (.updateStatus _ _) _
  | .call (.initiatePayment _) _ | .call (.handlePaymentTimeout _) _
  | .call (.createShipment _) _ | .elsewhere _ _ _ _ => inferInstanceAs (Decidable True)

/-! ### One step -/

variable {foldAddress}

theorem Rewritten.lawful {world : World} {id : Id} {call : CommerceCall}
    {faults : List Fault} {order later : Order}
    (rewritten : Rewritten foldAddress world id call order later)
    (stored : world.db.orders.row id = some order)
    (timely : Timely foldAddress world (.call call faults)) :
    later.status = order.status ∨ later.status ∈
        orderTransitionValidator.validTransitions order.status := by
  cases rewritten with
  | cancelled owner active =>
    right
    obtain ⟨undelivered, uncompleted, unrefunded⟩ := timely order stored owner
    show OrderStatus.cancelled ∈ _
    cases status : order.status <;> first | decide | contradiction
  | moved allowed =>
    right
    rw [movedOrder_status]
    exact allowed
  | paid found pending about unheld valid =>
    subst about
    rcases timely _ found pending valid order stored with
      processing | paid | held
    · right
      show OrderStatus.paid ∈ _
      rw [processing]
      decide
    · exact .inl paid.symm
    · exact absurd held unheld
  | shipped about paid =>
    right
    show OrderStatus.shipped ∈ _
    rw [paid]
    decide
  | delivered found about allowed arrived =>
    subst about
    rcases timely arrived _ found allowed order stored with
      shipped | delivered
    · right
      show OrderStatus.delivered ∈ _
      rw [shipped]
      decide
    · exact .inl delivered.symm
  | held about unheld high =>
    rcases timely high id about order stored with pending | held
    · right
      show OrderStatus.manualReview ∈ _
      rw [pending]
      decide
    · exact absurd held unheld

theorem lawful_trade (world : World) (event : Event) (timely : Timely foldAddress world event) :
    Lawful world (trade foldAddress world event) := by
  intro id order stored
  cases event with
  | elsewhere now catalogue geoDistance wallets => exact ⟨order, stored, .inl rfl⟩
  | call call faults =>
    obtain ⟨later, storedLater, same | rewritten⟩ :=
      (booked_call foldAddress world call faults).stored stored
    · exact ⟨later, storedLater, .inl (congrArg Order.status same)⟩
    · exact ⟨later, storedLater, rewritten.lawful stored timely⟩

/-! ### A whole run -/

/-- One step of the table. -/
def Follows (status next : OrderStatus) : Prop :=
  next ∈ orderTransitionValidator.validTransitions status

theorem follows_run {start : World} {events : List Event} (lawful : Along (trade foldAddress)
      (fun world event => Lawful world (trade foldAddress world event)) start events)
    {id : Id} {order : Order} (stored : start.db.orders.row id = some order) :
    ∃ later, (run (trade foldAddress) start events).db.orders.row id = some later ∧
        Relation.ReflTransGen Follows order.status later.status := by
  induction events generalizing start order with
  | nil => exact ⟨order, stored, .refl⟩
  | cons head tail ih =>
    obtain ⟨next, storedNext, moved⟩ := lawful.1 id order stored
    obtain ⟨later, storedLater, path⟩ := ih lawful.2 storedNext
    refine ⟨later, storedLater, ?_⟩
    rcases moved with same | follows
    · rwa [← same]
    · exact .head follows path

theorem stays_among (among : List OrderStatus) (closed : ∀ status ∈ among, ∀ next,
      next ∈ orderTransitionValidator.validTransitions status →
        next ∈ among)
    {first last : OrderStatus} (path : Relation.ReflTransGen Follows first last)
    (member : first ∈ among) : last ∈ among := by
  induction path with
  | refl => exact member
  | tail _ follows ih => exact closed _ ih _ follows

/-- In a run whose steps meet the condition, every change of an order's
status is in the table; so nothing leaves CANCELLED or REFUNDED, and a
delivered order is neither cancelled nor sent back to review. -/
theorem status_changes_follow_table {start : World} {events : List Event}
    (timely : Along (trade foldAddress) (Timely foldAddress) start events) :
    Along (trade foldAddress) (fun world event => Lawful world (trade foldAddress world event))
        start events ∧ ∀ id order, start.db.orders.row id = some order → ∃ later,
          (run (trade foldAddress) start events).db.orders.row id = some later ∧
            (order.status = .cancelled → later.status = .cancelled) ∧
            (order.status = .refunded → later.status = .refunded) ∧ (order.status = .delivered →
              later.status ≠ .cancelled ∧ later.status ≠ .manualReview) := by
  have lawful : Along (trade foldAddress)
      (fun world event => Lawful world (trade foldAddress world event)) start
      events := timely.mono lawful_trade
  refine ⟨lawful, fun id order stored => ?_⟩
  obtain ⟨later, storedLater, path⟩ := follows_run lawful stored
  refine ⟨later, storedLater, ?_, ?_, ?_⟩
  · intro cancelled
    have stays := stays_among [.cancelled] (by decide) path (by simp [cancelled])
    exact List.mem_singleton.mp stays
  · intro refunded
    have stays := stays_among [.refunded] (by decide) path (by simp [refunded])
    exact List.mem_singleton.mp stays
  · intro delivered
    have stays := stays_among [.delivered, .completed, .refunded]
      (by decide) path (by simp [delivered])
    constructor
    · intro cancelled
      rw [cancelled] at stays
      exact absurd stays (by decide)
    · intro held
      rw [held] at stays
      exact absurd stays (by decide)

end

/-- An order that is paid for, shipped, delivered, completed and refunded. -/
def deliveredLamps : List Event := [ .call (.create twoLamps) [],
    .call (.initiatePayment { orderId := 0, currency := .USD }) [],
    .call (.updateStatus 0 { status := .confirmed }) [],
    .call (.updateStatus 0 { status := .processing }) [],
    .call (.verifyAndConfirmPayment 0 lampTransfer) [], .call (.createShipment
      { orderId := 0, carrier := .ups, trackingNumber := "1Z"
        shippingAddress :=
          { street := "Main St", city := "Town", state := "", country := ""
            postalCode := "" } }) [],
    .call (.updateShipmentStatus 0 { status := .pickedUp }) [],
    .call (.updateShipmentStatus 0 { status := .inTransit }) [],
    .call (.updateShipmentStatus 0 { status := .outForDelivery }) [],
    .call (.updateShipmentStatus 0 { status := .delivered }) [],
    .call (.updateStatus 0 { status := .completed }) [],
    .call (.updateStatus 0 { status := .refunded }) [] ]

theorem delivered_lamps_follow_table :
    Along (trade id) (fun world event => Lawful world (trade id world event)) openShop
      deliveredLamps :=
  (status_changes_follow_table (by decide +kernel)).1

/-- An order that its buyer cancels. -/
def cancelledLamps : List Event := [.call (.create twoLamps) [], .call (.cancelOrder 0 7) []]

/-- A request about it that scores 85. -/
def suspicion : Event := .call (.analyzeRequest
    { orderId := some 0
      metadata := some { knownBadIp := some true, orderCount := some 5 } }) []

/-- The analysis sends the cancelled order to review. -/
theorem review_revives_cancelled_order :
    ¬ Along (trade id) (fun world event => Lawful world (trade id world event)) openShop
      (cancelledLamps ++ [suspicion]) := by
  rw [Along.append_iff]
  rintro ⟨-, lawful, -⟩
  have before :
      ((run (trade id) openShop cancelledLamps).db.orders.row 0).map
        Order.status = some .cancelled := by decide +kernel
  have after :
      ((trade id (run (trade id) openShop cancelledLamps)
        suspicion).db.orders.row 0).map Order.status = some .manualReview := by decide +kernel
  obtain ⟨order, stored, cancelled⟩ := Option.map_eq_some_iff.mp before
  obtain ⟨later, storedLater, moved⟩ := lawful 0 order stored
  rw [storedLater, Option.map_some, Option.some.injEq] at after
  rw [after, cancelled] at moved
  exact absurd moved (by decide)

open Effects Handler

/-! ### The property -/

/-- The status that a mark says the order has entered. -/
def Mark.entered? : Mark → Option OrderStatus
  | .entered status => some status
  | _ => none

def Mark.isCompletion : Mark → Bool
  | .completed _ _ => true
  | _ => false

/-- The statuses the order has passed through, from the first one on. -/
def passed (first : OrderStatus) (trail : List Mark) : List OrderStatus :=
  first :: trail.filterMap Mark.entered?

/-- The order has moved along the table and never come back to a status; the
inventory has been changed at most once for each status, and both for PAID
and for CANCELLED only if the order was paid before it was cancelled; and its
completion has been announced at most once. -/
structure Orderly (orderId : Id) (first : OrderStatus) (recorded : Tracked) :
    Prop where
  path : (passed first recorded.trail).IsChain Follows
  current : (recorded.world.db.orders.row orderId).map Order.status =
    (passed first recorded.trail).getLast?
  once : (passed first recorded.trail).Nodup
  inventoryOnce : ∀ status, recorded.trail.count (.inventory status) ≤ 1
  paidBefore : ∀ front back, recorded.trail = front ++ .inventory .cancelled :: back →
      .inventory .paid ∈ recorded.trail → .entered .paid ∈ front
  completedOnce : recorded.trail.countP Mark.isCompletion ≤ 1

/-! ### The condition -/

/-- The table leads from the status of the order, as it is stored, to this
one. -/
def leadsTo (orderId : Id) (world : World) (status : OrderStatus) : Prop :=
  ∀ order ∈ world.db.orders.row orderId,
    status ∈ orderTransitionValidator.validTransitions order.status

instance (orderId : Id) (world : World) (status : OrderStatus) :
    Decidable (leadsTo orderId world status) := inferInstanceAs (Decidable (∀ order ∈ _, _))

/-- Every change of the inventory has been followed by its status. -/
def allEntered (trail : List Mark) : Bool := trail.all fun
    | .inventory status => trail.count (.inventory status) ≤ trail.count (.entered status)
    | _ => true

/-- When the step that leaves the mark is not too late. -/
def InTime (orderId : Id) (recorded : Tracked) : Mark → Prop
  | .inventory status => leadsTo orderId recorded.world status ∧ allEntered recorded.trail = true
  | .entered status => leadsTo orderId recorded.world status
  | .completed _ _ => True

instance (orderId : Id) (recorded : Tracked) :
    ∀ mark, Decidable (InTime orderId recorded mark)
  | .inventory _ => inferInstanceAs (Decidable (_ ∧ _))
  | .entered _ => inferInstanceAs (Decidable (leadsTo _ _ _))
  | .completed _ _ => inferInstanceAs (Decidable True)

/-- Whoever changes the inventory or saves the order does so while the table
still leads to its status, and changes the inventory while nobody else is
between the two. -/
def InTurn (orderId : Id) (pool : OrderPool) (turn : OrderTurn) : Prop :=
  ∀ moves ∈ pool.mover? turn, updates.acts moves.2 turn.fault? = true →
    ∀ mark ∈ markIn moves.2 pool.state.world, InTime orderId pool.state mark

instance (orderId : Id) (pool : OrderPool) (turn : OrderTurn) :
    Decidable (InTurn orderId pool turn) :=
  inferInstanceAs (Decidable (∀ moves ∈ pool.mover? turn, _ → ∀ mark ∈ _, _))

/-! ### The dialogue of a call -/

/-- An update has yet to read the order; it has read it, and the table leads
to the status; it has changed the inventory; it has saved the order.  A
listener has yet to grant the points.  Or the call is over. -/
inductive OrderPhase where
  | asked (status : OrderStatus)
  | checked (status : OrderStatus) (order : Order)
  | settled (status : OrderStatus) (order : Order)
  | saved (status : OrderStatus) (order : Order)
  | granting (userId : Id) (totalAmount : Amount)
  | ended
deriving DecidableEq

/-- The inventory has been changed for the status, if it has to be. -/
inductive Ready (status : OrderStatus) (order : Order) : OrderPhase → Prop where
  | settled : Ready status order (.settled status order)
  | checked (free : status ≠ .paid ∧ status ≠ .cancelled) :
      Ready status order (.checked status order)

structure SameSale (order updated : Order) : Prop where
  id : updated.id = order.id
  buyerId : updated.buyerId = order.buyerId
  totalAmount : updated.totalAmount = order.totalAmount

theorem SameSale.trans {first second third : Order}
    (front : SameSale first second) (back : SameSale second third) :
    SameSale first third :=
  ⟨back.id.trans front.id, back.buyerId.trans front.buyerId,
    back.totalAmount.trans front.totalAmount⟩

inductive OrderAllows (orderId : Id) : OrderPhase → UpdateOp → Prop where
  | finds {status : OrderStatus} :
      OrderAllows orderId (.asked status) (.single (.findOrder orderId))
  | confirms {order : Order} :
      OrderAllows orderId (.checked .paid order) (.confirmOrder order)
  | cancels {order : Order} :
      OrderAllows orderId (.checked .cancelled order) (.cancelOrder order)
  | looks {phase : OrderPhase} :
      OrderAllows orderId phase (.single .dateNow)
  | saves {phase : OrderPhase} {status : OrderStatus} {order updated : Order}
      (ready : Ready status order phase) (moved : updated.status = status)
      (same : SameSale order updated) :
      OrderAllows orderId phase (.single (.saveOrder updated))
  | announces {status previousStatus : OrderStatus} {order : Order} :
      OrderAllows orderId (.saved status order)
        (.single (.emit (.orderUpdated order.id order.buyerId order.status previousStatus)))
  | completes {order : Order} :
      OrderAllows orderId (.saved .completed order)
        (.single (.emit (.orderCompleted order.id order.buyerId order.totalAmount)))
  | sums {userId : Id} {totalAmount : Amount} :
      OrderAllows orderId (.granting userId totalAmount) (.single (.sumPoints userId))
  | grants {userId : Id} {totalAmount : Amount} {reward : RewardPoints}
      (earned : earnedWith orderId reward = true) (user : reward.userId = userId)
      (points : reward.points = ⌊totalAmount * RewardsService.pointsPerDollar⌋) :
      OrderAllows orderId (.granting userId totalAmount) (.single (.insertReward reward))

def orderActed (orderId : Id) : OrderPhase → UpdateOp → Tracked → OrderPhase
  | .asked status, .single (.findOrder _), met =>
    match met.world.db.orders.row orderId with
    | none => .ended
    | some order =>
      if status ∈ orderTransitionValidator.validTransitions order.status
      then .checked status order
      else .ended
  | .checked status order, .confirmOrder sold, met =>
    match (stepAct (.confirmOrder sold) met.world).1 with
    | .ok () => .settled status order
    | .error _ => .ended
  | .checked status order, .cancelOrder sold, met =>
    match (stepAct (.cancelOrder sold) met.world).1 with
    | .ok () => .settled status order
    | .error _ => .ended
  | .checked status _, .single (.saveOrder updated), _
  | .settled status _, .single (.saveOrder updated), _ => .saved status updated
  | .saved _ _, .single (.emit (.orderCompleted _ _ _)), _
  | .granting _ _, .single (.insertReward _), _ => .ended
  | phase, _, _ => phase

/-- Where a call starts. -/
def OrderCall.start : OrderCall → OrderPhase
  | .updateStatus dto => .asked dto.status
  | .handleOrderCompleted userId totalAmount => .granting userId totalAmount

def orderDialogue (orderId : Id) (call : OrderCall) :
    Dialogue updateSignature Tracked OrderPhase where
  start := call.start
  allows _ := OrderAllows orderId
  acted := orderActed orderId
  failed _ _ _ := .ended
  ends _ := True

section

variable {orderId : Id} {call : OrderCall} {past : Past updateSignature Tracked}

/-- The inventory has been changed, if it has to be, and the order differs in
its dates only. -/
def Dated (status : OrderStatus) (order : Order) :
    Except HttpException Order → Past updateSignature Tracked → OrderPhase → Prop
  | .ok dated, _, phase => Ready status order phase ∧ SameSale order dated
  | .error _, _, _ => True

variable {phase : OrderPhase} {rest : Unit → Update Order}
  {post : Except HttpException Order → Past updateSignature Tracked → OrderPhase → Prop}
  {order : Order}

theorem speaks_rethrow {outcome : Except HttpException Unit}
    (fails : ∀ error, post (.error error) past phase)
    (continues : outcome = .ok () → (rest ()).Speaks updates
      (orderDialogue orderId call) post past phase) :
    (Program.rethrow pure outcome : Update Unit).Speaks updates (orderDialogue orderId call)
      (thenSpeaks updates (orderDialogue orderId call) rest post) past phase := by
  cases outcome with
  | error error => exact fails error
  | ok value => exact continues rfl

theorem speaks_confirmOrder (fails : ∀ error past phase, post (.error error) past phase)
    (continues : ∀ past, (rest ()).Speaks updates (orderDialogue orderId call)
      post past (.settled .paid order)) :
    (OrderUpdates.confirmOrder order >>= rest).Speaks updates
      (orderDialogue orderId call) post past (.checked .paid order) := by
  apply speaks_bind
  refine speaks_perform_bind OrderAllows.confirms (fun met => ?_) fun _ _ error => fails error _ _
  refine speaks_rethrow (fails · _ _) fun confirmed => ?_
  have settled : (orderDialogue orderId call).acted (.checked .paid order)
      (.confirmOrder order) met = .settled .paid order := by
    simp only [orderDialogue, orderActed]
    rw [show (stepAct (.confirmOrder order) met.world).1 = .ok () from
      confirmed]
  rw [settled]
  exact continues _

theorem speaks_cancelOrder (fails : ∀ error past phase, post (.error error) past phase)
    (continues : ∀ past, (rest ()).Speaks updates (orderDialogue orderId call)
      post past (.settled .cancelled order)) :
    (OrderUpdates.cancelOrder order >>= rest).Speaks updates
      (orderDialogue orderId call) post past (.checked .cancelled order) := by
  apply speaks_bind
  refine speaks_perform_bind OrderAllows.cancels (fun met => ?_) fun _ _ error => fails error _ _
  refine speaks_rethrow (fails · _ _) fun cancelled => ?_
  have settled : (orderDialogue orderId call).acted
      (.checked .cancelled order) (.cancelOrder order) met =
        .settled .cancelled order := by
    simp only [orderDialogue, orderActed]
    rw [show (stepAct (.cancelOrder order) met.world).1 = .ok () from
      cancelled]
  rw [settled]
  exact continues _

theorem speaks_applyStatus (order : Order) (status : OrderStatus) :
    (OrderUpdates.applyStatus order status).Speaks updates
      (orderDialogue orderId call) (Dated status order) past (.checked status order) := by
  have fails : ∀ error past phase,
      Dated status order (.error error) past phase := fun _ _ _ => trivial
  cases status with
  | paid =>
    refine speaks_confirmOrder fails fun past => ?_
    exact speaks_perform_bind OrderAllows.looks (fun met => ⟨.settled, rfl, rfl, rfl⟩) nofun
  | cancelled =>
    refine speaks_cancelOrder fails fun past => ?_
    exact speaks_perform_bind OrderAllows.looks (fun met => ⟨.settled, rfl, rfl, rfl⟩) nofun
  | shipped | delivered =>
    exact speaks_perform_bind OrderAllows.looks
      (fun met => ⟨.checked (by decide), rfl, rfl, rfl⟩) nofun
  | pending | confirmed | processing | completed | refunded
  | manualReview => exact ⟨.checked (by decide), rfl, rfl, rfl⟩

theorem speaks_saving {status : OrderStatus} {dated : Order} (ready : Ready status order phase)
    (same : SameSale order dated) (previousStatus : OrderStatus) :
    (do
      let updatedOrder := { dated with status }
      single (.saveOrder updatedOrder)
      single (.emit (.orderUpdated updatedOrder.id updatedOrder.buyerId
        updatedOrder.status previousStatus))
      if status = .completed then
        single (.emit (.orderCompleted updatedOrder.id updatedOrder.buyerId
          updatedOrder.totalAmount))
      pure updatedOrder : Update Order).Speaks updates
        (orderDialogue orderId call) (fun _ _ _ => True) past phase := by
  refine speaks_perform_bind (OrderAllows.saves ready rfl ⟨same.id, same.buyerId, same.totalAmount⟩)
    (fun met => ?_) fun _ _ _ => trivial
  have saved : (orderDialogue orderId call).acted phase
      (.single (.saveOrder { dated with status })) met = .saved status { dated with status } := by
    cases ready <;> rfl
  rw [saved]
  refine speaks_perform_bind OrderAllows.announces (fun met => ?_) nofun
  apply speaks_branch
  · rintro rfl
    exact speaks_perform_bind OrderAllows.completes (fun met => trivial) nofun
  · exact fun _ => trivial

theorem speaks_updateStatus (dto : UpdateOrderStatusDto) :
    (OrderUpdates.updateStatus orderId dto).Speaks updates
      (orderDialogue orderId call) (fun _ _ _ => True) past (.asked dto.status) := by
  apply speaks_bind
  refine speaks_perform_bind OrderAllows.finds (fun met => ?_) fun _ _ _ => trivial
  cases found : (updates.act (.single (.findOrder orderId)) met).1 with
  | none => trivial
  | some order =>
    have read : (orderDialogue orderId call).acted (.asked dto.status)
        (.single (.findOrder orderId)) met = if dto.status ∈
            orderTransitionValidator.validTransitions order.status
          then .checked dto.status order else .ended := by
      simp only [orderDialogue, orderActed]
      rw [show met.world.db.orders.row orderId = some order from found]
    rw [read]
    apply speaks_bind
    rcases orderTransitionValidator.validate_cases order.status
      dto.status with ⟨allowed, accepted⟩ | ⟨-, error, refused⟩
    · rw [if_pos allowed, accepted]
      apply speaks_bind
      apply (speaks_applyStatus order dto.status).mono
      rintro (error | dated) past phase ready
      · trivial
      · exact speaks_saving ready.1 ready.2 order.status
    · rw [refused]
      trivial

theorem speaks_handleOrderCompleted (userId : Id) (totalAmount : Amount) :
    ((OrderCompletedListener.handleOrderCompleted userId orderId
      totalAmount).expand single).Speaks updates (orderDialogue orderId call)
        (fun _ _ _ => True) past (.granting userId totalAmount) := by
  unfold OrderCompletedListener.handleOrderCompleted
    RewardsService.grantPointsForOrder RewardsService.createReward
  by_cases nothing : ⌊totalAmount * RewardsService.pointsPerDollar⌋ ≤ 0
  · simp only [if_pos nothing]
    trivial
  · simp only [if_neg nothing]
    refine ⟨.sums, fun met => ⟨?_, fun _ error => trivial⟩⟩
    refine ⟨.grants ?_ rfl rfl, fun met =>
      ⟨trivial, fun _ error => trivial⟩⟩
    simp [earnedWith]

theorem speaks_orderCall (call : OrderCall) :
    (call.program orderId).Speaks updates (orderDialogue orderId call)
      (fun _ _ _ => True) [] call.start := by
  cases call with
  | updateStatus dto =>
    apply speaks_bind
    apply (speaks_updateStatus dto).mono
    rintro (error | order) _ _ _ <;> trivial
  | handleOrderCompleted userId totalAmount => exact speaks_handleOrderCompleted userId totalAmount

end

/-! ### What every turn keeps -/

abbrev OrderCast := Cast updateSignature Tracked HttpException OrderCall OrderPhase

def OrderPhase.order? : OrderPhase → Option Order
  | .checked _ order | .settled _ order | .saved _ order => some order
  | _ => none

/-- The call has changed the inventory for the status and not yet saved the
order. -/
def OrderPhase.awaitsSave (status : OrderStatus) : OrderPhase → Bool
  | .settled target _ => target = status
  | _ => false

def OrderPhase.awaitsCompletion : OrderPhase → Bool
  | .saved .completed _ => true
  | _ => false

theorem passed_append (first : OrderStatus) (trail marks : List Mark) :
    passed first (trail ++ marks) = passed first trail ++ marks.filterMap Mark.entered? := by
  simp [passed]

/-- The row has the latest status, and it and all that the calls have read is
the order of before; a status that changes the inventory is entered by a call
that has changed it, and a completion announced by a call that has entered
it. -/
structure Kept (orderId : Id) (first : Order) (recorded : Tracked)
    (cast : OrderCast) : Prop where
  row : ∃ order, recorded.world.db.orders.row orderId = some order ∧
    some order.status = (passed first.status recorded.trail).getLast? ∧ SameSale first order
  read : ∀ role ∈ cast, ∀ order ∈ role.2.order?, SameSale first order
  settled : ∀ status, status = .paid ∨ status = .cancelled →
    recorded.trail.count (.entered status) + cast.countP (fun role => role.2.awaitsSave status) ≤
      recorded.trail.count (.inventory status)
  announced :
    recorded.trail.countP Mark.isCompletion + cast.countP (fun role => role.2.awaitsCompletion) ≤
      recorded.trail.count (.entered .completed)
  completions : ∀ userId totalAmount, .completed userId totalAmount ∈ recorded.trail →
      userId = first.buyerId ∧ totalAmount = first.totalAmount

section

variable {orderId : Id} {first : Order} {recorded state : Tracked} {front back : OrderCast}
  {thread moved : Thread updateSignature Tracked HttpException OrderCall} {phase after : OrderPhase}

variable {cast : OrderCast} {marks : List Mark} {order : Order} {op : UpdateOp}
  {status : OrderStatus}

theorem Kept.sameRow (kept : Kept orderId first recorded cast)
    (orders : state.world.db.orders = recorded.world.db.orders)
    (trail : state.trail = recorded.trail ++ marks)
    (none : marks.filterMap Mark.entered? = []) :
    ∃ order, state.world.db.orders.row orderId = some order ∧
      some order.status = (passed first.status state.trail).getLast? ∧
        SameSale first order := by
  rw [orders, trail, passed_append, none, List.append_nil]
  exact kept.row

theorem Kept.moves (kept : Kept orderId first recorded (front ++ (thread, phase) :: back))
    (trail : state.trail = recorded.trail ++ marks)
    (row : ∃ order, state.world.db.orders.row orderId = some order ∧
      some order.status = (passed first.status state.trail).getLast? ∧ SameSale first order)
    (read : ∀ order ∈ after.order?, SameSale first order)
    (settled : ∀ status, status = .paid ∨ status = .cancelled → marks.count (.entered status) +
          (if after.awaitsSave status then 1 else 0) ≤ marks.count (.inventory status) +
          if phase.awaitsSave status then 1 else 0) (announced : marks.countP Mark.isCompletion +
        (if after.awaitsCompletion then 1 else 0) ≤ marks.count (.entered .completed) +
        if phase.awaitsCompletion then 1 else 0) (completions : ∀ userId totalAmount,
      .completed userId totalAmount ∈ marks →
        userId = first.buyerId ∧ totalAmount = first.totalAmount) :
    Kept orderId first state (front ++ (moved, after) :: back) := by
  refine ⟨row, ?_, ?_, ?_, ?_⟩
  · intro role member
    rcases mem_replaced member with rfl | other <;> grind [mem_replaced, read]
  · intro status changes
    have before := kept.settled status changes
    grind
  · have before := kept.announced
    grind
  · grind [completions]

theorem Kept.quiet (kept : Kept orderId first recorded (front ++ (thread, phase) :: back))
    (orders : state.world.db.orders = recorded.world.db.orders)
    (trail : state.trail = recorded.trail) (read : ∀ order ∈ after.order?, SameSale first order)
    (settled : ∀ status, after.awaitsSave status = true → phase.awaitsSave status = true)
    (announced : after.awaitsCompletion = true → phase.awaitsCompletion = true) :
    Kept orderId first state (front ++ (moved, after) :: back) := by
  have marked : state.trail = recorded.trail ++ [] := by simp [trail]
  refine kept.moves marked (kept.sameRow orders marked rfl) read ?_ ?_ nofun
  · grind
  · split
    next awaits => simp [announced awaits]
    next => simp

theorem Kept.idle (kept : Kept orderId first recorded (front ++ (thread, phase) :: back))
    (orders : state.world.db.orders = recorded.world.db.orders)
    (trail : state.trail = recorded.trail) (idle : after.order? = none) :
    Kept orderId first state (front ++ (moved, after) :: back) := by
  refine kept.quiet orders trail ?_ ?_ ?_
  · simp [idle]
  · intro status awaits
    cases after with
    | checked | settled | saved => cases idle
    | asked | granting | ended => simp [OrderPhase.awaitsSave] at awaits
  · intro awaits
    cases after with
    | checked | settled | saved => cases idle
    | asked | granting | ended => simp [OrderPhase.awaitsCompletion] at awaits

theorem Kept.known (kept : Kept orderId first recorded (front ++ (thread, phase) :: back))
    (known : phase.order? = some order) :
    SameSale first order := kept.read (thread, phase) (by simp) order known

theorem trail_unmarked (unmarked : markIn op recorded.world = none) :
    (updates.act op recorded).2.trail = recorded.trail := by
  show recorded.trail ++ (markIn op recorded.world).toList = _
  rw [unmarked]
  exact List.append_nil _

theorem trail_marked {mark : Mark} (marked : markIn op recorded.world = some mark) :
    (updates.act op recorded).2.trail = recorded.trail ++ [mark] := by
  show recorded.trail ++ (markIn op recorded.world).toList = _
  rw [marked]
  rfl

/-- A transaction of the inventory service: it has marked its status, and the
call has to save the order, or it has failed, and the call is over. -/
theorem kept_inventory
    (kept : Kept orderId first recorded (front ++ (thread, .checked status order) :: back))
    (quiet : quietStep op = true) (outcome :
      (markIn op recorded.world = some (.inventory status) ∧
          orderActed orderId (.checked status order) op recorded = .settled status order) ∨
        (markIn op recorded.world = none ∧
          orderActed orderId (.checked status order) op recorded = .ended)) :
    Kept orderId first (updates.act op recorded).2
      (front ++ (moved, orderActed orderId (.checked status order) op recorded) :: back) := by
  have orders : (updates.act op recorded).2.world.db.orders =
      recorded.world.db.orders :=
    (sameSales_step op quiet recorded.world).orders
  rcases outcome with ⟨marked, settled⟩ | ⟨unmarked, ended⟩
  · rw [settled]
    have trail := trail_marked marked
    refine kept.moves trail (kept.sameRow orders trail rfl) ?_ ?_ ?_ nofun
    · rintro _ ⟨⟩
      exact kept.known rfl
    · simp [OrderPhase.awaitsSave, List.count_singleton]
    · simp [OrderPhase.awaitsCompletion, Mark.isCompletion]
  · rw [ended]
    exact kept.idle orders (trail_unmarked unmarked) rfl

theorem kept_saves {updated : Order}
    (kept : Kept orderId first recorded (front ++ (thread, phase) :: back))
    (ready : Ready status order phase) (entered : updated.status = status)
    (same : SameSale order updated) :
    Kept orderId first (updates.act (.single (.saveOrder updated)) recorded).2
      (front ++ (moved, orderActed orderId phase
        (.single (.saveOrder updated)) recorded) :: back) := by
  have saved : orderActed orderId phase (.single (.saveOrder updated))
      recorded = .saved status updated := by
    cases ready <;> rfl
  have known : phase.order? = some order := by
    cases ready <;> rfl
  have trail : (updates.act (.single (.saveOrder updated)) recorded).2.trail =
      recorded.trail ++ [.entered updated.status] := rfl
  have sameAsFirst := (kept.known known).trans same
  rw [saved]
  refine kept.moves trail ?_ ?_ ?_ ?_ ?_
  · obtain ⟨before, stored, -, sameBefore⟩ := kept.row
    have id : orderId = updated.id := by
      rw [sameAsFirst.id, ← sameBefore.id]
      exact (recorded.world.db.orders.keyed stored).symm
    refine ⟨updated, ?_, ?_, sameAsFirst⟩
    · rw [id]
      exact Table.row_save_self recorded.world.db.orders updated
    · rw [trail, passed_append]
      simp [Mark.entered?]
  · rintro _ ⟨⟩
    exact sameAsFirst
  · intro other changes
    rw [entered]
    cases ready <;> grind [OrderPhase.awaitsSave]
  · rw [entered]
    cases status <;> simp [OrderPhase.awaitsCompletion, Mark.isCompletion]
  · intro _ _ member
    cases List.mem_singleton.mp member

theorem kept_acts (kept : Kept orderId first recorded (front ++ (thread, phase) :: back))
    (allowed : OrderAllows orderId phase op) :
    Kept orderId first (updates.act op recorded).2
      (front ++ (moved, orderActed orderId phase op recorded) :: back) := by
  cases allowed with
  | @finds status =>
    obtain ⟨order, stored, -, same⟩ := kept.row
    rw [orderActed, stored]
    simp only
    split
    · refine kept.quiet rfl (trail_unmarked rfl) ?_ ?_ ?_
      · rintro _ ⟨⟩
        exact same
      · simp [OrderPhase.awaitsSave]
      · simp [OrderPhase.awaitsCompletion]
    · exact kept.idle rfl (trail_unmarked rfl) rfl
  | @confirms order =>
    apply kept_inventory kept rfl
    rw [markIn, orderActed]
    cases (stepAct (.confirmOrder order) recorded.world).1 with
    | ok value => exact .inl ⟨rfl, rfl⟩
    | error error => exact .inr ⟨rfl, rfl⟩
  | @cancels order =>
    apply kept_inventory kept rfl
    rw [markIn, orderActed]
    cases (stepAct (.cancelOrder order) recorded.world).1 with
    | ok value => exact .inl ⟨rfl, rfl⟩
    | error error => exact .inr ⟨rfl, rfl⟩
  | looks =>
    have stays : orderActed orderId phase (.single .dateNow) recorded =
        phase := by
      cases phase <;> rfl
    rw [stays]
    exact kept.quiet rfl (trail_unmarked rfl) (fun order known => kept.known known) (fun _ => id) id
  | saves ready moved same => exact kept_saves kept ready moved same
  | @announces status previousStatus order =>
    have stays : orderActed orderId (.saved status order)
        (.single (.emit (.orderUpdated order.id order.buyerId order.status
          previousStatus))) recorded = .saved status order := rfl
    exact kept.quiet rfl (trail_unmarked rfl) (fun order known => kept.known known) (fun _ => id) id
  | @completes order =>
    have same := kept.known rfl
    have ended : orderActed orderId (.saved .completed order)
        (.single (.emit (.orderCompleted order.id order.buyerId
          order.totalAmount))) recorded = .ended := rfl
    rw [ended]
    have trail : (updates.act (.single (.emit (.orderCompleted order.id
        order.buyerId order.totalAmount))) recorded).2.trail = recorded.trail ++
            [.completed order.buyerId order.totalAmount] := rfl
    refine kept.moves trail (kept.sameRow rfl trail rfl) ?_ ?_ ?_ ?_
    · simp [OrderPhase.order?]
    · simp [OrderPhase.awaitsSave]
    · simp [OrderPhase.awaitsCompletion, Mark.isCompletion]
    · rintro _ _ member
      cases List.mem_singleton.mp member
      exact ⟨same.buyerId, same.totalAmount⟩
  | @sums userId totalAmount =>
    have stays : orderActed orderId (.granting userId totalAmount)
        (.single (.sumPoints userId)) recorded =
          .granting userId totalAmount := rfl
    exact kept.idle rfl (trail_unmarked rfl) rfl
  | @grants userId totalAmount reward earned user points =>
    have ended : orderActed orderId (.granting userId totalAmount)
        (.single (.insertReward reward)) recorded = .ended := rfl
    exact kept.idle rfl (trail_unmarked rfl) rfl

theorem kept_start {start : World} (stored : start.db.orders.row orderId = some first) :
    Kept orderId first ⟨start, []⟩ [] :=
  ⟨⟨first, stored, rfl, rfl, rfl, rfl⟩, by simp, by simp, by simp, by simp⟩

theorem Kept.spawns (kept : Kept orderId first recorded cast) (call : OrderCall) :
    Kept orderId first recorded (cast ++ [(thread, call.start)]) := by
  refine ⟨kept.row, ?_, ?_, ?_, kept.completions⟩
  · intro role member
    rcases List.mem_append.mp member with old | new
    · exact kept.read role old
    · rw [List.mem_singleton.mp new]
      cases call <;> simp [OrderCall.start, OrderPhase.order?]
  · intro status changes
    have idle : call.start.awaitsSave status = false := by
      cases call <;> rfl
    simpa [List.countP_append, idle] using kept.settled status changes
  · have idle : call.start.awaitsCompletion = false := by
      cases call <;> rfl
    simpa [List.countP_append, idle] using kept.announced

theorem kept_spoke {pool : OrderPool} {later : OrderCast}
    {turn : OrderTurn} (kept : Kept orderId first pool.state cast)
    (spoke : Pool.Spoke updates (OrderCall.program orderId)
      (besidesOrder orderId) (orderDialogue orderId) pool cast turn state
      later) : Kept orderId first state later := by
  cases spoke with
  | stays => exact kept
  | changes => exact ⟨kept.row, kept.read, kept.settled, kept.announced, kept.completions⟩
  | @spawns call => exact kept.spawns call
  | @acts _ front back thread phase op rest split moves allowed acts =>
    subst split
    exact kept_acts kept allowed
  | @fails _ front back thread phase op error rest split moves allowed exposed throws =>
    subst split
    exact kept.idle rfl rfl rfl

end

/-! ### In turn -/

def stage : OrderStatus → ℕ
  | .pending => 0
  | .manualReview => 1
  | .confirmed => 2
  | .processing => 3
  | .paid => 4
  | .shipped => 5
  | .delivered => 6
  | .completed => 7
  | .refunded => 8
  | .cancelled => 9

variable {status last : OrderStatus} {path : List OrderStatus} {trail : List Mark}

theorem stage_lt {next : OrderStatus} (follows : Follows status next) :
    stage status < stage next := by
  have member : next ∈ orderTransitionValidator.validTransitions status := follows
  revert member
  cases status <;> cases next <;> decide

theorem stage_path (chain : path.IsChain Follows) :
    path.Pairwise fun status next => stage status < stage next := by
  have rising : path.IsChain fun status next =>
      stage status < stage next := chain.imp fun _ _ => stage_lt
  exact List.isChain_iff_pairwise.mp rising

theorem path_nodup (chain : path.IsChain Follows) :
    path.Nodup :=
  (stage_path chain).imp fun less same => by
    rw [same] at less
    exact less.false

theorem path_extends (chain : path.IsChain Follows) (ends : path.getLast? = some last)
    (follows : Follows last status) : (path ++ [status]).IsChain Follows := by
  simp_all [List.isChain_append]

theorem stage_extends (chain : path.IsChain Follows)
    (ends : path.getLast? = some last) (follows : Follows last status) :
    ∀ earlier ∈ path, stage earlier < stage status := by
  intro earlier member
  have rising := stage_path (path_extends chain ends follows)
  simp_all [List.pairwise_append]

theorem allEntered_count (all : allEntered trail = true) (status : OrderStatus) :
    trail.count (.inventory status) ≤ trail.count (.entered status) := by
  by_cases member : .inventory status ∈ trail
  · simpa using List.all_eq_true.mp all _ member
  · rw [List.count_eq_zero.mpr member]
    exact Nat.zero_le _

theorem mem_passed {first : OrderStatus}
    (member : .entered status ∈ trail) : status ∈ passed first trail :=
  List.mem_cons_of_mem _ (List.mem_filterMap.mpr ⟨_, member, rfl⟩)

/-- What the marks alone have to be like. -/
structure Regular (first : OrderStatus) (trail : List Mark) : Prop where
  path : (passed first trail).IsChain Follows
  inventoryOnce : ∀ status, trail.count (.inventory status) ≤ 1
  paidBefore : ∀ front back, trail = front ++ .inventory .cancelled :: back →
    .inventory .paid ∈ trail → .entered .paid ∈ front

theorem split_last {front back : List Mark} {new mark : Mark}
    (split : trail ++ [new] = front ++ mark :: back) :
    (front = trail ∧ mark = new) ∨
      ∃ rest, back = rest ++ [new] ∧ trail = front ++ mark :: rest := by
  rcases List.eq_nil_or_concat back with rfl | ⟨rest, last, rfl⟩
  · simp_all
  · grind [List.append_inj']

section

variable {first last status : OrderStatus} {trail : List Mark}

theorem Regular.entered (regular : Regular first trail)
    (ends : (passed first trail).getLast? = some last) (follows : Follows last status) :
    Regular first (trail ++ [.entered status]) := by
  refine ⟨?_, ?_, ?_⟩
  · rw [passed_append]
    exact path_extends regular.path ends follows
  · intro other
    simpa using regular.inventoryOnce other
  · intro front back split member
    rcases split_last split with ⟨-, same⟩ | ⟨rest, -, before⟩
    · cases same
    · have earlier : .inventory .paid ∈ trail := by simpa using member
      exact regular.paidBefore front rest before earlier

/-- The inventory is changed for a status that the last one leads to, and
after every change before its status has been entered. -/
theorem Regular.inventory (regular : Regular first trail)
    (ends : (passed first trail).getLast? = some last)
    (follows : Follows last status) (all : allEntered trail = true) :
    Regular first (trail ++ [.inventory status]) := by
  have before := stage_extends regular.path ends follows
  have present : ∀ {other}, .inventory other ∈ trail → .entered other ∈ trail := by
    intro other member
    have counted := List.count_pos_iff.mpr member
    exact List.count_pos_iff.mp (counted.trans_le (allEntered_count all other))
  refine ⟨?_, ?_, ?_⟩
  · rw [passed_append]
    exact (List.append_nil (passed first trail)).symm ▸ regular.path
  · intro other
    by_cases same : status = other
    · grind [mem_passed]
    · simpa [same] using regular.inventoryOnce other
  · intro front back split member
    rcases split_last split with ⟨rfl, same⟩ | ⟨rest, -, earlier⟩
    · cases same
      apply present
      simpa using member
    · rcases List.mem_append.mp member with old | new
      · exact regular.paidBefore front rest earlier old
      · -- nothing is paid after it has been cancelled
        cases List.mem_singleton.mp new
        have cancelled : .inventory .cancelled ∈ trail := by simp [earlier]
        have less := before .cancelled (mem_passed (present cancelled))
        exact absurd less (by decide)

theorem Regular.completed (regular : Regular first trail) (userId : Id) (totalAmount : Amount) :
    Regular first (trail ++ [.completed userId totalAmount]) := by
  refine ⟨?_, ?_, ?_⟩
  · rw [passed_append]
    exact (List.append_nil (passed first trail)).symm ▸ regular.path
  · intro other
    simpa using regular.inventoryOnce other
  · intro front back split member
    rcases split_last split with ⟨-, same⟩ | ⟨rest, -, before⟩
    · cases same
    · have earlier : .inventory .paid ∈ trail := by simpa using member
      exact regular.paidBefore front rest before earlier

theorem Regular.marked {orderId : Id} {recorded : Tracked} {order : Order}
    {mark : Mark} (regular : Regular first recorded.trail)
    (stored : recorded.world.db.orders.row orderId = some order)
    (ends : some order.status = (passed first recorded.trail).getLast?)
    (inTime : InTime orderId recorded mark) :
    Regular first (recorded.trail ++ [mark]) := by
  cases mark with
  | inventory status => exact regular.inventory ends.symm (inTime.1 order stored) inTime.2
  | entered status => exact regular.entered ends.symm (inTime order stored)
  | completed userId totalAmount => exact regular.completed userId totalAmount

end

/-! ### Whole runs -/

section

variable {orderId : Id} {first : Order}

/-- What holds of the order as long as everybody acts in turn. -/
structure Sound (orderId : Id) (first : Order) (recorded : Tracked)
    (cast : OrderCast) : Prop where
  kept : Kept orderId first recorded cast
  regular : Regular first.status recorded.trail

theorem sound_spoke {pool : OrderPool} {cast later : OrderCast} {turn : OrderTurn} {state : Tracked}
    (sound : Sound orderId first pool.state cast) (inTurn : InTurn orderId pool turn)
    (spoke : Pool.Spoke updates (OrderCall.program orderId)
      (besidesOrder orderId) (orderDialogue orderId) pool cast turn state
      later) : Sound orderId first state later := by
  refine ⟨kept_spoke sound.kept spoke, ?_⟩
  cases spoke with
  | stays | spawns | changes | fails => exact sound.regular
  | @acts _ front back thread phase op rest split moves allowed acts =>
    obtain ⟨order, stored, ends, -⟩ := sound.kept.row
    show Regular first.status (pool.state.trail ++ (markIn op pool.state.world).toList)
    cases marked : markIn op pool.state.world with
    | none => exact (List.append_nil pool.state.trail).symm ▸ sound.regular
    | some mark => exact sound.regular.marked stored ends (inTurn _ moves acts mark marked)

theorem count_entered (trail : List Mark) (status : OrderStatus) :
    trail.count (.entered status) = (trail.filterMap Mark.entered?).count status := by
  induction trail with
  | nil => rfl
  | cons mark rest ih => cases mark <;> grind [Mark.entered?]

theorem orderly_of_sound {recorded : Tracked} {cast : OrderCast}
    (sound : Sound orderId first recorded cast) :
    Orderly orderId first.status recorded := by
  obtain ⟨order, stored, ends, -⟩ := sound.kept.row
  have once := path_nodup sound.regular.path
  refine ⟨sound.regular.path, ?_, once, sound.regular.inventoryOnce, sound.regular.paidBefore, ?_⟩
  · rw [stored]
    exact ends
  · have announced := sound.kept.announced
    have entered : recorded.trail.count (.entered .completed) ≤ 1 := by
      rw [count_entered]
      exact List.nodup_iff_count_le_one.mp once.of_cons _
    omega

theorem sound_run {start : World} (stored : start.db.orders.row orderId = some first)
    {turns : List OrderTurn} (inTurn : Along (orderRace orderId) (InTurn orderId) ⟨⟨start, []⟩, []⟩
      turns) :
    ∃ cast, Sound orderId first (run (orderRace orderId) ⟨⟨start, []⟩, []⟩ turns).state cast := by
  obtain ⟨cast, -, sound⟩ := Pool.spoken_invariant (Sound orderId first) speaks_orderCall
    (fun _ _ _ _ _ _ sound inTurn spoke => sound_spoke sound inTurn spoke)
    ⟨kept_start stored, List.isChain_singleton _, by simp, by simp⟩ inTurn
  exact ⟨cast, sound⟩

end

/-- In every interleaving in which everybody who changes the inventory or
saves the order does so in turn: the order moves along the table without ever
coming back to a status, its inventory is changed at most once for each
status, and its completion is announced at most once. -/
theorem updates_orderly {orderId : Id} {order : Order} {start : World}
    (stored : start.db.orders.row orderId = some order) {turns : List OrderTurn}
    (inTurn : Along (orderRace orderId) (InTurn orderId) ⟨⟨start, []⟩, []⟩ turns) :
    Orderly orderId order.status (run (orderRace orderId) ⟨⟨start, []⟩, []⟩ turns).state := by
  obtain ⟨cast, sound⟩ := sound_run stored inTurn
  exact orderly_of_sound sound

/-- Two lamps that are about to be paid for. -/
def lampsInProcessing : Order where
  id := 0
  buyerId := 7
  totalAmount := 200
  status := .processing
  items :=
    [{ productId := 0, productName := "lamp", quantity := 2, price := 100
       subtotal := 200, priceCurrency := .USD, quantity_pos := pair_positive }]

def lampShop : World := openShop.withOrder lampsInProcessing

def requests (statuses : List OrderStatus) : List OrderTurn :=
  statuses.map fun status => .spawn (.updateStatus { status })

/-- So many steps of one call, none failing. -/
def orderTurns (index count : ℕ) : List OrderTurn := List.replicate count (.perform index none)

/-- Paid, and then cancelled, while a delivery is refused. -/
theorem paid_then_cancelled :
    Orderly 0 lampsInProcessing.status (run (orderRace 0) ⟨⟨lampShop, []⟩, []⟩
        (requests [.paid, .cancelled, .delivered] ++ orderTurns 0 5 ++
          orderTurns 2 1 ++ orderTurns 1 5)).state :=
  updates_orderly (by decide) (by decide)

/-- Two requests read that the order is in processing, and both sell its
lamps. -/
theorem lamps_sold_twice :
    lampShop.db.orders.row 0 = some lampsInProcessing ∧ ¬ Orderly 0 .processing
        (run (orderRace 0) ⟨⟨lampShop, []⟩, []⟩
          (requests [.paid, .paid] ++ orderTurns 0 1 ++ orderTurns 1 1 ++
            orderTurns 0 4 ++ orderTurns 1 4)).state := by
  refine ⟨by decide, fun orderly => ?_⟩
  have once := orderly.inventoryOnce .paid
  exact absurd once (by decide)

end MarketX.Commerce
