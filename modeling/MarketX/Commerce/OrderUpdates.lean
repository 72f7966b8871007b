/-
Module: MarketX.Commerce.OrderUpdates
Purpose: Status updates of one order side by side: `updateStatus` in the steps
  that the database makes atomic, the listener its event reaches, and a record
  of what has been done to the order.
Trusted boundary: human-reviewed model of the source; the transactions of the
  inventory service are taken whole, and one that fails leaves nothing behind
Main exports: UpdateOp, Mark, Tracked, steps
-/
import MarketX.Effects.Dialogues
import MarketX.Effects.Schedules
import MarketX.Commerce.RewardsService
import MarketX.Commerce.Rules

namespace MarketX.Commerce

open Effects Handler

/-! ### Atomic steps -/

/-- The two transactions on the inventory, each as a whole, and a call outside
of any transaction. -/
inductive UpdateOp where
  | confirmOrder (order : Order)
  | cancelOrder (order : Order)
  | single (op : Op)

@[reducible] def UpdateReply : UpdateOp → Type
  | .confirmOrder _ | .cancelOrder _ => Except HttpException Unit
  | .single op => Reply op

abbrev updateSignature : Signature := ⟨UpdateOp, UpdateReply⟩

abbrev Update (α : Type) := Program updateSignature HttpException α

/-- What has been done to the order: the inventory has been changed for a
status, the order has entered a status, its completion has been announced. -/
inductive Mark where
  | inventory (status : OrderStatus)
  | entered (status : OrderStatus)
  | completed (userId : Id) (totalAmount : Amount)
deriving DecidableEq

/-- The shop, and what has been done, the latest last. -/
structure Tracked where
  world : World
  trail : List Mark := []

/-- What each step does to the shop. -/
def stepAct : (op : UpdateOp) → World → UpdateReply op × World
  | .confirmOrder order, world => commerce.exec (InventoryService.confirmOrder order) [] world
  | .cancelOrder order, world => commerce.exec (InventoryService.cancelOrder order) [] world
  | .single op, world => act op world

def stepMayFail : UpdateOp → Bool
  | .confirmOrder _ | .cancelOrder _ => true
  | .single op => mayFail op

/-- The steps on the shop. -/
def steps : Handler updateSignature World := ⟨stepAct, stepMayFail⟩

/-- The mark a step leaves. -/
def markOf : (op : UpdateOp) → UpdateReply op → Option Mark
  | .confirmOrder _, .ok () => some (.inventory .paid)
  | .cancelOrder _, .ok () => some (.inventory .cancelled)
  | .single (.saveOrder order), _ => some (.entered order.status)
  | .single (.emit (.orderCompleted _ userId totalAmount)), _ =>
    some (.completed userId totalAmount)
  | _, _ => none

/-- The mark that a step leaves in this state, if it acts. -/
def markIn (op : UpdateOp) (world : World) : Option Mark := markOf op (stepAct op world).1

/-- The steps, recorded. -/
def updates : Handler updateSignature Tracked where
  act op recorded :=
    ((stepAct op recorded.world).1,
      { world := (stepAct op recorded.world).2
        trail := recorded.trail ++ (markIn op recorded.world).toList })
  mayFail := stepMayFail

/-- A call of the shop as a step. -/
def single (op : Op) : Update (Reply op) := Program.perform (S := updateSignature) (.single op)

namespace OrderUpdates

def confirmOrder (order : Order) : Update Unit :=
  Program.perform (S := updateSignature) (.confirmOrder order) >>= Program.rethrow pure

def cancelOrder (order : Order) : Update Unit :=
  Program.perform (S := updateSignature) (.cancelOrder order) >>= Program.rethrow pure

def findOne (id : Id) : Update Order := do
  match ← single (.findOrder id) with
  | none => throw (.notFound s!"Order with ID \"{id}\" not found")
  | some order => pure order

def applyStatus (order : Order) : OrderStatus → Update Order
  | .paid => do
      confirmOrder order
      let now ← single .dateNow
      pure { order with paymentStatus := .paid, confirmedAt := some now }
  | .cancelled => do
      cancelOrder order
      let now ← single .dateNow
      pure { order with cancelledAt := some now }
  | .shipped => do
      let now ← single .dateNow
      pure { order with shippedAt := some now }
  | .delivered => do
      let now ← single .dateNow
      pure { order with deliveredAt := some now }
  | _ => pure order

def updateStatus (id : Id) (dto : UpdateOrderStatusDto) : Update Order := do
  let order ← findOne id
  let previousStatus := order.status
  ofExcept (orderTransitionValidator.validate previousStatus dto.status)
  let dated ← applyStatus order dto.status
  let updatedOrder := { dated with status := dto.status }
  single (.saveOrder updatedOrder)
  single (.emit (.orderUpdated updatedOrder.id updatedOrder.buyerId
    updatedOrder.status previousStatus))
  if dto.status = .completed then
    single (.emit (.orderCompleted updatedOrder.id updatedOrder.buyerId updatedOrder.totalAmount))
  pure updatedOrder

end OrderUpdates

/-! ### The steps stand for the service -/

/-- The program each step stands for. -/
def stepMeaning : (op : UpdateOp) → Service (UpdateReply op)
  | .confirmOrder order => (InventoryService.confirmOrder order).attempt
  | .cancelOrder order => (InventoryService.cancelOrder order).attempt
  | .single op => await op

theorem expand_single (op : Op) :
    (single op).expand stepMeaning = await op :=
  expand_perform (S := updateSignature) (UpdateOp.single op)

theorem expand_ofExcept {α : Type} (outcome : Except HttpException α) :
    (ofExcept outcome : Update α).expand stepMeaning = ofExcept outcome := by
  cases outcome <;> rfl

theorem expand_transaction {step : Update (Except HttpException Unit)}
    {body : Service Unit} (means : step.expand stepMeaning = body.attempt) :
    (step >>= Program.rethrow pure).expand stepMeaning = body := by
  have outcome : ∀ reply, (Program.rethrow (S := updateSignature) (ε := HttpException) pure
        reply).expand stepMeaning = (Program.rethrow pure reply : Service Unit) := by
    intro reply
    cases reply <;> rfl
  rw [expand_then means outcome, attempt_rethrow, Effects.bind_pure]

theorem expand_confirmOrder (order : Order) :
    (OrderUpdates.confirmOrder order).expand stepMeaning =
      InventoryService.confirmOrder order :=
  expand_transaction (expand_perform (S := updateSignature) (UpdateOp.confirmOrder order))

theorem expand_cancelOrder (order : Order) :
    (OrderUpdates.cancelOrder order).expand stepMeaning =
      InventoryService.cancelOrder order :=
  expand_transaction (expand_perform (S := updateSignature) (UpdateOp.cancelOrder order))

theorem expand_findOne (id : Id) :
    (OrderUpdates.findOne id).expand stepMeaning =
      OrdersService.findOne id := by
  apply expand_then (expand_single (.findOrder id))
  intro found
  cases found <;> rfl

theorem expand_applyStatus (order : Order) (status : OrderStatus) :
    (OrderUpdates.applyStatus order status).expand stepMeaning =
      OrdersService.applyStatus order status := by
  cases status with
  | paid =>
    refine expand_then (expand_confirmOrder order) fun _ => ?_
    exact expand_then (expand_single .dateNow) fun _ => rfl
  | cancelled =>
    refine expand_then (expand_cancelOrder order) fun _ => ?_
    exact expand_then (expand_single .dateNow) fun _ => rfl
  | shipped | delivered => exact expand_then (expand_single .dateNow) fun _ => rfl
  | pending | confirmed | processing | completed | refunded
  | manualReview => rfl

/-- With each step replaced by what it stands for, the call is the method of
the orders service. -/
theorem updateStatus_expand (id : Id) (dto : UpdateOrderStatusDto) :
    (OrderUpdates.updateStatus id dto).expand stepMeaning =
      OrdersService.updateStatus id dto := by
  refine expand_then (expand_findOne id) fun order => ?_
  refine expand_then (expand_ofExcept _) fun _ => ?_
  refine expand_then (expand_applyStatus order dto.status) fun dated => ?_
  refine expand_then (expand_single (.saveOrder _)) fun _ => ?_
  refine expand_then (expand_single (.emit _)) fun _ => ?_
  split
  · exact expand_then (expand_single (.emit _)) fun _ => rfl
  · rfl

theorem exec_updateStatus (id : Id) (dto : UpdateOrderStatusDto) (world : World) :
    commerce.exec (OrdersService.updateStatus id dto) [] world =
      steps.exec (OrderUpdates.updateStatus id dto) [] world := by
  have stands : ∀ op world, commerce.exec (stepMeaning op) [] world =
      (.ok (steps.act op world).1, (steps.act op world).2) := by
    intro op world
    cases op with
    | confirmOrder order => exact commerce.exec_attempt _ world
    | cancelOrder order => exact commerce.exec_attempt _ world
    | single op => rfl
  rw [← updateStatus_expand]
  exact exec_expand stands _ world

/-! ### What the inventory leaves alone -/

/-- The orders and the points are the same. -/
structure SameSales (world after : World) : Prop where
  orders : after.db.orders = world.db.orders
  rewards : after.db.rewards = world.db.rewards

instance : IsPreorder World SameSales where
  refl _ := ⟨rfl, rfl⟩
  trans _ _ _ first second :=
    ⟨second.orders.trans first.orders, second.rewards.trans first.rewards⟩

/-- The calls that write orders or points. -/
def writesSales : Op → Bool
  | .rollback _ | .insertOrder _ | .saveOrder _ | .insertReward _ => true
  | _ => false

theorem sameSales_act (op : Op) (quiet : writesSales op = false)
    (world : World) : SameSales world (act op world).2 := by
  cases op with
  | saveListingEntity listing =>
    rw [act]
    split <;> exact ⟨rfl, rfl⟩
  | _ => first | exact ⟨rfl, rfl⟩ | cases quiet

theorem sales_await (op : Op) (quiet : writesSales op = false) :
    (commerce.shield noneSpared).Respects SameSales (await op) :=
  Respects.perform (S := signature) op (sameSales_act op quiet)

theorem sales_transaction {α : Type} {body : Service α}
    (respects : (commerce.shield noneSpared).Respects SameSales body) :
    (commerce.shield noneSpared).Respects SameSales (transaction body) := by
  intro world
  apply wp_transaction
  · apply Handler.wp_mono _ (respects world)
    intro result after moved
    have restored : SameSales world (after.withTables world.db) := ⟨rfl, rfl⟩
    cases result with
    | ok value => exact ⟨moved, fun _ => restored⟩
    | error error => exact restored
  · exact fun _ => refl_of SameSales world

theorem sales_confirmOrder (order : Order) :
    (commerce.shield noneSpared).Respects SameSales (InventoryService.confirmOrder order) := by
  apply sales_transaction
  apply Respects.forM
  intro item
  apply (sales_await _ rfl).bind
  intro found
  cases found with
  | none => exact .throw _
  | some listing =>
    refine (sales_await _ rfl).bind fun _ => ?_
    refine (sales_await _ rfl).bind fun _ => ?_
    exact .ite _ (sales_await _ rfl) (.pure _)

theorem sales_cancelOrder (order : Order) :
    (commerce.shield noneSpared).Respects SameSales (InventoryService.cancelOrder order) := by
  apply sales_transaction
  apply Respects.forM
  intro item
  apply (sales_await _ rfl).bind
  intro found
  cases found with
  | none => exact .throw _
  | some listing =>
    refine (sales_await _ rfl).bind fun _ => ?_
    exact sales_await _ rfl

/-- The steps that touch neither the orders nor the points. -/
def quietStep : UpdateOp → Bool
  | .confirmOrder _ | .cancelOrder _ => true
  | .single op => !writesSales op

theorem sameSales_step (op : UpdateOp) (quiet : quietStep op = true)
    (world : World) : SameSales world (stepAct op world).2 := by
  cases op with
  | confirmOrder order =>
    exact wp_sound_spared commerce (sales_confirmOrder order world) (spares_nil commerce _ _ world)
  | cancelOrder order =>
    exact wp_sound_spared commerce (sales_cancelOrder order world) (spares_nil commerce _ _ world)
  | single op =>
    apply sameSales_act op
    simpa [quietStep] using quiet

/-! ### Several calls at once -/

/-- A request for a status of the order, or the delivery of an
`order.completed` event about it. -/
inductive OrderCall where
  | updateStatus (dto : UpdateOrderStatusDto)
  | handleOrderCompleted (userId : Id) (totalAmount : Amount)
deriving DecidableEq

/-- The steps of a call, without the value it returns. -/
def OrderCall.program (orderId : Id) : OrderCall → Update Unit
  | .updateStatus dto => do
      let _ ← OrderUpdates.updateStatus orderId dto
      pure ()
  | .handleOrderCompleted userId totalAmount =>
    (OrderCompletedListener.handleOrderCompleted userId orderId totalAmount).expand single

/-- Points earned with the order. -/
def earnedWith (orderId : Id) (reward : RewardPoints) : Bool :=
  reward.transactionType = .earned ∧ reward.referenceId = some orderId

/-- The points earned with the order, as the ledger has them. -/
def earnedRows (orderId : Id) (world : World) : List RewardPoints :=
  world.db.rewards.filter (earnedWith orderId)

/-- Besides, everything but the orders and the points earned with the order
may change. -/
def besidesOrder (orderId : Id) (other : World) (recorded : Tracked) :
    Tracked :=
  { recorded with
    world :=
      { other with
        db := { other.db with
          orders := recorded.world.db.orders
          rewards :=
            (other.db.rewards.filter fun reward =>
              !earnedWith orderId reward) ++
              earnedRows orderId recorded.world } } }

abbrev OrderPool := Pool updateSignature Tracked HttpException OrderCall

abbrev OrderTurn := Turn HttpException OrderCall World

def orderRace (orderId : Id) : OrderPool → OrderTurn → OrderPool :=
  Pool.step updates (OrderCall.program orderId) (besidesOrder orderId)

end MarketX.Commerce
