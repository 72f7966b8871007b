/-
Module: MarketX.Proofs.InterruptedShipments
Purpose: What a call of the shipping service that throws leaves behind, and the
  history of every shipment over any run of the service.
Trusted boundary: none beyond the model; the definitions under review are
  ShippingCall, ShippingEvent, ship, Whole, interrupted, LeftShippedForEver,
  statuses, PassedTransit and Chronicled
Main exports: ShippingCall, ship, CreateOutcome, shipping_whole, shipments_tracked
-/
import MarketX.Proofs.PointsBenefits

namespace MarketX.Commerce

open Effects Handler ShippingService

/-! ### Calls and runs -/

/-- A call that writes shipments. -/
inductive ShippingCall where
  | createShipment (dto : CreateShipmentDto)
  | updateStatus (id : Id) (dto : UpdateShipmentStatusDto)

def ShippingCall.program : ShippingCall → Service ShipmentResponseDto
  | .createShipment dto => ShippingService.createShipment dto
  | .updateStatus id dto => ShippingService.updateStatus id dto

/-- One call, and which of its repository calls throw; or whatever else goes
on beside the shipments. -/
inductive ShippingEvent where
  | call (call : ShippingCall) (script : List Fault)
  | elsewhere (others : World)

def ship (world : World) : ShippingEvent → World
  | .call call script => (commerce.play call.program script world).2.2
  | .elsewhere others =>
    { others with
      db := { others.db with shipments := world.db.shipments } }

/-! ### The property -/

/-- The call returns if nothing fails. -/
def wouldReturn (call : ShippingCall) (world : World) : Bool :=
  (commerce.play call.program [] world).1.isOk

/-- If the call throws, the shipments and the orders are as before, and a
retry comes as far as the call itself would have. -/
structure Whole (call : ShippingCall) (script : List Fault) (world : World) :
    Prop where
  unchanged : ∀ error left after,
    commerce.play call.program script world = (.error error, left, after) →
      after.db.shipments = world.db.shipments ∧ after.db.orders = world.db.orders
  retried : ∀ error left after,
    commerce.play call.program script world = (.error error, left, after) →
      wouldReturn call world = true → wouldReturn call after = true

/-- The shipment is DELIVERED and its order SHIPPED. -/
def LeftShipped (id : Id) (world : World) : Prop :=
  ∃ shipment order, world.db.shipments.row id = some shipment ∧ shipment.status = .delivered ∧
      world.db.orders.row shipment.orderId = some order ∧ order.status = .shipped

def Aside (world : World) : ShippingEvent → Prop
  | .call _ _ => True
  | .elsewhere others => others.db.orders = world.db.orders

/-- Whatever calls follow, with whatever failures, the order stays SHIPPED. -/
def LeftShippedForEver (id : Id) (world : World) : Prop :=
  ∀ later, Along ship Aside world later → LeftShipped id (run ship world later)

/-! ### The condition -/

def shippable (world : World) (dto : CreateShipmentDto) : Option Order :=
  (world.db.orders.row dto.orderId).filter fun order =>
    order.status = .paid ∧ (world.db.shipments.rows.find? fun shipment =>
        shipment.orderId = dto.orderId) = none

def movable (world : World) (id : Id) (dto : UpdateShipmentStatusDto) :
    Option Shipment :=
  (world.db.shipments.row id).filter fun shipment =>
    isValidStateTransition shipment.status dto.status

/-- The shipment is stored, and a repository call after that throws: the
order's `save`, or of an update also its look-up. -/
def interrupted (world : World) : ShippingCall → List Fault → Bool
  | .createShipment dto, script =>
    (shippable world dto).isSome && !throwsAt script 0 &&
      !throwsAt script 1 && !throwsAt script 2 && throwsAt script 3
  | .updateStatus id dto, script =>
    (movable world id dto).any fun shipment =>
      !throwsAt script 0 && !throwsAt script 1 && (throwsAt script 2 || dto.status = .delivered &&
            (world.db.orders.row shipment.orderId).isSome && throwsAt script 3)

/-- No call is interrupted, and beside the service nothing changes the
orders. -/
def Uninterrupted (world : World) : ShippingEvent → Prop
  | .call call script => interrupted world call script = false
  | .elsewhere others => others.db.orders = world.db.orders

/-! ### What each call can come to -/

def createdShipment (dto : CreateShipmentDto) (world : World) : Shipment where
  id := world.db.shipments.next
  orderId := dto.orderId
  carrier := dto.carrier
  trackingNumber := dto.trackingNumber
  status := .labelCreated
  shippingAddress := dto.shippingAddress
  weight := dto.weight
  dimensions := dto.dimensions
  shippingCost := dto.shippingCost
  estimatedDeliveryDate := some (dto.estimatedDeliveryDate.getD
    (world.now + estimatedDeliveryDays dto.carrier * (24 * 60 * 60 * 1000)))
  labelUrl := dto.labelUrl
  notes := dto.notes

/-- The three ways a shipment's creation ends: before anything is stored, with
the shipment alone, and with the order as well. -/
inductive CreateOutcome (dto : CreateShipmentDto) (script : List Fault) (world : World) :
    Except HttpException Shipment × List Fault × World → Prop where
  | refused {error : HttpException} {left : List Fault}
      (unmet : shippable world dto = none ∨ throwsAt script 0 = true ∨
        throwsAt script 1 = true ∨ throwsAt script 2 = true) :
      CreateOutcome dto script world (.error error, left, world)
  | cut {error : HttpException} {left : List Fault} {order : Order}
      (met : shippable world dto = some order)
      (stored : interrupted world (.createShipment dto) script = true) :
      CreateOutcome dto script world
        (.error error, left, world.withShipment (createdShipment dto world))
  | created {left : List Fault} {order : Order} (met : shippable world dto = some order)
      (answered : interrupted world (.createShipment dto) script = false) :
      CreateOutcome dto script world (.ok (createdShipment dto world), left,
          ((world.withShipment (createdShipment dto world)).withOrder
            (shippedOrder order dto.trackingNumber world.now)).emitted
              (.shipmentCreated (createdShipment dto world).id order.id
                dto.trackingNumber dto.carrier))

/-- The ways a status update ends: before anything is stored, with the
shipment alone, and with the order as well where there is something to
store. -/
inductive UpdateOutcome (id : Id) (dto : UpdateShipmentStatusDto)
    (script : List Fault) (world : World) :
    Except HttpException Shipment × List Fault × World → Prop where
  | refused {error : HttpException} {left : List Fault}
      (unmet : movable world id dto = none ∨ throwsAt script 0 = true ∨ throwsAt script 1 = true) :
      UpdateOutcome id dto script world (.error error, left, world)
  | cut {error : HttpException} {left : List Fault} {shipment : Shipment}
      (met : movable world id dto = some shipment)
      (stored : interrupted world (.updateStatus id dto) script = true) :
      UpdateOutcome id dto script world (.error error, left,
          world.withShipment (movedShipment shipment dto world.now))
  | moved {left : List Fault} {shipment : Shipment} (met : movable world id dto = some shipment)
      (answered : interrupted world (.updateStatus id dto) script = false)
      (elsewhere : dto.status ≠ .delivered ∨ world.db.orders.row shipment.orderId = none) :
      UpdateOutcome id dto script world (.ok (movedShipment shipment dto world.now), left,
          (world.withShipment (movedShipment shipment dto world.now)).emitted
            (.shipmentStatusUpdated id shipment.orderId dto.status shipment.status))
  | delivered {left : List Fault} {shipment : Shipment} {order : Order}
      (met : movable world id dto = some shipment)
      (answered : interrupted world (.updateStatus id dto) script = false)
      (arrived : dto.status = .delivered)
      (ordered : world.db.orders.row shipment.orderId = some order) :
      UpdateOutcome id dto script world (.ok (movedShipment shipment dto world.now), left,
          ((world.withShipment (movedShipment shipment dto world.now)).withOrder
            (deliveredOrder order world.now)).emitted
              (.shipmentStatusUpdated id shipment.orderId dto.status shipment.status))

variable {α : Type} {script : List Fault} {world : World} {dto : CreateShipmentDto} {order : Order}
  {id : Id} {shipment : Shipment} {call : ShippingCall} {event : ShippingEvent}

theorem play_asked {op : Op} {rest : Reply op → Service α} (fails : mayFail op = true)
    (post : Except HttpException α × List Fault × World → Prop) (throws : throwsAt script 0 = true →
      ∀ error left, post (.error error, left, world)) (acts : throwsAt script 0 = false →
      post (commerce.play (rest (act op world).1) script.tail (act op world).2)) :
    post (commerce.play (await op >>= rest) script world) := by
  cases asked : throwsAt script 0 with
  | true =>
    obtain ⟨error, entry⟩ := entry_of_throwsAt asked
    rw [play_stops fails entry]
    exact throws asked error _
  | false =>
    rw [play_next fails asked]
    exact acts asked

theorem play_estimatedDelivery (dto : CreateShipmentDto) {rest : Date → Service α} (world : World) :
    commerce.play (estimatedDelivery dto >>= rest) script world =
      commerce.play (rest (dto.estimatedDeliveryDate.getD
        (world.now + estimatedDeliveryDays dto.carrier * (24 * 60 * 60 * 1000)))) script world := by
  unfold estimatedDelivery
  cases dto.estimatedDeliveryDate with
  | some date => rfl
  | none =>
    unfold calculateEstimatedDelivery
    rw [Program.bind_assoc]
    exact play_free rfl script world

theorem createShipment_outcome (dto : CreateShipmentDto) (script : List Fault) (world : World) :
    CreateOutcome dto script world (commerce.play (createShipment dto) script world) := by
  unfold createShipment
  apply play_asked rfl
  · exact fun first error left => .refused (.inr (.inl first))
  intro first
  simp only [act]
  cases found : world.db.orders.row dto.orderId with
  | none => exact .refused (.inl (by rw [shippable, found]; rfl))
  | some order =>
    by_cases paid : order.status = .paid
    case neg =>
      have unmet : shippable world dto = none := by simp [shippable, found, paid]
      simp only [ne_eq, paid, not_false_eq_true, if_true]
      exact .refused (.inl unmet)
    simp only [ne_eq, paid, not_true_eq_false, if_false]
    apply play_asked rfl
    · exact fun second error left => .refused (.inr (.inr (.inl
        (by rwa [throwsAt_tail] at second))))
    intro second
    rw [throwsAt_tail] at second
    simp only [act]
    cases existing : world.db.shipments.rows.find? fun shipment =>
        shipment.orderId = dto.orderId with
    | some shipment =>
      have unmet : shippable world dto = none := by simp [shippable, found, existing]
      exact .refused (.inl unmet)
    | none =>
      have met : shippable world dto = some order := by simp [shippable, found, paid, existing]
      dsimp only
      rw [play_estimatedDelivery]
      apply play_asked rfl
      · exact fun third error left => .refused (.inr (.inr (.inr
          (by rwa [throwsAt_tail, throwsAt_tail] at third))))
      intro third
      rw [throwsAt_tail, throwsAt_tail] at third
      rw [play_free rfl]
      apply play_asked rfl
      · intro fourth error left
        rw [throwsAt_tail, throwsAt_tail, throwsAt_tail] at fourth
        exact .cut met (by simp [interrupted, met, first, second, third, fourth])
      intro fourth
      rw [throwsAt_tail, throwsAt_tail, throwsAt_tail] at fourth
      rw [play_free rfl]
      exact .created met (by simp [interrupted, fourth])

theorem updateStatus_outcome (id : Id) (dto : UpdateShipmentStatusDto)
    (script : List Fault) (world : World) :
    UpdateOutcome id dto script world (commerce.play (updateStatus id dto) script world) := by
  unfold updateStatus
  apply play_asked rfl
  · exact fun first error left => .refused (.inr (.inl first))
  intro first
  simp only [act]
  cases found : world.db.shipments.row id with
  | none => exact .refused (.inl (by rw [movable, found]; rfl))
  | some shipment =>
    cases allowed : isValidStateTransition shipment.status dto.status with
    | false =>
      have unmet : movable world id dto = none := by simp [movable, found, allowed]
      dsimp only
      rw [allowed]
      exact .refused (.inl unmet)
    | true =>
      have met : movable world id dto = some shipment := by simp [movable, found, allowed]
      dsimp only
      rw [allowed, if_neg (by decide), play_free rfl]
      apply play_asked rfl
      · exact fun second error left => .refused (.inr (.inr (by rwa [throwsAt_tail] at second)))
      intro second
      rw [throwsAt_tail] at second
      simp only [act]
      unfold syncOrderStatus
      rw [Program.bind_assoc]
      apply play_asked rfl
      · intro third error left
        rw [throwsAt_tail, throwsAt_tail] at third
        exact .cut met (by simp [interrupted, met, first, second, third])
      intro third
      rw [throwsAt_tail, throwsAt_tail] at third
      simp only [act, World.withShipment]
      cases ordered : world.db.orders.row shipment.orderId with
      | none =>
        have answered : interrupted world (.updateStatus id dto) script = false := by
          simp [interrupted, met, third, ordered]
        show UpdateOutcome id dto script world
          (commerce.play (await (.emit _) >>= fun _ => pure _) _ _)
        rw [play_free rfl]
        exact .moved met answered (.inr ordered)
      | some order =>
        by_cases arrived : dto.status = .delivered
        case neg =>
          dsimp only
          rw [if_neg arrived]
          have answered : interrupted world (.updateStatus id dto) script = false := by
            simp [interrupted, met, third, arrived]
          show UpdateOutcome id dto script world
            (commerce.play (await (.emit _) >>= fun _ => pure _) _ _)
          rw [play_free rfl]
          exact .moved met answered (.inl arrived)
        dsimp only
        rw [if_pos arrived, Program.bind_assoc, play_free rfl]
        apply play_asked rfl
        · intro fourth error left
          rw [throwsAt_tail, throwsAt_tail, throwsAt_tail] at fourth
          exact .cut met (by simp [interrupted, met, first, second, arrived, ordered, fourth])
        intro fourth
        rw [throwsAt_tail, throwsAt_tail, throwsAt_tail] at fourth
        rw [play_free rfl]
        have answered : interrupted world (.updateStatus id dto) script = false := by
          simp [interrupted, met, third, fourth]
        exact .delivered met answered arrived ordered

/-! ### One call -/

theorem shippable_eq_some (met : shippable world dto = some order) :
    world.db.orders.row dto.orderId = some order ∧ order.status = .paid ∧
      ∀ shipment ∈ world.db.shipments.rows, shipment.orderId ≠ dto.orderId := by
  obtain ⟨found, tested⟩ := Option.filter_eq_some_iff.mp met
  simp_all

theorem movable_eq_some {dto : UpdateShipmentStatusDto}
    (met : movable world id dto = some shipment) :
    world.db.shipments.row id = some shipment ∧ dto.status ∈ validTransitions shipment.status := by
  obtain ⟨found, allowed⟩ := Option.filter_eq_some_iff.mp met
  exact ⟨found, of_decide_eq_true allowed⟩

theorem not_mem_validTransitions (status : ShipmentStatus) :
    status ∉ validTransitions status := by
  cases status <;> decide

theorem wouldReturn_createShipment (dto : CreateShipmentDto) (world : World) :
    wouldReturn (.createShipment dto) world = (shippable world dto).isSome := by
  unfold wouldReturn ShippingCall.program
  have ended := createShipment_outcome dto [] world
  generalize commerce.play (createShipment dto) [] world = ending at ended
  cases ended with
  | refused unmet =>
    have missing : shippable world dto = none := by simpa [throwsAt] using unmet
    rw [missing]
    rfl
  | cut met stored => simp [interrupted, throwsAt] at stored
  | created met answered =>
    rw [met]
    rfl

theorem unstored_of_throws {left : List Fault}
    {after : World} {error : HttpException} (answered : interrupted world call script = false)
    (throws : commerce.play call.program script world =
      (.error error, left, after)) : after = world := by
  cases call with
  | createShipment dto =>
    have ended := createShipment_outcome dto script world
    change commerce.play (createShipment dto) script world = _ at throws
    rw [throws] at ended
    cases ended <;> simp_all
  | updateStatus id dto =>
    have ended := updateStatus_outcome id dto script world
    change commerce.play (updateStatus id dto) script world = _ at throws
    rw [throws] at ended
    cases ended <;> simp_all

theorem stored_of_interrupted (stored : interrupted world call script = true) :
    ∃ error left after, commerce.play call.program script world = (.error error, left, after) ∧
        after.db.shipments ≠ world.db.shipments := by
  cases call with
  | createShipment dto =>
    have ended := createShipment_outcome dto script world
    unfold ShippingCall.program
    generalize commerce.play (createShipment dto) script world = ending at ended
    cases ended with
    | refused unmet => simp_all [interrupted]
    | created met answered => simp [stored] at answered
    | cut met =>
      refine ⟨_, _, _, rfl, fun same => ?_⟩
      have new : (world.db.shipments.save (createdShipment dto world)).row world.db.shipments.next =
            some (createdShipment dto world) := Table.row_save_self _ (createdShipment dto world)
      rw [show world.db.shipments.save (createdShipment dto world) =
        world.db.shipments from same, Table.row_next] at new
      cases new
  | updateStatus id dto =>
    have ended := updateStatus_outcome id dto script world
    unfold ShippingCall.program
    generalize commerce.play (updateStatus id dto) script world = ending at ended
    cases ended with
    | refused unmet =>
      rcases unmet with unmet | unmet | unmet <;> simp [interrupted, unmet] at stored
    | moved met answered | delivered met answered => simp [stored] at answered
    | @cut error left shipment met =>
      refine ⟨_, _, _, rfl, fun same => ?_⟩
      obtain ⟨found, allowed⟩ := movable_eq_some met
      have keyed : shipment.id = id := world.db.shipments.keyed found
      have moved : (world.db.shipments.save (movedShipment shipment dto world.now)).row id =
            some (movedShipment shipment dto world.now) := by
        rw [← keyed]
        exact Table.row_save_self _ (movedShipment shipment dto world.now)
      rw [show world.db.shipments.save (movedShipment shipment dto world.now) = world.db.shipments
        from same, found] at moved
      have standing : shipment.status = dto.status :=
        congrArg Shipment.status (Option.some.inj moved)
      exact not_mem_validTransitions _ (standing ▸ allowed)

theorem whole_iff (call : ShippingCall) (script : List Fault) (world : World) :
    Whole call script world ↔ interrupted world call script = false := by
  constructor
  · intro whole
    cases stored : interrupted world call script with
    | false => rfl
    | true =>
      obtain ⟨error, left, after, throws, changed⟩ := stored_of_interrupted stored
      exact absurd (whole.unchanged error left after throws).1 changed
  · intro answered
    constructor <;> grind [unstored_of_throws]

/-! ### Runs -/

inductive ShipmentStep (world : World) : Table Shipment → Prop where
  | kept : ShipmentStep world world.db.shipments
  | created {shipment : Shipment} (unshipped : ∀ other ∈ world.db.shipments.rows,
        other.orderId ≠ shipment.orderId) (fresh : shipment.id = world.db.shipments.next)
      (labelled : shipment.status = .labelCreated)
      (undelivered : shipment.actualDeliveryDate = none) :
      ShipmentStep world (world.db.shipments.save shipment)
  | moved {id : Id} {shipment : Shipment} {dto : UpdateShipmentStatusDto}
      {now : Date} (found : world.db.shipments.row id = some shipment)
      (allowed : dto.status ∈ validTransitions shipment.status) :
      ShipmentStep world (world.db.shipments.save (movedShipment shipment dto now))

theorem shipmentStep (world : World) (event : ShippingEvent) :
    ShipmentStep world (ship world event).db.shipments := by
  cases event with
  | elsewhere others => exact .kept
  | call call script =>
    cases call with
    | createShipment dto =>
      have ended := createShipment_outcome dto script world
      show ShipmentStep world (commerce.play (createShipment dto) script world).2.2.db.shipments
      generalize commerce.play (createShipment dto) script world = ending at ended ⊢
      cases ended with
      | refused unmet => exact .kept
      | cut met | created met => exact .created (shippable_eq_some met).2.2 rfl rfl rfl
    | updateStatus id dto =>
      have ended := updateStatus_outcome id dto script world
      show ShipmentStep world (commerce.play (updateStatus id dto) script world).2.2.db.shipments
      generalize commerce.play (updateStatus id dto) script world = ending at ended ⊢
      cases ended with
      | refused unmet => exact .kept
      | cut met | moved met | delivered met =>
        obtain ⟨found, allowed⟩ := movable_eq_some met
        exact .moved found allowed

inductive RowStep : Option Shipment → Option Shipment → Prop where
  | kept {row : Option Shipment} : RowStep row row
  | created {shipment : Shipment} (labelled : shipment.status = .labelCreated)
      (undelivered : shipment.actualDeliveryDate = none) :
      RowStep none (some shipment)
  | moved {shipment : Shipment} {dto : UpdateShipmentStatusDto} {now : Date}
      (allowed : dto.status ∈ validTransitions shipment.status) :
      RowStep (some shipment) (some (movedShipment shipment dto now))

theorem ShipmentStep.row {after : Table Shipment} (step : ShipmentStep world after) (id : Id) :
    RowStep (world.db.shipments.row id) (after.row id) := by
  cases step with
  | kept => exact .kept
  | @created shipment _ fresh labelled undelivered =>
    rw [Table.row_save]
    split
    next same =>
      have new : id = world.db.shipments.next := same.trans fresh
      rw [new, Table.row_next]
      exact .created labelled undelivered
    next => exact .kept
  | @moved key shipment dto now found allowed =>
    rw [Table.row_save]
    split
    next same =>
      have keyed : shipment.id = key := world.db.shipments.keyed found
      have old : id = key := same.trans keyed
      rw [old, found]
      exact .moved allowed
    next => exact .kept

theorem rowStep (world : World) (event : ShippingEvent) (id : Id) :
    RowStep (world.db.shipments.row id) ((ship world event).db.shipments.row id) :=
  (shipmentStep world event).row id

theorem RowStep.of_some {row : Option Shipment} (step : RowStep (some shipment) row) :
    ∃ later, row = some later ∧ later.orderId = shipment.orderId := by
  cases step with
  | kept => exact ⟨shipment, rfl, rfl⟩
  | moved => exact ⟨_, rfl, rfl⟩

def HasShipment (orderId id : Id) (world : World) : Prop :=
  ∃ shipment, world.db.shipments.row id = some shipment ∧ shipment.orderId = orderId

theorem hasShipment_run {orderId : Id}
    (has : HasShipment orderId id world) (later : List ShippingEvent) :
    HasShipment orderId id (run ship world later) := by
  refine run_preserves ?_ has later
  rintro state event ⟨shipment, stored, about⟩
  have step := rowStep state event id
  rw [stored] at step
  obtain ⟨moved, storedMoved, same⟩ := step.of_some
  exact ⟨moved, storedMoved, same.trans about⟩

theorem retry_refused_for_ever (stored : interrupted world (.createShipment dto) script = true)
    (later : List ShippingEvent) (retry : CreateShipmentDto) (same : retry.orderId = dto.orderId) :
    wouldReturn (.createShipment retry)
      (run ship world (.call (.createShipment dto) script :: later)) =
        false := by
  have left : HasShipment dto.orderId world.db.shipments.next
      (ship world (.call (.createShipment dto) script)) := by
    have ended := createShipment_outcome dto script world
    show HasShipment _ _ (commerce.play (createShipment dto) script world).2.2
    generalize commerce.play (createShipment dto) script world = ending at ended ⊢
    cases ended with
    | refused unmet => simp_all [interrupted]
    | cut met | created met => exact ⟨_, Table.row_save_self _ (createdShipment dto world), rfl⟩
  obtain ⟨shipment, found, about⟩ := hasShipment_run left later
  rw [wouldReturn_createShipment, run_cons, Option.isSome_eq_false_iff, Option.isNone_iff_eq_none]
  cases met : shippable (run ship (ship world
      (.call (.createShipment dto) script)) later) retry with
  | none => rfl
  | some order =>
    exact absurd (about.trans same.symm)
      ((shippable_eq_some met).2.2 shipment (Table.mem_rows_of_row found))

/-! ### Delivered shipments of shipped orders -/

theorem row_of_save_order {orders : Table Order} {saved : Order}
    (other : id ≠ saved.id) : (orders.save saved).row id = orders.row id :=
  Table.row_save_of_ne orders saved other

/-- Where no order is left SHIPPED behind its shipment, an uninterrupted call
leaves none behind. -/
theorem not_leftShipped_ship
    (settled : ∀ id, ¬ LeftShipped id world) (uninterrupted : Uninterrupted world event) (id : Id) :
    ¬ LeftShipped id (ship world event) := by
  cases event with
  | elsewhere others =>
    rintro ⟨shipment, order, found, arrived, ordered, shipped⟩
    rw [show (ship world (.elsewhere others)).db.orders = world.db.orders
      from uninterrupted] at ordered
    exact settled id ⟨shipment, order, found, arrived, ordered, shipped⟩
  | call call script =>
    cases call with
    | createShipment dto =>
      have ended := createShipment_outcome dto script world
      show ¬ LeftShipped id (commerce.play (createShipment dto) script world).2.2
      generalize commerce.play (createShipment dto) script world = ending at ended ⊢
      cases ended with
      | refused unmet => exact settled id
      | cut met stored => exact absurd stored (by rw [uninterrupted]; decide)
      | @created left order met answered =>
        obtain ⟨ordered, -, unshipped⟩ := shippable_eq_some met
        have keyed : order.id = dto.orderId := world.db.orders.keyed ordered
        rintro ⟨shipment, later, found, arrived, behind, shipped⟩
        change (world.db.shipments.save (createdShipment dto world)).row id = some shipment at found
        change (world.db.orders.save (shippedOrder order
          dto.trackingNumber world.now)).row shipment.orderId = some later at behind
        rw [Table.row_save] at found
        split at found
        next =>
          cases found
          cases arrived
        next =>
          have apart : shipment.orderId ≠ (shippedOrder order
              dto.trackingNumber world.now).id := by
            intro same
            exact unshipped shipment (Table.mem_rows_of_row found) (same.trans keyed)
          rw [row_of_save_order apart] at behind
          exact settled id ⟨shipment, later, found, arrived, behind, shipped⟩
    | updateStatus key dto =>
      have ended := updateStatus_outcome key dto script world
      show ¬ LeftShipped id (commerce.play (updateStatus key dto) script world).2.2
      generalize commerce.play (updateStatus key dto) script world = ending at ended ⊢
      cases ended with
      | refused unmet => exact settled id
      | cut met stored => exact absurd stored (by rw [uninterrupted]; decide)
      | @moved left moving met answered elsewhere =>
        rintro ⟨shipment, later, found, arrived, behind, shipped⟩
        change (world.db.shipments.save (movedShipment moving dto world.now)).row id = some shipment
          at found
        change world.db.orders.row shipment.orderId = some later at behind
        rw [Table.row_save] at found
        split at found
        next => grind [movedShipment]
        next => exact settled id ⟨shipment, later, found, arrived, behind, shipped⟩
      | @delivered left moving order met answered _ ordered =>
        have keyed : order.id = moving.orderId := world.db.orders.keyed ordered
        rintro ⟨shipment, later, found, arrived, behind, shipped⟩
        change (world.db.shipments.save (movedShipment moving dto world.now)).row id = some shipment
          at found
        change (world.db.orders.save (deliveredOrder order
          world.now)).row shipment.orderId = some later at behind
        rw [Table.row_save] at behind
        split at behind
        next =>
          cases behind
          cases shipped
        next apart =>
          rw [Table.row_save] at found
          split at found
          next =>
            cases found
            exact apart keyed.symm
          next => exact settled id ⟨shipment, later, found, arrived, behind, shipped⟩

/-- The shipment is the only one of its order, and its order was left SHIPPED
behind it. -/
def Stuck (id : Id) (world : World) : Prop :=
  ∃ shipment order, world.db.shipments.row id = some shipment ∧ shipment.status = .delivered ∧
      world.db.orders.row shipment.orderId = some order ∧ order.status = .shipped ∧
          ∀ other ∈ world.db.shipments.rows, other.orderId = shipment.orderId → other.id = id

theorem Stuck.leftShipped (stuck : Stuck id world) :
    LeftShipped id world := by
  obtain ⟨shipment, order, found, arrived, ordered, shipped, -⟩ := stuck
  exact ⟨shipment, order, found, arrived, ordered, shipped⟩

/-- An order row changes with a shipment that is created for the order or
moved. -/
theorem order_row_ship (aside : Aside world event) (orderId : Id) :
    (ship world event).db.orders.row orderId = world.db.orders.row orderId ∨
      (∃ dto, (shippable world dto).isSome ∧ dto.orderId = orderId) ∨
        ∃ key dto shipment, movable world key dto = some shipment ∧ shipment.orderId = orderId := by
  cases event with
  | elsewhere others => exact .inl (congrArg (Table.row · orderId) aside)
  | call call script =>
    cases call with
    | createShipment dto =>
      have ended := createShipment_outcome dto script world
      simp only [ship, ShippingCall.program]
      generalize commerce.play (createShipment dto) script world = ending at ended ⊢
      cases ended with
      | refused unmet | cut met stored => exact .inl rfl
      | @created left order met answered =>
        have keyed : order.id = dto.orderId := world.db.orders.keyed (shippable_eq_some met).1
        by_cases about : dto.orderId = orderId
        · exact .inr (.inl ⟨dto, by rw [met]; rfl, about⟩)
        · refine .inl (row_of_save_order fun same => about ?_)
          exact (same.trans keyed).symm
    | updateStatus key dto =>
      have ended := updateStatus_outcome key dto script world
      simp only [ship, ShippingCall.program]
      generalize commerce.play (updateStatus key dto) script world = ending at ended ⊢
      cases ended with
      | refused unmet | cut met stored | moved met answered => exact .inl rfl
      | @delivered left shipment order met answered arrived ordered =>
        have keyed : order.id = shipment.orderId := world.db.orders.keyed ordered
        by_cases about : shipment.orderId = orderId
        · exact .inr (.inr ⟨key, dto, shipment, met, about⟩)
        · refine .inl (row_of_save_order fun same => about ?_)
          exact (same.trans keyed).symm

theorem Stuck.ship (stuck : Stuck id world) (aside : Aside world event) :
    Stuck id (ship world event) := by
  obtain ⟨shipment, order, found, arrived, ordered, shipped, sole⟩ := stuck
  have still : ∀ {status}, status ∉ validTransitions shipment.status := by
    intro status
    rw [arrived]
    exact List.not_mem_nil
  have standing : (MarketX.Commerce.ship world event).db.orders.row
      shipment.orderId = some order := by
    rcases order_row_ship aside shipment.orderId with
      same | ⟨dto, met, about⟩ | ⟨key, dto, other, met, about⟩
    · exact same.trans ordered
    · obtain ⟨order, met⟩ := Option.isSome_iff_exists.mp met
      exact absurd about.symm ((shippable_eq_some met).2.2 shipment (Table.mem_rows_of_row found))
    · obtain ⟨foundOther, allowed⟩ := movable_eq_some met
      have same := sole other (Table.mem_rows_of_row foundOther) about
      have key_eq : key = id :=
        (world.db.shipments.keyed foundOther).symm.trans same
      simp_all
  have step := shipmentStep world event
  have after : (MarketX.Commerce.ship world event).db.shipments.row id = some shipment ∧
      ∀ other ∈ (MarketX.Commerce.ship world event).db.shipments.rows,
        other.orderId = shipment.orderId → other.id = id := by
    generalize (MarketX.Commerce.ship world event).db.shipments = table at step ⊢
    cases step with
    | kept => exact ⟨found, sole⟩
    | @created new unshipped fresh =>
      have apart := unshipped shipment (Table.mem_rows_of_row found)
      have old : id ≠ Keyed.key new := by
        rw [show Keyed.key new = world.db.shipments.next from fresh]
        exact (world.db.shipments.bounded found).ne
      rw [Table.row_save_of_ne _ _ old]
      refine ⟨found, Table.forall_rows_save.mpr ⟨fun about => ?_, ?_⟩⟩
      · exact absurd about.symm apart
      · exact fun other member _ => sole other member
    | @moved key moving dto now foundMoving allowed =>
      have keyedMoving : moving.id = key := world.db.shipments.keyed foundMoving
      have other : id ≠ moving.id := by grind
      rw [Table.row_save_of_ne _ (movedShipment moving dto now) other]
      refine ⟨found, Table.forall_rows_save.mpr ⟨fun about => ?_, ?_⟩⟩
      · exact sole moving (Table.mem_rows_of_row foundMoving) about
      · exact fun other member _ => sole other member
  exact ⟨shipment, order, after.1, arrived, standing, shipped, after.2⟩

/-- An interrupted delivery of the one shipment of a SHIPPED order leaves the
order SHIPPED for ever. -/
theorem left_shipped_for_ever {dto : UpdateShipmentStatusDto}
    (found : world.db.shipments.row id = some shipment) (arrived : dto.status = .delivered)
    (ordered : world.db.orders.row shipment.orderId = some order)
    (shipped : order.status = .shipped) (sole : ∀ other ∈ world.db.shipments.rows,
      other.orderId = shipment.orderId → other.id = id)
    (stored : interrupted world (.updateStatus id dto) script = true) :
    LeftShippedForEver id (ship world (.call (.updateStatus id dto) script)) := by
  have stuck : Stuck id (ship world (.call (.updateStatus id dto) script)) := by
    have ended := updateStatus_outcome id dto script world
    simp only [ship, ShippingCall.program]
    generalize commerce.play (updateStatus id dto) script world = ending at ended ⊢
    cases ended with
    | refused unmet =>
      rcases unmet with unmet | unmet | unmet <;> simp [interrupted, unmet] at stored
    | moved met answered | delivered met answered => simp [stored] at answered
    | @cut error left moving met =>
      have same := (movable_eq_some met).1
      rw [found] at same
      cases same
      have keyed : shipment.id = id := world.db.shipments.keyed found
      refine ⟨movedShipment shipment dto world.now, order, ?_, arrived,
        ordered, shipped, Table.forall_rows_save.mpr ⟨fun _ => keyed, ?_⟩⟩
      · rw [← keyed]
        exact Table.row_save_self _ (movedShipment shipment dto world.now)
      · exact fun other member _ => sole other member
  intro later aside
  exact (run_invariant (fun _ _ => Stuck.ship) stuck aside).leftShipped

/-! ### The failures that matter -/

/-- A call that throws leaves shipments and orders as they were, and can be
tried again, iff it is not interrupted; and in runs without interrupted calls
no order stays SHIPPED behind its DELIVERED shipment. -/
theorem shipping_whole (call : ShippingCall) (script : List Fault)
    (world start : World) (events : List ShippingEvent) :
    (Whole call script world ↔ interrupted world call script = false) ∧
      ((∀ id, ¬ LeftShipped id start) → Along ship Uninterrupted start events →
          ∀ front back, events = front ++ back →
            ∀ id, ¬ LeftShippedForEver id (run ship start front)) := by
  refine ⟨whole_iff call script world, ?_⟩
  rintro settled along front back rfl id forEver
  have reached : ∀ id, ¬ LeftShipped id (run ship start front) :=
    run_invariant (fun _ _ => not_leftShipped_ship) settled (Along.append_iff.mp along).1
  exact reached id (forEver [] trivial)

/-! ### One parcel -/

def parcelOrder (status : OrderStatus) : Order where
  id := 0
  buyerId := 7
  totalAmount := 200
  items := []
  status

def toTheBuyer : ShippingAddress where
  street := "1 Market Street"
  city := "Lagos"
  state := "Lagos"
  postalCode := "100001"
  country := "NG"

def parcelRequest : CreateShipmentDto where
  orderId := 0
  carrier := .dhl
  trackingNumber := "DHL-1"
  shippingAddress := toTheBuyer

def parcel (status : ShipmentStatus) : Shipment where
  id := 0
  orderId := 0
  carrier := .dhl
  trackingNumber := "DHL-1"
  status
  shippingAddress := toTheBuyer

/-- Before anything is shipped. -/
def paidShop : World := openShop.withOrder (parcelOrder .paid)

/-- With the parcel on its way. -/
def shippedShop : World :=
  (openShop.withOrder (parcelOrder .shipped)).withShipment (parcel .outForDelivery)

/-- The fourth repository call throws. -/
def fourthThrows : List Fault := [none, none, none, some (.error "connection lost")]

theorem paidShop_whole :
    ¬ LeftShippedForEver 0 (run ship paidShop
      [.call (.createShipment parcelRequest) [none, none]]) := by
  have settled : ∀ id, ¬ LeftShipped id paidShop := by
    rintro id ⟨shipment, order, found, -⟩
    cases found
  have along : Along ship Uninterrupted paidShop
      [.call (.createShipment parcelRequest) [none, none]] := by
    have answered : interrupted paidShop (.createShipment parcelRequest)
      [none, none] = false := by decide
    exact ⟨answered, trivial⟩
  exact (shipping_whole (.createShipment parcelRequest) [none, none]
    paidShop paidShop _).2 settled along _ [] (List.append_nil _).symm 0

/-- The order is not stored: the shipment exists, no retry is accepted, and
an order whose delivery breaks off so stays SHIPPED. -/
theorem parcel_interrupted :
    ¬ Whole (.createShipment parcelRequest) fourthThrows paidShop ∧
      (∀ later, wouldReturn (.createShipment parcelRequest) (run ship paidShop
          (.call (.createShipment parcelRequest) fourthThrows :: later)) = false) ∧
      LeftShippedForEver 0 (ship shippedShop
        (.call (.updateStatus 0 { status := .delivered }) fourthThrows)) := by
  have stored : interrupted paidShop (.createShipment parcelRequest)
      fourthThrows = true := by decide
  refine ⟨fun whole => ?_, fun later => retry_refused_for_ever stored later parcelRequest rfl, ?_⟩
  · exact absurd stored (by rw [(whole_iff _ _ _).mp whole]; decide)
  · have sole : ∀ other ∈ shippedShop.db.shipments.rows, other.orderId = 0 →
        other.id = 0 := by decide
    have found : shippedShop.db.shipments.row 0 =
      some (parcel .outForDelivery) := rfl
    have ordered : shippedShop.db.orders.row 0 =
      some (parcelOrder .shipped) := rfl
    exact left_shipped_for_ever found rfl ordered rfl sole (by decide)

end MarketX.Commerce

namespace MarketX.Commerce

open Effects Handler ShippingService

/-! ### The property -/

def statusOf (id : Id) (world : World) : Option ShipmentStatus :=
  (world.db.shipments.row id).map Shipment.status

/-- The statuses that the shipment under a key takes on, one after the
other. -/
def statuses (id : Id) (start : World) (events : List ShippingEvent) :
    List ShipmentStatus := changes ship (statusOf id) start events

/-- Behind the last LABEL_CREATED come IN_TRANSIT and OUT_FOR_DELIVERY. -/
def PassedTransit (history : List ShipmentStatus) : Prop :=
  ∃ front rest, history = front ++ .labelCreated :: rest ∧
    .labelCreated ∉ rest ∧ .inTransit ∈ rest ∧ .outForDelivery ∈ rest

/-- Neither DELIVERED nor RETURNED can be left. -/
def Ended (shipment : Shipment) : Prop := shipment.status = .delivered ∨ shipment.status = .returned

/-- What holds of the shipments at the end of a run. -/
structure Chronicled (start : World) (events : List ShippingEvent) : Prop where
  one : ∀ shipment ∈ (run ship start events).db.shipments.rows,
    ∀ other ∈ (run ship start events).db.shipments.rows,
      shipment.orderId = other.orderId → shipment = other
  path : ∀ id, List.IsChain (fun status next => next ∈ validTransitions status)
    (statuses id start events)
  labelled : ∀ id, ∀ first ∈ (statuses id start events).head?, first = .labelCreated
  current : ∀ id, (statuses id start events).getLast? = statusOf id (run ship start events)
  dated : ∀ shipment ∈ (run ship start events).db.shipments.rows,
    shipment.actualDeliveryDate.isSome ↔ shipment.status = .delivered
  final : ∀ front back, events = front ++ back → ∀ id shipment,
    (run ship start front).db.shipments.row id = some shipment → Ended shipment →
        (run ship start events).db.shipments.row id = some shipment
  passed : ∀ shipment ∈ (run ship start events).db.shipments.rows, shipment.status = .delivered →
      PassedTransit (statuses shipment.id start events)

/-! ### Paths through the table -/

theorem path_last {history : List ShipmentStatus} {status : ShipmentStatus}
    (path : List.IsChain (fun status next => next ∈ validTransitions status) (history ++ [status]))
    (labelled : ∀ first ∈ (history ++ [status]).head?, first = .labelCreated)
    (moved : status ≠ .labelCreated) :
    ∃ front before, history = front ++ [before] ∧ status ∈ validTransitions before ∧
        List.IsChain (fun status next => next ∈ validTransitions status) (front ++ [before]) ∧
        ∀ first ∈ (front ++ [before]).head?, first = .labelCreated := by
  rcases List.eq_nil_or_concat' history with rfl | ⟨front, before, rfl⟩ <;> simp_all

theorem passedTransit_of_path {history : List ShipmentStatus}
    (path : List.IsChain (fun status next => next ∈ validTransitions status) history)
    (labelled : ∀ first ∈ history.head?, first = .labelCreated)
    (arrived : history.getLast? = some .delivered) :
    PassedTransit history := by
  have onlyFromOut : ∀ status, .delivered ∈ validTransitions status → status = .outForDelivery := by
    intro status; cases status <;> decide
  have onlyFromTransit : ∀ status, .outForDelivery ∈ validTransitions status →
      status = .inTransit := by intro status; cases status <;> decide
  have onlyFromPickup : ∀ status, .inTransit ∈ validTransitions status → status = .pickedUp := by
    intro status; cases status <;> decide
  have onlyFromLabel : ∀ status, .pickedUp ∈ validTransitions status → status = .labelCreated := by
    intro status; cases status <;> decide
  obtain ⟨first, rfl⟩ := List.getLast?_eq_some_iff.mp arrived
  obtain ⟨second, status, rfl, step, path, labelled⟩ := path_last path labelled (by decide)
  cases onlyFromOut status step
  obtain ⟨third, status, rfl, step, path, labelled⟩ := path_last path labelled (by decide)
  cases onlyFromTransit status step
  obtain ⟨fourth, status, rfl, step, path, labelled⟩ := path_last path labelled (by decide)
  cases onlyFromPickup status step
  obtain ⟨front, status, rfl, step, path, labelled⟩ := path_last path labelled (by decide)
  cases onlyFromLabel status step
  refine ⟨front, [.pickedUp, .inTransit, .outForDelivery, .delivered], ?_,
    by decide, by decide, by decide⟩
  simp only [List.append_assoc, List.cons_append, List.nil_append]

/-! ### What one call keeps -/

theorem moves_status (id : Id) (world : World) (event : ShippingEvent) :
    Effects.Moves (· = .labelCreated) (fun status next => next ∈ validTransitions status)
      (statusOf id world) (statusOf id (ship world event)) := by
  have step := rowStep world event id
  unfold statusOf
  generalize world.db.shipments.row id = before at step ⊢
  generalize (ship world event).db.shipments.row id = after at step ⊢
  cases step with
  | kept => exact .stays
  | created labelled => exact .begins labelled
  | moved allowed => exact .moves allowed

def OnePerOrder (world : World) : Prop :=
  ∀ shipment ∈ world.db.shipments.rows, ∀ other ∈ world.db.shipments.rows,
    shipment.orderId = other.orderId → shipment = other

theorem OnePerOrder.ship {world : World} (one : OnePerOrder world)
    (event : ShippingEvent) : OnePerOrder (ship world event) := by
  unfold OnePerOrder at one ⊢
  have step := shipmentStep world event
  generalize (MarketX.Commerce.ship world event).db.shipments = table at step ⊢
  cases step with
  | kept => exact one
  | @created new unshipped fresh =>
    refine Table.forall_rows_save.mpr ⟨?_, ?_⟩
    · refine Table.forall_rows_save.mpr ⟨fun _ => rfl, ?_⟩
      exact fun other member _ same => absurd same.symm (unshipped other member)
    · intro shipment member _
      refine Table.forall_rows_save.mpr ⟨?_, ?_⟩
      · exact fun same => absurd same (unshipped shipment member)
      · exact fun other memberOther _ => one shipment member other memberOther
  | @moved key moving dto now found =>
    have listed := Table.mem_rows_of_row found
    refine Table.forall_rows_save.mpr ⟨?_, ?_⟩
    · refine Table.forall_rows_save.mpr ⟨fun _ => rfl, ?_⟩
      intro other member apart same
      exact absurd (congrArg Shipment.id (one moving listed other member same)).symm apart
    · intro shipment member apart
      refine Table.forall_rows_save.mpr ⟨?_, ?_⟩
      · intro same
        exact absurd (congrArg Shipment.id (one shipment member moving listed same)) apart
      · exact fun other memberOther _ => one shipment member other memberOther

/-- A delivery date stands where the shipment was delivered. -/
def DatedOnDelivery (row : Option Shipment) : Prop := ∀ shipment ∈ row,
    shipment.actualDeliveryDate.isSome ↔ shipment.status = .delivered

theorem RowStep.dated {before after : Option Shipment}
    (step : RowStep before after) (dated : DatedOnDelivery before) : DatedOnDelivery after := by
  cases step with
  | kept => exact dated
  | created labelled undelivered =>
    rintro shipment member
    cases member
    rw [labelled, undelivered]
    decide
  | @moved shipment dto now allowed =>
    rintro moved member
    cases member
    have undelivered : shipment.status ≠ .delivered := by
      intro arrived
      rw [arrived] at allowed
      exact List.not_mem_nil allowed
    by_cases arrived : dto.status = .delivered
    · simp [movedShipment, arrived]
    · have undated := mt (dated shipment rfl).mp undelivered
      simpa [movedShipment, arrived] using undated

theorem RowStep.of_ended {shipment : Shipment} {after : Option Shipment}
    (step : RowStep (some shipment) after) (ended : Ended shipment) :
    after = some shipment := by
  cases step with
  | kept => rfl
  | moved allowed =>
    rcases ended with ended | ended <;> rw [ended] at allowed <;>
      exact absurd allowed List.not_mem_nil

/-! ### Every run -/

/-- Whatever calls are made, with whatever failures, the shipments have a
history that follows the table. -/
theorem shipments_tracked (start : World)
    (unshipped : start.db.shipments.rows = []) (events : List ShippingEvent) :
    Chronicled start events := by
  have missing : ∀ id, start.db.shipments.row id = none := by
    intro id
    cases stored : start.db.shipments.row id with
    | none => rfl
    | some shipment =>
      have member := Table.mem_rows_of_row stored
      rw [unshipped] at member
      exact absurd member List.not_mem_nil
  have unseen : ∀ id, statusOf id start = none := by
    intro id
    rw [statusOf, missing]
    rfl
  have path : ∀ id, List.IsChain (fun status next => next ∈ validTransitions status)
      (statuses id start events) := by
    intro id
    have chain := changes_isChain (moves_status id) start events
    rwa [unseen] at chain
  have labelled : ∀ id, ∀ first ∈ (statuses id start events).head?, first = .labelCreated :=
    fun id => changes_head? (moves_status id) (unseen id) events
  have current : ∀ id, (statuses id start events).getLast? =
      statusOf id (run ship start events) := by
    intro id
    have last := changes_getLast? (moves_status id) start events
    rwa [unseen] at last
  refine ⟨?_, path, labelled, current, ?_, ?_, ?_⟩
  · have one : OnePerOrder start := by
      unfold OnePerOrder
      rw [unshipped]
      exact List.forall_mem_nil _
    have kept : ∀ world event, OnePerOrder world →
        OnePerOrder (ship world event) := fun _ event one => one.ship event
    exact run_preserves kept one events
  · intro shipment member
    have undated : DatedOnDelivery (start.db.shipments.row shipment.id) := by
      rw [missing]
      exact fun _ member => nomatch member
    have kept : ∀ (world : World) event, DatedOnDelivery (world.db.shipments.row shipment.id) →
          DatedOnDelivery ((ship world event).db.shipments.row shipment.id) :=
      fun world event => (rowStep world event shipment.id).dated
    exact run_preserves kept undated events shipment (Table.mem_rows.mp member)
  · rintro front back rfl id shipment found ended
    have kept : ∀ (world : World) event, world.db.shipments.row id = some shipment →
          (ship world event).db.shipments.row id = some shipment := by
      intro world event stored
      have step := rowStep world event id
      rw [stored] at step
      exact step.of_ended ended
    rw [run_append]
    exact run_preserves kept found back
  · intro shipment member arrived
    refine passedTransit_of_path (path _) (labelled _) ?_
    rw [current, statusOf, show (run ship start events).db.shipments.row
      shipment.id = some shipment from Table.mem_rows.mp member]
    exact congrArg some arrived

/-- The parcel is dispatched, lost, labelled again and delivered: one history
through the cycle. -/
def parcelJourney : List ShippingEvent := .call (.createShipment parcelRequest) [] ::
    [ShipmentStatus.pickedUp, .failed, .labelCreated, .pickedUp, .inTransit,
      .outForDelivery, .delivered, .returned].map fun status =>
        .call (.updateStatus 0 { status }) []

theorem parcelJourney_tracked : Chronicled paidShop parcelJourney :=
  shipments_tracked paidShop (by decide) parcelJourney

example : statuses 0 paidShop parcelJourney =
    [.labelCreated, .pickedUp, .failed, .labelCreated, .pickedUp, .inTransit,
      .outForDelivery, .delivered] := by decide

end MarketX.Commerce
