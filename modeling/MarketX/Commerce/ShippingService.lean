/-
Module: MarketX.Commerce.ShippingService
Purpose: The shipping service (`shipping/shipping.service.ts`): shipments of
  paid orders, their status, and the order status that follows it.
Trusted boundary: human-reviewed model of the source
Main exports: ShippingService.createShipment, ShippingService.updateStatus
-/
import MarketX.Commerce.World

namespace MarketX.Commerce

open Effects

structure CreateShipmentDto where
  orderId : Id
  carrier : ShippingCarrier
  trackingNumber : String
  shippingAddress : ShippingAddress
  weight : Option Amount := none
  dimensions : Option PackageDimensions := none
  shippingCost : Option Amount := none
  estimatedDeliveryDate : Option Date := none
  labelUrl : Option String := none
  notes : Option String := none
deriving DecidableEq

/-- A note that is empty counts as missing. -/
structure UpdateShipmentStatusDto where
  status : ShipmentStatus
  notes : Option String := none
deriving DecidableEq

/-- The response holds every column of the row but the two time stamps. -/
abbrev ShipmentResponseDto := Shipment

namespace ShippingService

/-- The most days each carrier takes. -/
def estimatedDeliveryDays : ShippingCarrier → ℕ
  | .ups => 7
  | .fedex => 5
  | .dhl => 10
  | .usps => 14
  | .local => 3

def validTransitions : ShipmentStatus → List ShipmentStatus
  | .labelCreated => [.pickedUp, .failed]
  | .pickedUp => [.inTransit, .failed]
  | .inTransit => [.outForDelivery, .failed, .returned]
  | .outForDelivery => [.delivered, .failed, .returned]
  | .delivered => []
  | .failed => [.labelCreated]
  | .returned => []

def isValidStateTransition (currentStatus newStatus : ShipmentStatus) :
    Bool := newStatus ∈ validTransitions currentStatus

/-- Days of 24 hours: the server's time zone has no daylight saving time. -/
def calculateEstimatedDelivery (carrier : ShippingCarrier) : Service Date := do
  let now ← dateNow
  pure (now + estimatedDeliveryDays carrier * (24 * 60 * 60 * 1000))

/-- The date of the request, or else the carrier's. -/
def estimatedDelivery (dto : CreateShipmentDto) : Service Date :=
  match dto.estimatedDeliveryDate with
  | some date => pure date
  | none => calculateEstimatedDelivery dto.carrier

/-- The order as a new shipment leaves it. -/
def shippedOrder (order : Order) (trackingNumber : String) (now : Date) :
    Order :=
  { order with
    status := .shipped
    trackingNumber := some trackingNumber
    shippedAt := some now }

def createShipment (dto : CreateShipmentDto) : Service ShipmentResponseDto := do
  match ← ordersRepository.findOne dto.orderId with
  | none => throw (.notFound s!"Order with ID \"{dto.orderId}\" not found")
  | some order =>
    if order.status ≠ .paid then
      throw (.badRequest ("Order must be in PAID status to create a shipment. " ++
          s!"Current status: {order.status}"))
    match ← shipmentsRepository.findOfOrder dto.orderId with
    | some _ => throw (.badRequest s!"A shipment already exists for order \"{dto.orderId}\"")
    | none =>
      let estimatedDeliveryDate ← estimatedDelivery dto
      let savedShipment ← shipmentsRepository.insert
        { id := 0
          orderId := dto.orderId
          carrier := dto.carrier
          trackingNumber := dto.trackingNumber
          status := .labelCreated
          shippingAddress := dto.shippingAddress
          weight := dto.weight
          dimensions := dto.dimensions
          shippingCost := dto.shippingCost
          estimatedDeliveryDate := some estimatedDeliveryDate
          labelUrl := dto.labelUrl
          notes := dto.notes }
      let now ← dateNow
      ordersRepository.save (shippedOrder order dto.trackingNumber now)
      emit (.shipmentCreated savedShipment.id order.id
        savedShipment.trackingNumber savedShipment.carrier)
      pure savedShipment

/-- The order as a delivered shipment leaves it. -/
def deliveredOrder (order : Order) (now : Date) : Order :=
  { order with status := .delivered, deliveredAt := some now }

def syncOrderStatus (orderId : Id) (shipmentStatus : ShipmentStatus) :
    Service Unit := do
  match ← ordersRepository.findOne orderId with
  | none => pure ()
  | some order =>
    if shipmentStatus = .delivered then
      let now ← dateNow
      ordersRepository.save (deliveredOrder order now)

/-- The shipment as a status update leaves it. -/
def movedShipment (shipment : Shipment) (dto : UpdateShipmentStatusDto) (now : Date) : Shipment :=
  { shipment with
    status := dto.status
    notes := dto.notes.orElse fun _ => shipment.notes
    actualDeliveryDate :=
      if dto.status = .delivered then some now
      else shipment.actualDeliveryDate }

def updateStatus (id : Id) (dto : UpdateShipmentStatusDto) :
    Service ShipmentResponseDto := do
  match ← shipmentsRepository.findOne id with
  | none => throw (.notFound s!"Shipment with ID \"{id}\" not found")
  | some shipment =>
    if !isValidStateTransition shipment.status dto.status then
      throw (.badRequest (s!"Invalid state transition from {shipment.status} to " ++
          s!"{dto.status}"))
    let now ← dateNow
    let updatedShipment := movedShipment shipment dto now
    shipmentsRepository.save updatedShipment
    syncOrderStatus shipment.orderId dto.status
    emit (.shipmentStatusUpdated id shipment.orderId dto.status shipment.status)
    pure updatedShipment

end ShippingService

end MarketX.Commerce
