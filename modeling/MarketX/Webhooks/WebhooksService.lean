/-
Module: MarketX.Webhooks.WebhooksService
Purpose: The outgoing webhooks (`webhooks/webhooks.service.ts`): the dispatch
  of an event, the attempts to deliver it, and the check of a signature.
Trusted boundary: human-reviewed model of the source; a UUID is new
Main exports: WebhookEventType, Webhook, WebhookDelivery, World
-/
import MarketX.Notifications.Delivery
import MarketX.Numerals.Digest
import MarketX.Numerals.JsonText

namespace MarketX.OutgoingWebhooks

open Effects Numerals
open Notifications (toISOString)

/-! ### Webhooks -/

inductive WebhookEventType where
  | userCreated
  | userUpdated
  | userDeleted
  | orderCreated
  | orderUpdated
  | orderCompleted
  | paymentSuccess
  | paymentFailed
deriving DecidableEq

def WebhookEventType.text : WebhookEventType → String
  | .userCreated => "user.created"
  | .userUpdated => "user.updated"
  | .userDeleted => "user.deleted"
  | .orderCreated => "order.created"
  | .orderUpdated => "order.updated"
  | .orderCompleted => "order.completed"
  | .paymentSuccess => "payment.success"
  | .paymentFailed => "payment.failed"

structure Webhook where
  id : Id
  url : String
  secret : String
  events : List WebhookEventType
  isActive : Bool
  failureCount : ℕ
  lastFailureAt : Option Date
  lastSuccessAt : Option Date
deriving DecidableEq

instance : Keyed Webhook := ⟨Webhook.id⟩

/-- The text that a column `simple-array` holds. -/
def simpleArray (events : List WebhookEventType) : String :=
  ",".intercalate (events.map WebhookEventType.text)

/-- What an update sets; the other columns stay. -/
structure WebhookUpdate where
  failureCount : Option ℕ := none
  lastFailureAt : Option Date := none
  lastSuccessAt : Option Date := none
deriving DecidableEq

def WebhookUpdate.apply (update : WebhookUpdate) (webhook : Webhook) :
    Webhook :=
  { webhook with
    failureCount := update.failureCount.getD webhook.failureCount
    lastFailureAt := update.lastFailureAt <|> webhook.lastFailureAt
    lastSuccessAt := update.lastSuccessAt <|> webhook.lastSuccessAt }

/-! ### Deliveries -/

abbrev Headers := List (String × String)

inductive DeliveryStatus where
  | pending
  | success
  | failed
  | exhausted
deriving DecidableEq

/-- What is kept of the answer to a POST, or of the error. -/
structure DeliveryResponse where
  statusCode : ℕ
  body : String
  headers : Headers
deriving DecidableEq

structure WebhookDelivery where
  id : Id
  webhookId : Id
  eventType : WebhookEventType
  payload : Json
  signature : String
  attempts : ℕ
  maxRetries : ℕ
  nextRetryAt : Option Date
  status : DeliveryStatus
  response : Option DeliveryResponse
  createdAt : Date
  updatedAt : Date

instance : Keyed WebhookDelivery := ⟨WebhookDelivery.id⟩

/-- The answer of an endpoint that accepts a POST. -/
structure Response where
  status : ℕ
  data : Json
  headers : Headers

/-- What a POST or a repository throws; a POST that was answered carries the
status and the headers of the answer. -/
structure DeliveryError where
  message : String
  response : Option (ℕ × Headers) := none
deriving DecidableEq

structure PostRequest where
  url : String
  body : Json
  headers : Headers
  timeout : ℕ

/-! ### Effects -/

inductive Callback where
  | attemptDelivery (deliveryId : Id)
  | deleteDelivery (deliveryId : Id)
deriving DecidableEq

def Callback.deliveryId : Callback → Id
  | .attemptDelivery deliveryId | .deleteDelivery deliveryId => deliveryId

/-- A callback that has been scheduled, and after how many milliseconds. -/
structure Timer where
  callback : Callback
  delay : ℕ
deriving DecidableEq

/-- The table, the queue and the timers of the process, the clock, and the
answers that the endpoints will give to the POSTs they accept. -/
structure World where
  webhooks : Table Webhook
  deliveryQueue : Table WebhookDelivery
  timers : List Timer
  now : Date
  answers : ℕ → Response
  accepted : ℕ

/-- An id that neither the queue nor a timer knows. -/
def World.newId (world : World) : Id := world.timers.foldr (fun timer bound =>
    max bound (timer.callback.deliveryId + 1)) world.deliveryQueue.next

def World.changeWebhook (world : World) (id : Id) (change : Webhook → Webhook) : World :=
  match world.webhooks.row id with
  | none => world
  | some webhook =>
    { world with webhooks := world.webhooks.save (change webhook) }

/-- `mutateDelivery` changes the delivery in place: what the queue no longer
holds is changed for nobody. -/
inductive Op where
  | findActive (eventType : WebhookEventType)
  | findOne (id : Id)
  | update (id : Id) (changes : WebhookUpdate)
  | increment (id : Id)
  | post (request : PostRequest)
  | randomUUID
  | dateNow
  | getDelivery (deliveryId : Id)
  | setDelivery (delivery : WebhookDelivery)
  | mutateDelivery (delivery : WebhookDelivery)
  | setTimeout (callback : Callback) (delay : ℕ)

@[reducible] def Reply : Op → Type
  | .findActive _ => List Webhook
  | .findOne _ => Option Webhook
  | .post _ => Response
  | .randomUUID => Id
  | .dateNow => Date
  | .getDelivery _ => Option WebhookDelivery
  | _ => Unit

/-- The column is compared as one text. -/
def act : (op : Op) → World → Reply op × World
  | .findActive eventType, world =>
    (world.webhooks.rows.filter fun webhook =>
      webhook.isActive ∧ simpleArray webhook.events = eventType.text, world)
  | .findOne id, world => (world.webhooks.row id, world)
  | .update id changes, world => ((), world.changeWebhook id changes.apply)
  | .increment id, world =>
    ((), world.changeWebhook id fun webhook =>
      { webhook with failureCount := webhook.failureCount + 1 })
  | .post _, world =>
    (world.answers world.accepted, { world with accepted := world.accepted + 1 })
  | .randomUUID, world => (world.newId, world)
  | .dateNow, world => (world.now, world)
  | .getDelivery deliveryId, world =>
    (world.deliveryQueue.row deliveryId, world)
  | .setDelivery delivery, world =>
    ((), { world with deliveryQueue := world.deliveryQueue.save delivery })
  | .mutateDelivery delivery, world =>
    ((), if (world.deliveryQueue.row delivery.id).isSome then
      { world with deliveryQueue := world.deliveryQueue.save delivery }
    else world)
  | .setTimeout callback delay, world =>
    ((), { world with timers := world.timers ++ [⟨callback, delay⟩] })

/-- The database and the endpoints may throw. -/
def mayFail : Op → Bool
  | .findActive _ | .findOne _ | .update .. | .increment _ | .post _ => true
  | _ => false

abbrev signature : Signature := ⟨Op, Reply⟩

def outgoing : Handler signature World := ⟨act, mayFail⟩

abbrev Service (α : Type) := Program signature DeliveryError α

def await (op : Op) : Service (Reply op) := Program.perform (S := signature) op

def setTimeout (callback : Callback) (delay : ℕ) : Service Unit :=
  await (.setTimeout callback delay)

def setImmediate (callback : Callback) : Service Unit := setTimeout callback 0

/-! ### The service -/

/-- HMAC-SHA-256 of a text under a secret, and the text of a UUID. -/
structure WebhooksService where
  hmac : (secret text : String) → Digest
  uuid : Id → String

namespace WebhooksService

variable (service : WebhooksService)

def maxRetries : ℕ := 5

def timeoutMs : ℕ := 10000

def findOne (id : Id) : Service Webhook := do
  match ← await (.findOne id) with
  | none => throw { message := s!"Webhook with ID {service.uuid id} not found" }
  | some webhook => pure webhook

def findActiveWebhooksForEvent (eventType : WebhookEventType) :
    Service (List Webhook) := await (.findActive eventType)

def generateSignature (payload : Json) (secret : String) : String :=
  String.ofList (hex (service.hmac secret payload.stringify))

def scheduleDelivery (webhook : Webhook) (eventType : WebhookEventType)
    (payload : Json) : Service Unit := do
  let deliveryId ← await .randomUUID
  let createdAt ← await .dateNow
  let updatedAt ← await .dateNow
  await (.setDelivery
    { id := deliveryId
      webhookId := webhook.id
      eventType
      payload
      signature := service.generateSignature payload webhook.secret
      attempts := 0
      maxRetries
      nextRetryAt := none
      status := .pending
      response := none
      createdAt
      updatedAt })
  setImmediate (.attemptDelivery deliveryId)

def dispatchEvent (eventType : WebhookEventType) (payload : Json) :
    Service Unit := do
  let webhooks ← findActiveWebhooksForEvent eventType
  webhooks.forM fun webhook => service.scheduleDelivery webhook eventType payload

def calculateBackoffDelay (attempt : ℕ) : ℕ := min (2 ^ attempt * 1000) 60000

def updateWebhookSuccess (webhookId : Id) : Service Unit := do
  let lastSuccessAt ← await .dateNow
  await (.update webhookId { failureCount := some 0, lastSuccessAt := some lastSuccessAt })

def updateWebhookFailure (webhookId : Id) : Service Unit := do
  await (.increment webhookId)
  let lastFailureAt ← await .dateNow
  await (.update webhookId { lastFailureAt := some lastFailureAt })

/-- The body of the POST. -/
def deliveryBody (delivery : WebhookDelivery) : Json :=
  .object [("event", .string delivery.eventType.text), ("data", delivery.payload),
    ("timestamp", .string (toISOString delivery.createdAt)),
    ("delivery_id", .string (service.uuid delivery.id))]

def deliveryRequest (url : String) (delivery : WebhookDelivery) :
    PostRequest where
  url := url
  body := service.deliveryBody delivery
  headers := [("Content-Type", "application/json"), ("X-Webhook-Signature", delivery.signature),
    ("X-Webhook-Event", delivery.eventType.text), ("User-Agent", "Webhook-Service/1.0")]
  timeout := timeoutMs

/-- The `try` block of an attempt. -/
def deliver (delivery : WebhookDelivery) : Service Unit := do
  let webhook ← service.findOne delivery.webhookId
  let response ← await (.post (service.deliveryRequest webhook.url delivery))
  await (.mutateDelivery { delivery with
    status := .success
    response := some
      { statusCode := response.status
        body := response.data.stringify
        headers := response.headers } })
  updateWebhookSuccess webhook.id
  setTimeout (.deleteDelivery delivery.id) 60000

/-- The `catch` block of an attempt. -/
def attemptFailed (delivery : WebhookDelivery) (error : DeliveryError) :
    Service Unit := do
  let response : DeliveryResponse :=
    { statusCode := (error.response.map Prod.fst).getD 0
      body := error.message
      headers := (error.response.map Prod.snd).getD [] }
  if delivery.attempts ≥ delivery.maxRetries then
    await (.mutateDelivery { delivery with response := some response, status := .exhausted })
    updateWebhookFailure delivery.webhookId
    setTimeout (.deleteDelivery delivery.id) 300000
  else
    let delay := calculateBackoffDelay delivery.attempts
    let now ← await .dateNow
    await (.mutateDelivery
      { delivery with
        response := some response
        status := .failed
        nextRetryAt := some (now + delay) })
    setTimeout (.attemptDelivery delivery.id) delay

def attemptDelivery (deliveryId : Id) : Service Unit := do
  match ← await (.getDelivery deliveryId) with
  | none => pure ()
  | some delivery =>
    let updatedAt ← await .dateNow
    let delivery :=
      { delivery with attempts := delivery.attempts + 1, updatedAt }
    await (.mutateDelivery delivery)
    Program.tryCatch (service.deliver delivery) (attemptFailed delivery)

/-- A signature that has not the length of a digest makes the comparison
throw. -/
def validateSignature (payload signature secret : String) :
    Except DeliveryError Bool :=
  let expectedSignature := hex (service.hmac secret payload)
  match timingSafeEqual (hexBytes signature.toList) (hexBytes expectedSignature) with
  | none => .error { message := "Input buffers must have the same byte length" }
  | some equal => .ok equal

end WebhooksService

end MarketX.OutgoingWebhooks
