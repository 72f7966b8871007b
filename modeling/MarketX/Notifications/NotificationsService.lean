/-
Module: MarketX.Notifications.NotificationsService
Purpose: The processing of one notification
  (`notifications/notifications.service.ts`): the send through its channel,
  the retries (`retry-strategy.service.ts`), the dead letter of a send that
  keeps failing (`dead-letter-queue.service.ts`), and the status that is
  stored.
Trusted boundary: human-reviewed model of the source
Main exports: RetryStrategyService.executeWithRetry, DeadLetterQueueService.routeToDLQ
-/
import MarketX.Notifications.Delivery

namespace MarketX.Notifications

open Effects Numerals

/-! ### Retries -/

structure RetryConfig where
  maxRetries : ℕ
  initialDelayMs : ℕ
  maxDelayMs : ℕ
  backoffMultiplier : ℕ
  useJitter : Bool
deriving DecidableEq

/-- `Partial<RetryConfig>`. -/
structure PartialRetryConfig where
  maxRetries : Option ℕ := none
  initialDelayMs : Option ℕ := none
  maxDelayMs : Option ℕ := none
  backoffMultiplier : Option ℕ := none
  useJitter : Option Bool := none
deriving DecidableEq

def DEFAULT_RETRY_CONFIG : RetryConfig where
  maxRetries := 3
  initialDelayMs := 1000
  maxDelayMs := 30000
  backoffMultiplier := 2
  useJitter := true

def RetryConfig.toPartial (config : RetryConfig) : PartialRetryConfig where
  maxRetries := some config.maxRetries
  initialDelayMs := some config.initialDelayMs
  maxDelayMs := some config.maxDelayMs
  backoffMultiplier := some config.backoffMultiplier
  useJitter := some config.useJitter

/-- `{ ...DEFAULT_RETRY_CONFIG, ...config }`. -/
def PartialRetryConfig.overDefault (config : PartialRetryConfig) :
    RetryConfig where
  maxRetries := config.maxRetries.getD DEFAULT_RETRY_CONFIG.maxRetries
  initialDelayMs := config.initialDelayMs.getD DEFAULT_RETRY_CONFIG.initialDelayMs
  maxDelayMs := config.maxDelayMs.getD DEFAULT_RETRY_CONFIG.maxDelayMs
  backoffMultiplier := config.backoffMultiplier.getD DEFAULT_RETRY_CONFIG.backoffMultiplier
  useJitter := config.useJitter.getD DEFAULT_RETRY_CONFIG.useJitter

structure RetryResult (α : Type) where
  success : Bool
  result : Option α
  attempts : List RetryAttempt
  totalDurationMs : Date
  error : Option HttpException

namespace RetryStrategyService

def getConfigForNotificationType (notificationType : String) :
    PartialRetryConfig :=
  match notificationType with
  | "email" =>
    { maxRetries := some 5, initialDelayMs := some 2000
      maxDelayMs := some 60000 }
  | "push" =>
    { maxRetries := some 3, initialDelayMs := some 1000
      maxDelayMs := some 30000 }
  | "sms" =>
    { maxRetries := some 4, initialDelayMs := some 3000
      maxDelayMs := some 45000 }
  | _ => DEFAULT_RETRY_CONFIG.toPartial

def calculateBackoff (attempt : ℕ) (config : RetryConfig) : Service ℕ := do
  let exponentialDelay := config.initialDelayMs * config.backoffMultiplier ^ (attempt - 1)
  let cappedDelay := min exponentialDelay config.maxDelayMs
  if config.useJitter then
    let random ← await .random
    pure (random * cappedDelay).floor.toNat
  else pure cappedDelay

section

variable {α : Type} (operation : Service α) (finalConfig : RetryConfig)
  (context : RetryContext) (startTime : Date)

def summary (attempt : RetryAttempt) : AttemptSummary where
  attemptNumber := attempt.attemptNumber
  error := attempt.error.map HttpException.message
  timestamp := attempt.timestamp

/-- All retries exhausted. -/
def exhausted (attempts : List RetryAttempt) : Service (RetryResult α) := do
  let finalError := attempts.getLast?.bind RetryAttempt.error
  await (.emit (.retryExhausted context attempts.length
    ((← await .dateNow) - startTime) (finalError.map HttpException.message) (attempts.map summary)))
  let now ← await .dateNow
  pure ⟨false, none, attempts, now - startTime, finalError⟩

def nextRetryInMs (attempt : ℕ) : Service ℕ :=
  if attempt < finalConfig.maxRetries then
    calculateBackoff (attempt + 1) finalConfig
  else pure 0

/-- The retry `attempt` has thrown. -/
def retryFailed (attempt delayMs : ℕ) (error : HttpException) :
    Service RetryAttempt := do
  let timestamp ← await .dateNow
  let nextRetryInMs ← nextRetryInMs finalConfig attempt
  await (.emit (.retryAttemptFailed context attempt finalConfig.maxRetries
    error.message nextRetryInMs))
  pure ⟨attempt, delayMs, timestamp, some error⟩

/-- The retry `attempt` has returned. -/
def retrySucceeded (attempt delayMs : ℕ) (attempts : List RetryAttempt)
    (result : α) : Service (RetryResult α) := do
  let timestamp ← await .dateNow
  let attempts := attempts ++ [⟨attempt, delayMs, timestamp, none⟩]
  await (.emit (.retrySucceeded context attempt attempts.length ((← await .dateNow) - startTime)))
  let now ← await .dateNow
  pure ⟨true, some result, attempts, now - startTime, none⟩

/-- The retries from `attempt` on, of which some remain.  The `try` is around
the operation only: nothing else in it throws. -/
def retry (attempt : ℕ) :
    ℕ → List RetryAttempt → Service (RetryResult α)
  | 0, attempts => exhausted context startTime attempts
  | remaining + 1, attempts => do
      let delayMs ← calculateBackoff attempt finalConfig
      await (.sleep delayMs)
      match ← operation.attempt with
      | .ok result => retrySucceeded context startTime attempt delayMs attempts result
      | .error error => do
          let failed ← retryFailed finalConfig context attempt delayMs error
          retry (attempt + 1) remaining (attempts ++ [failed])

end

def executeWithRetry {α : Type} (operation : Service α)
    (config : PartialRetryConfig) (context : RetryContext) :
    Service (RetryResult α) := do
  let finalConfig := config.overDefault
  let startTime ← await .dateNow
  match ← operation.attempt with
  | .ok result => do
      let now ← await .dateNow
      pure ⟨true, some result, [], now - startTime, none⟩
  | .error error => do
      let timestamp ← await .dateNow
      await (.emit (.retryStarted context 0 finalConfig.maxRetries error.message))
      retry operation finalConfig context startTime 1 finalConfig.maxRetries
        [⟨0, 0, timestamp, some error⟩]

end RetryStrategyService

/-! ### Dead letters -/

/-- `error.name`. -/
def errorName : HttpException → String
  | .badRequest _ => "BadRequestException"
  | .notFound _ => "NotFoundException"
  | .forbidden _ => "ForbiddenException"
  | .error _ => "Error"

structure DeadLetterContext where
  attempts : ℕ
  retryHistory : List RetryHistoryItem
  eventId : Option Id := none
  correlationId : Option Id := none
  metadata : CallerMetadata

/-- `history[0]?.timestamp || new Date()`. -/
def firstFailureAt (history : List RetryHistoryItem) : Service Date :=
  match history with
  | first :: _ => pure first.timestamp
  | [] => await .dateNow

/-- What is caught here is thrown again. -/
def DeadLetterQueueService.routeToDLQ (eventType domain : String)
    (originalPayload : DeadLetterPayload) (error : HttpException)
    (context : DeadLetterContext) : Service DeadLetterEntity := do
  let firstFailureAt ← firstFailureAt context.retryHistory
  let lastFailureAt ← await .dateNow
  let createdAt ← await .dateNow
  let updatedAt ← await .dateNow
  let entry : NewDeadLetter :=
    { eventType, domain, originalPayload
      error := ⟨error.message, errorName error⟩
      failureContext :=
        { attempts := context.attempts, firstFailureAt, lastFailureAt
          retryHistory := context.retryHistory }
      metadata :=
        { context.metadata with
          eventId := context.eventId
          correlationId := context.correlationId
          sourceService := "marketx-backend" }
      status := .pending
      createdAt, updatedAt }
  let id ← await (.saveDeadLetter entry)
  let timestamp ← await .dateNow
  await (.emit (.deadLetterCreated id eventType domain context.attempts error.message timestamp))
  pure { entry with id }

/-! ### Channels -/

/-- The service, by which of its last two dependencies it has been given. -/
structure NotificationsService where
  retryStrategy : Bool
  deadLetterQueueService : Bool
deriving DecidableEq

namespace NotificationsService

def getTemplateForNotificationType : NotificationType → String
  | .orderCreated => "order-confirmation"
  | .orderUpdated => "shipping-update"
  | .welcome => "welcome"
  | _ => "default"

/-- The address in the metadata, or that of the user. -/
def userEmail (notification : NotificationEntity) :
    Service (Option Json) := do
  let given := notification.metadata.bind fun metadata => metadata "email"
  if truthy given then pure given
  else
    let user ← await (.findUser notification.userId)
    pure (user.map fun user => .string user.email)

def emailJob (notification : NotificationEntity) (userEmail : Option Json) :
    EmailJob where
  «to» := userEmail
  subject := notification.title
  template := getTemplateForNotificationType notification.type
  context := Function.update (notification.metadata.getD fun _ => none)
    "message" (some (.string notification.message))

def queueEmailNotification (notification : NotificationEntity) :
    Service Unit := do
  let userEmail ← userEmail notification
  if !truthy userEmail then pure ()
  else await (.addEmail (emailJob notification userEmail))

def socketMessage (notification : NotificationEntity) (timestamp : Date) :
    SocketMessage where
  type := notification.type
  message := notification.message
  payload := notification.metadata
  timestamp := toISOString timestamp

def sendInAppNotification (notification : NotificationEntity) :
    Service Unit := do
  let timestamp ← await .dateNow
  await (.emitSocket notification.userId (socketMessage notification timestamp))

def pushEvent (notification : NotificationEntity) :
    NotificationSendPushEvent where
  userId := notification.userId
  title := notification.title
  message := notification.message
  notificationId := notification.id
  relatedEntityId := notification.relatedEntityId

def sendPushNotification (notification : NotificationEntity) : Service Unit :=
  await (.emitPush (pushEvent notification))

/-- A channel without a case is logged. -/
def sendViaChannel (notification : NotificationEntity) : Service Unit :=
  match notification.channel with
  | .email => queueEmailNotification notification
  | .inApp => sendInAppNotification notification
  | .push => sendPushNotification notification
  | _ => pure ()

/-! ### The processing -/

def contextOf (notification : NotificationEntity) : RetryContext where
  notificationId := notification.id
  userId := notification.userId
  channel := notification.channel
  type := notification.type

def payloadOf (notification : NotificationEntity) : DeadLetterPayload where
  notificationId := notification.id
  userId := notification.userId
  type := notification.type
  channel := notification.channel
  title := notification.title
  message := notification.message

def historyOf (attempts : List RetryAttempt) : List RetryHistoryItem := attempts.map fun attempt =>
    { attemptNumber := attempt.attemptNumber
      timestamp := attempt.timestamp
      error := (attempt.error.map HttpException.message).getD "Unknown error" }

/-- The dead letter of a notification. -/
def routeNotification (notification : NotificationEntity)
    (retryResult : RetryResult Unit) : Service DeadLetterEntity := DeadLetterQueueService.routeToDLQ
    s!"notification.{notification.channel.text}" "notification" (payloadOf notification)
    (retryResult.error.getD (.error "Notification processing failed"))
    { attempts := retryResult.attempts.length
      retryHistory := historyOf retryResult.attempts
      eventId := some notification.id
      metadata :=
        { priority := notification.priority
          relatedEntityType := notification.relatedEntityType
          relatedEntityId := notification.relatedEntityId } }

/-- If all retries are exhausted, the notification becomes a dead letter. -/
def routeFailure (service : NotificationsService)
    (notification : NotificationEntity) (retryResult : RetryResult Unit) :
    Service Unit :=
  if !retryResult.success && service.deadLetterQueueService then do
    let _ ← routeNotification notification retryResult
    pure ()
  else pure ()

/-- The send with its retries and its dead letter; what comes out is the
error of a send that has failed. -/
def trySend (service : NotificationsService) (notification : NotificationEntity) :
    Service (Except (Option HttpException) Unit) :=
  if service.retryStrategy then do
    let retryConfig := RetryStrategyService.getConfigForNotificationType notification.channel.text
    let retryResult ← RetryStrategyService.executeWithRetry
      (sendViaChannel notification) retryConfig (contextOf notification)
    routeFailure service notification retryResult
    pure (if retryResult.success then .ok () else .error retryResult.error)
  else do
    match ← (sendViaChannel notification).attempt with
    | .ok _ => pure (.ok ())
    | .error error => pure (.error (some error))

/-- The entity with the status the send has earned. -/
def judged (notification : NotificationEntity) :
    Except (Option HttpException) Unit → Service NotificationEntity
  | .ok _ => do
      let sentAt ← await .dateNow
      pure { notification with status := .sent, sentAt := some sentAt }
  | .error error => do
      let lastErrorAt ← await .dateNow
      let metadata := notification.metadata.getD fun _ => none
      let metadata := Function.update metadata "lastError"
        (error.map fun error => .string error.message)
      let metadata := Function.update metadata "lastErrorAt"
        (some (.string (toISOString lastErrorAt)))
      pure { notification with status := .failed, metadata := some metadata }

/-- The outer `catch`: what this save throws is logged. -/
def storeCriticalFailure (notification : NotificationEntity) :
    Service Unit := do
  let _ ← (await (.saveNotification { notification with status := .failed })).attempt
  pure ()

/-- The entity is changed in place, so the outer `catch` stores the changes
of the branch whose save has thrown. -/
def processNotification (service : NotificationsService)
    (notification : NotificationEntity) : Service Unit := do
  match ← (trySend service notification).attempt with
  | .error _ => storeCriticalFailure notification
  | .ok result => do
      let notification ← judged notification result
      match ← (await (.saveNotification notification)).attempt with
      | .ok _ => pure ()
      | .error _ => storeCriticalFailure notification

end NotificationsService

end MarketX.Notifications
