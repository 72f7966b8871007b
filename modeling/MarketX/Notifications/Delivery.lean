/-
Module: MarketX.Notifications.Delivery
Purpose: What the delivery of notifications works on: the entities
  (`notifications/notification.entity.ts`, `dead-letter-queue.service.ts`),
  the messages of the three channels, and the effects with their failures.
Trusted boundary: human-reviewed model of the source
Main exports: NotificationEntity, Delivery, DeadLetterEntity, Event
-/
import MarketX.Common.Service
import MarketX.Effects.Table
import MarketX.Numerals.Json

namespace MarketX.Notifications

open Effects Numerals

/-! ### Notifications -/

inductive NotificationType where
  | transactionReceived
  | transactionSent
  | paymentSuccess
  | paymentFailed
  | systemAlert
  | accountUpdate
  | securityAlert
  | promotion
  | reminder
  | priceDrop
  | orderCreated
  | orderUpdated
  | orderCancelled
  | orderCompleted
  | shipmentUpdate
  | passwordReset
  | welcome
deriving DecidableEq

inductive NotificationStatus where
  | pending
  | sent
  | failed
  | read
deriving DecidableEq

inductive NotificationChannel where
  | inApp
  | email
  | sms
  | push
deriving DecidableEq

def NotificationChannel.text : NotificationChannel → String
  | .inApp => "in_app"
  | .email => "email"
  | .sms => "sms"
  | .push => "push"

inductive NotificationPriority where
  | low
  | medium
  | high
  | urgent
deriving DecidableEq

/-- An object with any members; the others are `undefined`. -/
abbrev Record := String → Option Json

structure NotificationEntity where
  id : Id
  userId : Id
  title : String
  message : String
  status : NotificationStatus
  type : NotificationType
  channel : NotificationChannel
  priority : NotificationPriority
  metadata : Option Record
  relatedEntityId : Option String
  relatedEntityType : Option String
  sentAt : Option Date

instance : Keyed NotificationEntity := ⟨NotificationEntity.id⟩

structure User where
  email : String
deriving DecidableEq

/-! ### The channels -/

/-- A job of the queue for e-mail. -/
structure EmailJob where
  «to» : Option Json
  subject : String
  template : String
  context : Record

/-- What is emitted to the sockets of a user. -/
structure SocketMessage where
  type : NotificationType
  message : String
  payload : Option Record
  timestamp : String

structure NotificationSendPushEvent where
  userId : Id
  title : String
  message : String
  notificationId : Id
  relatedEntityId : Option String
deriving DecidableEq

/-- A notification in the hands of a channel. -/
inductive Delivery where
  | email (job : EmailJob)
  | socket (userId : Id) (message : SocketMessage)
  | push (event : NotificationSendPushEvent)

/-! ### Dead letters -/

structure DeadLetterPayload where
  notificationId : Id
  userId : Id
  type : NotificationType
  channel : NotificationChannel
  title : String
  message : String
deriving DecidableEq

/-- An error without its stack. -/
structure DeadLetterError where
  message : String
  name : String
deriving DecidableEq

structure RetryHistoryItem where
  attemptNumber : ℕ
  timestamp : Date
  error : String
deriving DecidableEq

structure FailureContext where
  attempts : ℕ
  firstFailureAt : Date
  lastFailureAt : Date
  retryHistory : List RetryHistoryItem
deriving DecidableEq

/-- The metadata of the caller. -/
structure CallerMetadata where
  priority : NotificationPriority
  relatedEntityType : Option String
  relatedEntityId : Option String
deriving DecidableEq

structure DeadLetterMetadata extends CallerMetadata where
  eventId : Option Id
  correlationId : Option Id
  sourceService : String
deriving DecidableEq

inductive DeadLetterStatus where
  | pending
  | investigating
  | resolved
  | discarded
deriving DecidableEq

/-- An entry before it has its generated key. -/
structure NewDeadLetter where
  eventType : String
  domain : String
  originalPayload : DeadLetterPayload
  error : DeadLetterError
  failureContext : FailureContext
  metadata : DeadLetterMetadata
  status : DeadLetterStatus
  createdAt : Date
  updatedAt : Date
deriving DecidableEq

structure DeadLetterEntity extends NewDeadLetter where
  id : Id
deriving DecidableEq

/-! ### Events -/

/-- What the retries are told about the notification. -/
structure RetryContext where
  notificationId : Id
  userId : Id
  channel : NotificationChannel
  type : NotificationType
deriving DecidableEq

structure RetryAttempt where
  attemptNumber : ℕ
  delayMs : ℕ
  timestamp : Date
  error : Option HttpException
deriving DecidableEq

/-- An attempt as the event of the last one lists it. -/
structure AttemptSummary where
  attemptNumber : ℕ
  error : Option String
  timestamp : Date
deriving DecidableEq

/-- The events for monitoring. -/
inductive Event where
  | retryStarted (context : RetryContext) (attemptNumber maxRetries : ℕ) (error : String)
  | retrySucceeded (context : RetryContext) (attemptNumber totalAttempts : ℕ)
      (totalDurationMs : Date)
  | retryAttemptFailed (context : RetryContext)
      (attemptNumber maxRetries : ℕ) (error : String) (nextRetryInMs : ℕ)
  | retryExhausted (context : RetryContext) (totalAttempts : ℕ)
      (totalDurationMs : Date) (error : Option String) (attempts : List AttemptSummary)
  | deadLetterCreated (dlqEntryId : Id) (eventType domain : String)
      (attempts : ℕ) (error : String) (timestamp : Date)
deriving DecidableEq

/-! ### The state -/

/-- The tables, what the channels have been given, the events, the clock, and
the numbers that are drawn at random. -/
structure World where
  users : Id → Option User
  notifications : Table NotificationEntity
  deadLetters : List DeadLetterEntity
  deliveries : List Delivery
  events : List Event
  now : Date
  random : ℕ → ℚ
  drawn : ℕ

/-- The dead letters are numbered as they come. -/
def World.insertDeadLetter (world : World) (entry : NewDeadLetter) : World :=
  { world with
    deadLetters := world.deadLetters ++
      [{ entry with id := world.deadLetters.length }] }

def World.hand (world : World) (delivery : Delivery) : World :=
  { world with deliveries := world.deliveries ++ [delivery] }

/-! ### The effects -/

/-- `emit` is for the events above.  Their only listener, which takes every
event, is asynchronous. -/
inductive Op where
  | findUser (userId : Id)
  | addEmail (job : EmailJob)
  | emitSocket (userId : Id) (message : SocketMessage)
  | emitPush (event : NotificationSendPushEvent)
  | saveNotification (notification : NotificationEntity)
  | saveDeadLetter (entry : NewDeadLetter)
  | emit (event : Event)
  | sleep (milliseconds : ℕ)
  | dateNow
  | random

@[reducible] def Reply : Op → Type
  | .findUser _ => Option User
  | .saveDeadLetter _ => Id
  | .dateNow => Date
  | .random => ℚ
  | _ => Unit

def act : (op : Op) → World → Reply op × World
  | .findUser userId, world => (world.users userId, world)
  | .addEmail job, world => ((), world.hand (.email job))
  | .emitSocket userId message, world =>
    ((), world.hand (.socket userId message))
  | .emitPush event, world => ((), world.hand (.push event))
  | .saveNotification notification, world =>
    ((), { world with
      notifications := world.notifications.save notification })
  | .saveDeadLetter entry, world =>
    (world.deadLetters.length, world.insertDeadLetter entry)
  | .emit event, world => ((), { world with events := world.events ++ [event] })
  | .sleep milliseconds, world =>
    ((), { world with now := world.now + milliseconds })
  | .dateNow, world => (world.now, world)
  | .random, world =>
    (world.random world.drawn, { world with drawn := world.drawn + 1 })

def mayFail : Op → Bool
  | .emit _ | .sleep _ | .dateNow | .random => false
  | _ => true

abbrev signature : Signature := ⟨Op, Reply⟩

def delivery : Handler signature World := ⟨act, mayFail⟩

abbrev Service (α : Type) := Program signature HttpException α

def await (op : Op) : Service (Reply op) := Program.perform (S := signature) op

/-! ### Dates as texts -/

/-- A number with zeros in front. -/
def padded (width number : ℕ) : String :=
  String.ofList (List.leftpad width '0' (toString number).toList)

/-- The year, the month and the day of the month, in days since the epoch. -/
def civilDate (days : ℤ) : ℤ × ℕ × ℕ :=
  -- years begin in March here, so that a leap day is the last day of its year
  let shifted := days + 719468
  let era := shifted / 146097
  let dayOfEra := (shifted % 146097).toNat
  let yearOfEra := (dayOfEra - dayOfEra / 1460 + dayOfEra / 36524 - dayOfEra / 146096) / 365
  let dayOfYear := dayOfEra - (365 * yearOfEra + yearOfEra / 4 - yearOfEra / 100)
  let monthFromMarch := (5 * dayOfYear + 2) / 153
  let day := dayOfYear - (153 * monthFromMarch + 2) / 5 + 1
  let month := if monthFromMarch < 10 then monthFromMarch + 3
    else monthFromMarch - 9
  let year := yearOfEra + era * 400
  (if month ≤ 2 then year + 1 else year, month, day)

/-- `date.toISOString()`. -/
def toISOString (date : Date) : String :=
  let (year, month, day) := civilDate (date / 86400000)
  let milliseconds := (date % 86400000).toNat
  let yearText :=
    if 0 ≤ year ∧ year ≤ 9999 then padded 4 year.toNat
    else (if year < 0 then "-" else "+") ++ padded 6 year.natAbs
  s!"{yearText}-{padded 2 month}-{padded 2 day}T" ++ s!"{padded 2 (milliseconds / 3600000)}:" ++
    s!"{padded 2 (milliseconds / 60000 % 60)}:" ++ s!"{padded 2 (milliseconds / 1000 % 60)}." ++
    s!"{padded 3 (milliseconds % 1000)}Z"

example : toISOString 951782400123 = "2000-02-29T00:00:00.123Z" := by decide

end MarketX.Notifications
