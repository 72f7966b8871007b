/-
Module: MarketX.Proofs.DeliveryRecord
Purpose: What the stored status of a notification says after it has been
  processed, whatever becomes of the sends, of the dead letter and of the
  saves: exactly when a notification stored as SENT has been handed to its
  channel, and one stored as FAILED has not and has its dead letter.
Trusted boundary: human-reviewed definition of HandedOver, Recorded, Fresh and
  recordKept
Main exports: HandedOver, Recorded, Fresh, delivery_recorded_iff
-/
import MarketX.Effects.Schedules
import MarketX.Notifications.NotificationsService

namespace MarketX.Notifications

open Effects Numerals Handler NotificationsService RetryStrategyService

/-! ### The record -/

/-- The delivery is this notification's, on its own channel. -/
def Carries (notification : NotificationEntity) : Delivery → Prop
  | .email job =>
    notification.channel = .email ∧ truthy job.to = true ∧ job.subject = notification.title ∧
      job.context "message" = some (.string notification.message)
  | .socket userId message =>
    notification.channel = .inApp ∧ userId = notification.userId ∧
      message.message = notification.message
  | .push event => notification.channel = .push ∧ event.notificationId = notification.id

/-- Between two worlds the notification has been handed to its channel. -/
def HandedOver (world after : World) (notification : NotificationEntity) :
    Prop := ∃ new, after.deliveries = world.deliveries ++ new ∧
    ∃ delivery ∈ new, Carries notification delivery

def World.statusOf (world : World) (notification : NotificationEntity) :
    Option NotificationStatus :=
  (world.notifications.row notification.id).map NotificationEntity.status

def World.deadLettersOf (world : World) (notification : NotificationEntity) :
    List DeadLetterEntity := world.deadLetters.filter fun entry =>
    entry.metadata.eventId = some notification.id

structure Recorded (world after : World) (notification : NotificationEntity) :
    Prop where
  sent : after.statusOf notification = some .sent → HandedOver world after notification
  failed : after.statusOf notification = some .failed → ¬HandedOver world after notification ∧
      (after.deadLettersOf notification).length = 1
  unlettered : HandedOver world after notification → after.deadLettersOf notification = []

/-- The notification has just been stored. -/
structure Fresh (world : World) (notification : NotificationEntity) : Prop where
  pending : world.statusOf notification = some .pending
  unlettered : world.deadLettersOf notification = []

/-! ### The condition -/

section

variable (world : World) (notification : NotificationEntity)

def givenEmail : Option Json := notification.metadata.bind fun metadata => metadata "email"

def World.emailOf : Option Json :=
  if truthy (givenEmail notification) then givenEmail notification
  else (world.users notification.userId).map fun user => .string user.email

/-- The notification has a channel that delivers, and an address there. -/
def World.reaches : Bool :=
  match notification.channel with
  | .email => truthy (world.emailOf notification)
  | .inApp | .push => true
  | .sms => false

/-- How many effects that may throw a send has, if none of them throws: the
look-up of the user, and the hand-over. -/
def World.callsOf : ℕ :=
  match notification.channel with
  | .email =>
    (if truthy (givenEmail notification) then 0 else 1) +
      if truthy (world.emailOf notification) then 1 else 0
  | .inApp | .push => 1
  | .sms => 0

end

def throwsNext (script : List Fault) : Bool := (script.headD none).isSome

/-- Whether a send of so many calls returns, and what is left of the script
after it. -/
def send : ℕ → List Fault → Bool × List Fault
  | 0, script => (true, script)
  | calls + 1, script =>
    if throwsNext script then (false, script.tail)
    else send calls script.tail

/-- Whether one of so many sends returns, and what is left of the script
after them. -/
def sends (calls : ℕ) : ℕ → List Fault → Bool × List Fault
  | 0, script => (false, script)
  | attempts + 1, script =>
    match send calls script with
    | (true, left) => (true, left)
    | (false, left) => sends calls attempts left

def NotificationsService.attemptsOf (service : NotificationsService)
    (notification : NotificationEntity) : ℕ :=
  if service.retryStrategy then
    (getConfigForNotificationType notification.channel.text).overDefault.maxRetries + 1
  else 1

def NotificationsService.routes (service : NotificationsService) : Bool :=
  service.retryStrategy && service.deadLetterQueueService

/-- A send returns that has reached its channel, and SENT is saved; or none
returns, and the dead letter is saved; or else no status is saved either. -/
def recordKept (service : NotificationsService) (notification : NotificationEntity) (world : World)
    (script : List Fault) : Bool :=
  match sends (world.callsOf notification) (service.attemptsOf notification) script with
  | (true, left) =>
    if throwsNext left then throwsNext left.tail
    else world.reaches notification
  | (false, left) =>
    if service.routes then !throwsNext left || throwsNext left.tail
    else throwsNext left && throwsNext left.tail

/-! ### What changes nothing but the clock and the events -/

structure Unmoved (world after : World) : Prop where
  users : after.users = world.users
  notifications : after.notifications = world.notifications
  deadLetters : after.deadLetters = world.deadLetters
  deliveries : after.deliveries = world.deliveries

namespace Unmoved

variable {world middle after : World}

theorem refl (world : World) : Unmoved world world := ⟨rfl, rfl, rfl, rfl⟩

theorem trans (first : Unmoved world middle) (second : Unmoved middle after) :
    Unmoved world after where
  users := second.users.trans first.users
  notifications := second.notifications.trans first.notifications
  deadLetters := second.deadLetters.trans first.deadLetters
  deliveries := second.deliveries.trans first.deliveries

theorem hand (unmoved : Unmoved world after) (delivery : Delivery) :
    Unmoved (world.hand delivery) (after.hand delivery) where
  users := unmoved.users
  notifications := unmoved.notifications
  deadLetters := unmoved.deadLetters
  deliveries := congrArg (· ++ [delivery]) unmoved.deliveries

variable (unmoved : Unmoved world after) (notification : NotificationEntity)
include unmoved

theorem emailOf : after.emailOf notification = world.emailOf notification := by
  rw [World.emailOf, World.emailOf, unmoved.users]

theorem reaches : after.reaches notification = world.reaches notification := by
  rw [World.reaches, World.reaches, unmoved.emailOf]

theorem callsOf : after.callsOf notification = world.callsOf notification := by
  rw [World.callsOf, World.callsOf, unmoved.emailOf]

end Unmoved

/-- A program that returns a value as `post` says, takes nothing of the
script, and moves nothing. -/
def Quiet {α : Type} (program : Service α) (post : α → Prop) : Prop :=
  ∀ script world, ∃ value after, delivery.play program script world = (.ok value, script, after) ∧
      Unmoved world after ∧ post value

section

variable {α β : Type} {post : α → Prop}

theorem quiet_pure {value : α} (holds : post value) :
    Quiet (pure value) post :=
  fun _ world => ⟨value, world, rfl, .refl world, holds⟩

theorem quiet_bind {first : Service α} {rest : α → Service β} {post : β → Prop}
    (quiet : Quiet first fun value => Quiet (rest value) post) :
    Quiet (first >>= rest) post := by
  intro script world
  obtain ⟨value, middle, played, unmoved, continues⟩ := quiet script world
  obtain ⟨result, after, playedOn, unmovedOn, holds⟩ := continues script middle
  exact ⟨result, after, (play_bind_ok played).trans playedOn, unmoved.trans unmovedOn, holds⟩

/-- An effect that never throws does nothing but move the clock, draw a
number or emit an event. -/
theorem quiet_await {op : Op} (safe : mayFail op = false)
    {post : Reply op → Prop} (holds : ∀ reply, post reply) :
    Quiet (await op) post := by
  intro script world
  refine ⟨_, _, play_safe safe script world, ?_, holds _⟩
  cases op with
  | emit event => exact ⟨rfl, rfl, rfl, rfl⟩
  | sleep milliseconds => exact ⟨rfl, rfl, rfl, rfl⟩
  | dateNow => exact ⟨rfl, rfl, rfl, rfl⟩
  | random => exact ⟨rfl, rfl, rfl, rfl⟩
  | _ => cases safe

theorem quiet_ite {test : Prop} [Decidable test] {yes no : Service α}
    (taken : Quiet yes post) (skipped : Quiet no post) :
    Quiet (if test then yes else no) post := by
  split
  next => exact taken
  next => exact skipped

end

section

variable {α : Type} (config : RetryConfig) (context : RetryContext) (startTime : Date)

theorem quiet_calculateBackoff (attempt : ℕ) {post : ℕ → Prop} (holds : ∀ delayMs, post delayMs) :
    Quiet (calculateBackoff attempt config) post := quiet_ite
    (quiet_bind (quiet_await rfl fun _ => quiet_pure (holds _))) (quiet_pure (holds _))

theorem quiet_nextRetryInMs (attempt : ℕ) {post : ℕ → Prop} (holds : ∀ delayMs, post delayMs) :
    Quiet (nextRetryInMs config attempt) post :=
  quiet_ite (quiet_calculateBackoff config (attempt + 1) holds) (quiet_pure (holds 0))

theorem quiet_retryFailed (attempt delayMs : ℕ) (error : HttpException)
    {post : RetryAttempt → Prop} (holds : ∀ attempt, post attempt) :
    Quiet (retryFailed config context attempt delayMs error) post :=
  quiet_bind <| quiet_await rfl fun _ => quiet_bind <|
    quiet_nextRetryInMs config attempt fun _ => quiet_bind <|
      quiet_await rfl fun _ => quiet_pure (holds _)

theorem quiet_retrySucceeded (attempt delayMs : ℕ) (attempts : List RetryAttempt) (result : α) :
    Quiet (retrySucceeded context startTime attempt delayMs attempts result)
      (fun retryResult => retryResult.success = true) :=
  quiet_bind <| quiet_await rfl fun _ => quiet_bind <|
    quiet_await rfl fun _ => quiet_bind <| quiet_await rfl fun _ =>
      quiet_bind <| quiet_await rfl fun _ => quiet_pure rfl

theorem quiet_exhausted (attempts : List RetryAttempt) :
    Quiet (exhausted (α := α) context startTime attempts)
      (fun retryResult => retryResult.success = false) :=
  quiet_bind <| quiet_await rfl fun _ => quiet_bind <|
    quiet_await rfl fun _ => quiet_bind <| quiet_await rfl fun _ => quiet_pure rfl

end

/-! ### One send -/

/-- Where nothing moves but the notification, if it is carried. -/
def Settled (notification : NotificationEntity) (world after : World) :
    Bool → Prop
  | false => Unmoved world after
  | true => ∃ delivery, Carries notification delivery ∧ Unmoved (world.hand delivery) after

/-- A program ends as the script says of a send of so many calls. -/
def SendsAs {α : Type} (notification : NotificationEntity)
    (program : Service α) (calls : ℕ) (reaches : Bool) (script : List Fault)
    (world : World) : Prop := ∃ outcome after, delivery.play program script world =
      (outcome, (send calls script).2, after) ∧ outcome.isOk = (send calls script).1 ∧
    Settled notification world after ((send calls script).1 && reaches)

section

variable {notification : NotificationEntity} {script : List Fault} {world : World}

/-- An effect that may throw acts, or throws and moves nothing, as the next
entry says. -/
theorem play_next (op : Op) (fails : mayFail op = true) (script : List Fault) (world : World) :
    (throwsNext script = false ∧ delivery.play (await op) script world =
        (.ok (act op world).1, script.tail, (act op world).2)) ∨
      (throwsNext script = true ∧ ∃ error, delivery.play (await op) script world =
          (.error error, script.tail, world)) := by
  rw [throwsNext]
  cases entry : script.headD none with
  | none => exact .inl ⟨rfl, play_acts fails entry world⟩
  | some error => exact .inr ⟨rfl, error, play_throws fails entry world⟩

theorem send_of_acts {calls : ℕ} (acts : throwsNext script = false) :
    send (calls + 1) script = send calls script.tail := by simp [send, acts]

theorem send_of_throws {calls : ℕ} (throws : throwsNext script = true) :
    send (calls + 1) script = (false, script.tail) := by simp [send, throws]

theorem sendsAs_pure {α : Type} (value : α) :
    SendsAs notification (pure value) 0 false script world :=
  ⟨.ok value, world, rfl, rfl, .refl world⟩

theorem sendsAs_handOver {op : Op} {handed : Delivery}
    (fails : mayFail op = true) (acts : (act op world).2 = world.hand handed)
    (carries : Carries notification handed) :
    SendsAs notification (await op) 1 true script world := by
  rcases play_next op fails script world with
    ⟨next, played⟩ | ⟨next, error, played⟩
  · rw [SendsAs, send_of_acts next]
    refine ⟨_, _, played, rfl, handed, carries, ?_⟩
    rw [acts]
    exact .refl _
  · rw [SendsAs, send_of_throws next]
    exact ⟨_, _, played, rfl, .refl world⟩

theorem SendsAs.of_bind {α β : Type} {first : Service α}
    {rest : α → Service β} {calls : ℕ} {reaches : Bool} {value : α}
    (played : delivery.play first script world = (.ok value, script, world))
    (continues : SendsAs notification (rest value) calls reaches script world) :
    SendsAs notification (first >>= rest) calls reaches script world := by
  rw [SendsAs, play_bind_ok played]
  exact continues

theorem emailJob_message (userEmail : Option Json) :
    (emailJob notification userEmail).context "message" =
      some (.string notification.message) := by simp [emailJob]

theorem sendsAs_queueEmail (userEmail : Option Json) (email : notification.channel = .email) :
    SendsAs notification (if !truthy userEmail then pure ()
        else await (.addEmail (emailJob notification userEmail)))
      (if truthy userEmail then 1 else 0) (truthy userEmail) script world := by
  cases given : truthy userEmail with
  | false => exact sendsAs_pure ()
  | true => exact sendsAs_handOver rfl rfl ⟨email, given, rfl, emailJob_message userEmail⟩

theorem sendsAs_queueEmailNotification (email : notification.channel = .email) :
    SendsAs notification (queueEmailNotification notification)
      (world.callsOf notification) (world.reaches notification) script
      world := by
  have reachesEq : world.reaches notification =
      truthy (world.emailOf notification) := by rw [World.reaches, email]
  have callsEq : world.callsOf notification = (if truthy (givenEmail notification) then 0 else 1) +
        if truthy (world.emailOf notification) then 1 else 0 := by rw [World.callsOf, email]
  rw [reachesEq, callsEq]
  by_cases given : truthy (givenEmail notification) = true
  · have emailEq : world.emailOf notification = givenEmail notification :=
      if_pos given
    rw [if_pos given, Nat.zero_add, emailEq]
    have found : delivery.play (userEmail notification) script world =
        (.ok (givenEmail notification), script, world) := by
      show delivery.play (if truthy (givenEmail notification) then _ else _) _ _ = _
      rw [if_pos given]
      rfl
    exact SendsAs.of_bind found (sendsAs_queueEmail _ email)
  · have emailEq : world.emailOf notification =
        (world.users notification.userId).map fun user => .string user.email :=
      if_neg given
    rw [if_neg given, Nat.add_comm]
    have lookedUp : userEmail notification = await (.findUser notification.userId) >>= fun user =>
          pure (user.map fun user => .string user.email) := by
      show (if truthy (givenEmail notification) then _ else _) = _
      rw [if_neg given]
    rcases play_next (.findUser notification.userId) rfl script world
      with ⟨next, played⟩ | ⟨next, error, played⟩
    · have found : delivery.play (userEmail notification) script world =
          (.ok (world.emailOf notification), script.tail, world) := by
        rw [lookedUp, emailEq]
        exact play_bind_ok played
      rw [SendsAs, send_of_acts next, queueEmailNotification, play_bind_ok found]
      exact sendsAs_queueEmail _ email
    · have failed : delivery.play (userEmail notification) script world =
          (.error error, script.tail, world) := by
        rw [lookedUp]
        exact play_bind_error played
      rw [SendsAs, send_of_throws next, queueEmailNotification]
      exact ⟨_, _, play_bind_error failed, rfl, .refl world⟩

theorem sendsAs_sendViaChannel (notification : NotificationEntity)
    (script : List Fault) (world : World) :
    SendsAs notification (sendViaChannel notification)
      (world.callsOf notification) (world.reaches notification) script
      world := by
  cases channel : notification.channel with
  | email => simp_all [sendViaChannel, sendsAs_queueEmailNotification]
  | inApp =>
    rw [sendViaChannel, World.callsOf, World.reaches, channel]
    refine SendsAs.of_bind (play_safe rfl script world) ?_
    exact sendsAs_handOver rfl rfl ⟨channel, rfl, rfl⟩
  | push =>
    rw [sendViaChannel, World.callsOf, World.reaches, channel]
    exact sendsAs_handOver rfl rfl ⟨channel, rfl⟩
  | sms =>
    rw [sendViaChannel, World.callsOf, World.reaches, channel]
    exact sendsAs_pure ()

end

/-! ### The retries -/

section

variable {notification : NotificationEntity} {world middle after : World} {carried : Bool}

theorem Unmoved.settled (unmoved : Unmoved world middle)
    (settled : Settled notification middle after carried) :
    Settled notification world after carried := by
  cases carried with
  | false => exact unmoved.trans settled
  | true =>
    obtain ⟨handed, carries, handedOver⟩ := settled
    exact ⟨handed, carries, (unmoved.hand handed).trans handedOver⟩

theorem Settled.unmoved (settled : Settled notification world middle carried)
    (unmoved : Unmoved middle after) :
    Settled notification world after carried := by
  cases carried with
  | false => exact Unmoved.trans settled unmoved
  | true =>
    obtain ⟨handed, carries, handedOver⟩ := settled
    exact ⟨handed, carries, handedOver.trans unmoved⟩

/-- A program reports whether one of so many sends has returned. -/
def Reports (notification : NotificationEntity)
    (program : Service (RetryResult Unit)) (attempts : ℕ)
    (script : List Fault) (world : World) : Prop := ∃ result after,
    delivery.play program script world =
      (.ok result, (sends (world.callsOf notification) attempts script).2, after) ∧ result.success =
      (sends (world.callsOf notification) attempts script).1 ∧ Settled notification world after
      ((sends (world.callsOf notification) attempts script).1 && world.reaches notification)

theorem Reports.of_quiet {α : Type} {first : Service α}
    {rest : α → Service (RetryResult Unit)} {attempts : ℕ}
    {script : List Fault} (quiet : Quiet first fun _ => True)
    (continues : ∀ value middle, Unmoved world middle →
      Reports notification (rest value) attempts script middle) :
    Reports notification (first >>= rest) attempts script world := by
  obtain ⟨value, middle, played, unmoved, _⟩ := quiet script world
  obtain ⟨result, after, playedOn, reports, settled⟩ := continues value middle unmoved
  rw [unmoved.callsOf] at playedOn reports settled
  rw [unmoved.reaches] at settled
  exact ⟨result, after, (play_bind_ok played).trans playedOn, reports, unmoved.settled settled⟩

theorem Reports.of_send {rest : Except HttpException Unit → Service (RetryResult Unit)}
    {attempts : ℕ} {script : List Fault}
    (returned : Quiet (rest (.ok ())) fun result => result.success = true)
    (failed : ∀ error script middle, Unmoved world middle →
      Reports notification (rest (.error error)) attempts script middle) :
    Reports notification ((sendViaChannel notification).attempt >>= rest) (attempts + 1) script
      world := by
  obtain ⟨outcome, middle, played, sent, settled⟩ :=
    sendsAs_sendViaChannel notification script world
  rw [Reports, play_attempt_bind played, sends]
  generalize send (world.callsOf notification) script = ends at sent settled ⊢
  obtain ⟨returns, left⟩ := ends
  cases outcome with
  | ok value =>
    cases sent
    obtain ⟨result, after, playedOn, unmoved, reports⟩ := returned left middle
    exact ⟨result, after, playedOn, reports, settled.unmoved unmoved⟩
  | error error =>
    cases sent
    obtain ⟨result, after, playedOn, reports, settledOn⟩ := failed error left middle settled
    rw [settled.callsOf] at playedOn reports settledOn
    rw [settled.reaches] at settledOn
    exact ⟨result, after, playedOn, reports, settled.settled settledOn⟩

theorem reports_retry (config : RetryConfig) (context : RetryContext)
    (startTime : Date) (attempt remaining : ℕ) (attempts : List RetryAttempt)
    (script : List Fault) (world : World) :
    Reports notification (retry (sendViaChannel notification) config context startTime attempt
        remaining attempts) remaining script world := by
  induction remaining generalizing attempt attempts script world with
  | zero =>
    obtain ⟨result, after, played, unmoved, reports⟩ :=
      quiet_exhausted context startTime attempts script world
    exact ⟨result, after, played, reports, unmoved⟩
  | succ remaining ih =>
    refine Reports.of_quiet (quiet_calculateBackoff config attempt fun _ => trivial)
      fun delayMs rested _ => ?_
    refine Reports.of_quiet (quiet_await rfl fun _ => trivial) fun _ slept _ => ?_
    refine Reports.of_send (quiet_retrySucceeded context startTime attempt delayMs attempts ()) ?_
    simp_all [Reports.of_quiet, quiet_retryFailed]

theorem reports_executeWithRetry (notification : NotificationEntity)
    (config : PartialRetryConfig) (context : RetryContext) (script : List Fault) (world : World) :
    Reports notification (executeWithRetry (sendViaChannel notification) config context)
      (config.overDefault.maxRetries + 1) script world := by
  refine Reports.of_quiet (quiet_await rfl fun _ => trivial) fun startTime started _ => ?_
  refine Reports.of_send (quiet_bind (quiet_await rfl fun _ => quiet_pure rfl)) ?_
  intro error left failed _
  refine Reports.of_quiet (quiet_await rfl fun _ => trivial) fun timestamp read _ => ?_
  exact Reports.of_quiet (quiet_await rfl fun _ => trivial) fun _ emitted _ => reports_retry ..

end

/-! ### What a run leaves -/

/-- Whether the notification has been handed over, whether it has a dead
letter, and its stored status. -/
structure Left (notification : NotificationEntity) (world after : World)
    (carried lettered : Bool) (status : NotificationStatus) : Prop where
  deliveries : if carried then
      ∃ handed, Carries notification handed ∧ after.deliveries = world.deliveries ++ [handed]
    else after.deliveries = world.deliveries
  deadLetters : (after.deadLettersOf notification).length = if lettered then 1 else 0
  status : after.statusOf notification = some status

section

variable {notification : NotificationEntity} {world middle after : World}
  {carried lettered : Bool} {status : NotificationStatus}

theorem Left.handedOver_iff (left : Left notification world after carried lettered status) :
    HandedOver world after notification ↔ carried = true := by
  have deliveries := left.deliveries
  cases carried with
  | false =>
    refine iff_of_false ?_ Bool.false_ne_true
    rintro ⟨new, grown, handed, member, _⟩
    simp_all
  | true =>
    obtain ⟨handed, carries, grown⟩ := deliveries
    exact iff_of_true ⟨[handed], grown, handed, List.mem_singleton_self handed, carries⟩ rfl

theorem Left.unlettered_iff (left : Left notification world after carried lettered status) :
    after.deadLettersOf notification = [] ↔ lettered = false := by
  rw [← List.length_eq_zero_iff, left.deadLetters]
  cases lettered <;> decide

theorem Left.recorded_iff (left : Left notification world after carried lettered status) :
    Recorded world after notification ↔ (status = .sent → carried = true) ∧
        (status = .failed → carried = false ∧ lettered = true) ∧
        (carried = true → lettered = false) := by
  have one : (after.deadLettersOf notification).length = 1 ↔ lettered = true := by
    rw [left.deadLetters]
    cases lettered <;> decide
  constructor
  · rintro ⟨sent, failed, unlettered⟩
    rw [left.status, Option.some.injEq, left.handedOver_iff] at sent failed
    rw [one, Bool.not_eq_true] at failed
    rw [left.handedOver_iff, left.unlettered_iff] at unlettered
    exact ⟨sent, failed, unlettered⟩
  · rintro ⟨sent, failed, unlettered⟩
    constructor
    · rwa [left.status, Option.some.injEq, left.handedOver_iff]
    · rwa [left.status, Option.some.injEq, left.handedOver_iff, one, Bool.not_eq_true]
    · rwa [left.handedOver_iff, left.unlettered_iff]

theorem Settled.left (fresh : Fresh world notification)
    (settled : Settled notification world after carried) :
    Left notification world after carried false .pending := by
  cases carried with
  | false =>
    refine ⟨settled.deliveries, ?_, ?_⟩
    · rw [World.deadLettersOf, settled.deadLetters]
      exact congrArg List.length fresh.unlettered
    · rw [World.statusOf, settled.notifications]
      exact fresh.pending
  | true =>
    obtain ⟨handed, carries, moved⟩ := settled
    refine ⟨⟨handed, carries, moved.deliveries⟩, ?_, ?_⟩
    · rw [World.deadLettersOf, moved.deadLetters]
      exact congrArg List.length fresh.unlettered
    · rw [World.statusOf, moved.notifications]
      exact fresh.pending

theorem Left.unmoved (left : Left notification world middle carried lettered status)
    (unmoved : Unmoved middle after) :
    Left notification world after carried lettered status where
  deliveries := by
    rw [unmoved.deliveries]
    exact left.deliveries
  deadLetters := by
    rw [World.deadLettersOf, unmoved.deadLetters]
    exact left.deadLetters
  status := by
    rw [World.statusOf, unmoved.notifications]
    exact left.status

theorem Left.withDeadLetter (left : Left notification world middle carried false
      status) {entry : NewDeadLetter} (about : entry.metadata.eventId = some notification.id) :
    Left notification world (middle.insertDeadLetter entry) carried true status where
  deliveries := left.deliveries
  deadLetters := by
    have earlier := left.deadLetters
    simp_all [World.deadLettersOf, World.insertDeadLetter]
  status := left.status

theorem Left.saved (left : Left notification world middle carried lettered status)
    {stored : NotificationEntity} (same : stored.id = notification.id) :
    Left notification world { middle with notifications := middle.notifications.save stored }
      carried lettered stored.status where
  deliveries := left.deliveries
  deadLetters := left.deadLetters
  status := by
    show ((middle.notifications.save stored).row notification.id).map _ = _
    rw [← same]
    exact congrArg (Option.map _) (Table.row_save_self ..)

end

/-! ### The dead letter -/

/-- A program saves a dead letter about the notification, unless the next
entry of the script throws. -/
def Letters {α : Type} (notification : NotificationEntity) (world : World)
    (carried : Bool) (program : Service α) : Prop := ∀ script middle,
    Left notification world middle carried false .pending → ∃ outcome after,
        delivery.play program script middle = (outcome, script.tail, after) ∧
          outcome.isOk = !throwsNext script ∧
          Left notification world after carried (!throwsNext script) .pending

section

variable {notification : NotificationEntity} {world : World} {carried : Bool} {α β : Type}

theorem letters_of_quiet {first : Service α} {rest : α → Service β}
    (quiet : Quiet first fun value => Letters notification world carried (rest value)) :
    Letters notification world carried (first >>= rest) := by
  intro script middle left
  obtain ⟨value, paused, played, unmoved, continues⟩ := quiet script middle
  rw [play_bind_ok played]
  exact continues script paused (left.unmoved unmoved)

theorem letters_of_save {entry : NewDeadLetter} {rest : Id → Service α}
    (about : entry.metadata.eventId = some notification.id)
    (quiet : ∀ id, Quiet (rest id) fun _ => True) :
    Letters notification world carried (await (.saveDeadLetter entry) >>= rest) := by
  intro script middle left
  rcases play_next (.saveDeadLetter entry) rfl script middle with
    ⟨next, played⟩ | ⟨next, error, played⟩
  · obtain ⟨value, after, playedOn, unmoved, _⟩ := quiet middle.deadLetters.length script.tail
        (middle.insertDeadLetter entry)
    refine ⟨_, _, (play_bind_ok played).trans playedOn, ?_, ?_⟩
    · rw [next]
      rfl
    · rw [next]
      exact (left.withDeadLetter about).unmoved unmoved
  · refine ⟨_, _, play_bind_error played, ?_, ?_⟩
    · rw [next]
      rfl
    · rw [next]
      exact left

theorem letters_discard {program : Service α}
    (letters : Letters notification world carried program) :
    Letters notification world carried (program >>= fun _ => (pure () : Service Unit)) := by
  intro script middle left
  obtain ⟨outcome, after, played, saved, leaves⟩ := letters script middle left
  cases outcome with
  | ok value => exact ⟨.ok (), after, play_bind_ok played, saved, leaves⟩
  | error error => exact ⟨_, after, play_bind_error played, saved, leaves⟩

theorem quiet_firstFailureAt (history : List RetryHistoryItem)
    {post : Date → Prop} (holds : ∀ date, post date) :
    Quiet (firstFailureAt history) post := by
  cases history with
  | nil => exact quiet_await rfl holds
  | cons first rest => exact quiet_pure (holds _)

theorem letters_routeNotification (retryResult : RetryResult Unit) :
    Letters notification world carried (routeNotification notification retryResult) :=
  letters_of_quiet <| quiet_firstFailureAt _ fun _ =>
    letters_of_quiet <| quiet_await rfl fun _ =>
      letters_of_quiet <| quiet_await rfl fun _ =>
        letters_of_quiet <| quiet_await rfl fun _ =>
          letters_of_save rfl fun _ => quiet_bind <| quiet_await rfl fun _ =>
            quiet_bind <| quiet_await rfl fun _ => quiet_pure trivial

end

/-! ### The send and its dead letter -/

/-- What the send, with its retries and its dead letter, comes to. -/
inductive Tried (service : NotificationsService)
    (notification : NotificationEntity) (world : World) :
    Bool × List Fault → Except HttpException (Except (Option HttpException) Unit) →
      List Fault → World → Prop where
  | sent {left after} (leaves : Left notification world after (world.reaches notification)
        false .pending) :
      Tried service notification world (true, left) (.ok (.ok ())) left after
  | routed {left after} (error : Option HttpException)
      (routes : service.routes = true) (saved : throwsNext left = false)
      (leaves : Left notification world after false true .pending) :
      Tried service notification world (false, left) (.ok (.error error)) left.tail after
  | unrouted {left after} (error : HttpException)
      (routes : service.routes = true) (threw : throwsNext left = true)
      (leaves : Left notification world after false false .pending) :
      Tried service notification world (false, left) (.error error) left.tail after
  | failed {left after} (error : Option HttpException) (routes : service.routes = false)
      (leaves : Left notification world after false false .pending) :
      Tried service notification world (false, left) (.ok (.error error)) left after

section

variable {service : NotificationsService} {notification : NotificationEntity} {world : World}

variable {retryResult : RetryResult Unit} {middle : World} {carried lettered : Bool}
  {script : List Fault}

theorem routeFailure_of_success (success : retryResult.success = true) :
    routeFailure service notification retryResult = pure () := by
  rw [routeFailure, success]
  rfl

theorem routeFailure_of_failure
    (failure : retryResult.success = false) (given : service.deadLetterQueueService = true) :
    routeFailure service notification retryResult =
      routeNotification notification retryResult >>= fun _ => pure () := by
  rw [routeFailure, failure, given]
  rfl

theorem routeFailure_of_missing (missing : service.deadLetterQueueService = false) :
    routeFailure service notification retryResult = pure () := by
  rw [routeFailure, missing, Bool.and_false]
  rfl

variable (service) in
theorem tried_trySend (fresh : Fresh world notification) (script : List Fault) :
    ∃ outcome left after, delivery.play (trySend service notification) script world =
          (outcome, left, after) ∧ Tried service notification world
          (sends (world.callsOf notification)
            (service.attemptsOf notification) script) outcome left after := by
  by_cases retries : service.retryStrategy = true
  · obtain ⟨result, middle, played, reports, settled⟩ := reports_executeWithRetry notification
        (getConfigForNotificationType notification.channel.text)
        (contextOf notification) script world
    rw [trySend, if_pos retries, attemptsOf, if_pos retries]
    generalize sends (world.callsOf notification) _ script = ends at played reports settled ⊢
    obtain ⟨returned, left⟩ := ends
    rw [play_bind_ok played]
    have leaves := settled.left fresh
    have routesEq : service.routes = service.deadLetterQueueService := by
      rw [NotificationsService.routes, retries, Bool.true_and]
    cases returned with
    | true =>
      rw [routeFailure_of_success reports, reports]
      exact ⟨_, _, _, rfl, .sent leaves⟩
    | false =>
      cases given : service.deadLetterQueueService with
      | false =>
        rw [routeFailure_of_missing given, reports]
        exact ⟨_, _, _, rfl, .failed _ (routesEq.trans given) leaves⟩
      | true =>
        rw [routeFailure_of_failure reports given]
        obtain ⟨outcome, after, routed, saved, letters⟩ :=
          letters_discard (letters_routeNotification result) left middle leaves
        cases outcome with
        | ok value =>
          have goes : throwsNext left = false :=
            (Bool.not_eq_true' _).mp saved.symm
          rw [goes] at letters
          rw [play_bind_ok routed, reports]
          exact ⟨_, _, _, rfl, .routed _ (routesEq.trans given) goes letters⟩
        | error error =>
          have throws : throwsNext left = true :=
            (Bool.not_eq_false' _).mp saved.symm
          rw [throws] at letters
          exact ⟨_, _, _, play_bind_error routed,
            .unrouted error (routesEq.trans given) throws letters⟩
  · obtain ⟨outcome, middle, played, sent, settled⟩ :=
      sendsAs_sendViaChannel notification script world
    have routesEq : service.routes = false := by simp_all [NotificationsService.routes]
    rw [trySend, if_neg retries, attemptsOf, if_neg retries, play_attempt_bind played, sends]
    generalize send (world.callsOf notification) script = ends at sent settled ⊢
    obtain ⟨returned, left⟩ := ends
    have leaves := settled.left fresh
    cases outcome with
    | ok value =>
      cases sent
      exact ⟨_, _, _, rfl, .sent leaves⟩
    | error error =>
      cases sent
      exact ⟨_, _, _, rfl, .failed (some error) routesEq leaves⟩

/-! ### The stored status -/

theorem left_storeCriticalFailure
    (leaves : Left notification world middle carried lettered .pending)
    {stored : NotificationEntity} (same : stored.id = notification.id) (script : List Fault) :
    Left notification world (delivery.play (storeCriticalFailure stored) script middle).2.2 carried
      lettered (if throwsNext script then .pending else .failed) := by
  rcases play_next (.saveNotification { stored with status := .failed })
    rfl script middle with ⟨next, played⟩ | ⟨next, error, played⟩
  · rw [storeCriticalFailure, play_attempt_bind played, next]
    exact leaves.saved same
  · rw [storeCriticalFailure, play_attempt_bind played, next]
    exact leaves

/-- The status a send has earned. -/
def earned : Except (Option HttpException) Unit → NotificationStatus
  | .ok _ => .sent
  | .error _ => .failed

theorem quiet_judged (notification : NotificationEntity)
    (result : Except (Option HttpException) Unit) :
    Quiet (judged notification result) fun stored =>
      stored.id = notification.id ∧ stored.status = earned result := by
  cases result with
  | ok value => exact quiet_bind (quiet_await rfl fun _ => quiet_pure ⟨rfl, rfl⟩)
  | error error => exact quiet_bind (quiet_await rfl fun _ => quiet_pure ⟨rfl, rfl⟩)

/-- The world after a notification has been processed. -/
def processed (service : NotificationsService)
    (notification : NotificationEntity) (script : List Fault) (world : World) : World :=
  (delivery.play (service.processNotification notification) script world).2.2

theorem left_processed_ok {left : List Fault} {result : Except (Option HttpException) Unit}
    (tried : delivery.play (trySend service notification) script world = (.ok result, left, middle))
    (leaves : Left notification world middle carried lettered .pending) :
    Left notification world (processed service notification script world) carried lettered
      (if throwsNext left then
        if throwsNext left.tail then .pending else .failed
      else earned result) := by
  obtain ⟨stored, marked, judgedEq, unmoved, same, statusEq⟩ :=
    quiet_judged notification result left middle
  have leaves := leaves.unmoved unmoved
  rw [processed, processNotification, play_attempt_bind tried]
  rw [play_bind_ok judgedEq, ← statusEq]
  rcases play_next (.saveNotification stored) rfl left marked with
    ⟨next, played⟩ | ⟨next, error, played⟩
  · rw [play_attempt_bind played, next]
    exact leaves.saved same
  · rw [play_attempt_bind played, next]
    exact left_storeCriticalFailure leaves same left.tail

theorem left_processed_error {left : List Fault} {error : HttpException}
    (tried : delivery.play (trySend service notification) script world =
      (.error error, left, middle))
    (leaves : Left notification world middle carried lettered .pending) :
    Left notification world (processed service notification script world)
      carried lettered (if throwsNext left then .pending else .failed) := by
  rw [processed, processNotification, play_attempt_bind tried]
  exact left_storeCriticalFailure leaves rfl left

end

/-! ### The result -/

/-- Whatever the sends, the dead letter and the saves come to, the record of
a notification that has just been stored is kept exactly under the
condition. -/
theorem delivery_recorded_iff (service : NotificationsService)
    (notification : NotificationEntity) (world : World)
    (script : List Fault) (fresh : Fresh world notification) :
    Recorded world (processed service notification script world) notification ↔
      recordKept service notification world script = true := by
  obtain ⟨outcome, left, after, played, tried⟩ := tried_trySend service fresh script
  rw [recordKept]
  generalize sends (world.callsOf notification) _ script = ends at tried ⊢
  cases tried with
  | @sent left after leaves =>
    rw [(left_processed_ok played leaves).recorded_iff]
    cases first : throwsNext left with
    | false => simp [first, earned]
    | true =>
      -- what is then stored, if anything, is FAILED without a dead letter
      cases second : throwsNext left.tail <;> simp [first, second]
  | @routed left after error routes saved leaves =>
    rw [(left_processed_ok played leaves).recorded_iff]
    have unsent : (if throwsNext left.tail then
        if throwsNext left.tail.tail then NotificationStatus.pending
        else .failed
      else earned (.error error)) ≠ .sent := by
      split
      next => split <;> exact NotificationStatus.noConfusion
      next => exact NotificationStatus.noConfusion
    simp [routes, saved, unsent]
  | @unrouted left after error routes threw leaves =>
    rw [(left_processed_error played leaves).recorded_iff]
    cases second : throwsNext left.tail <;> simp [routes, threw, second]
  | @failed left after error routes leaves =>
    rw [(left_processed_ok played leaves).recorded_iff]
    cases first : throwsNext left <;> cases second : throwsNext left.tail <;>
        simp [routes, first, second, earned]

/-- A database in which one notification has just been stored. -/
def storedAlone (notification : NotificationEntity) : World where
  users _ := none
  notifications := Table.empty.save notification
  deadLetters := []
  deliveries := []
  events := []
  now := 0
  random _ := 0
  drawn := 0

theorem fresh_storedAlone {notification : NotificationEntity}
    (pending : notification.status = .pending) :
    Fresh (storedAlone notification) notification where
  pending := by
    rw [World.statusOf, storedAlone, ← pending]
    exact congrArg (Option.map _) (Table.row_save_self ..)
  unlettered := rfl

/-- A notification for user 7. -/
def priceDrop (channel : NotificationChannel) : NotificationEntity where
  id := 1
  userId := 7
  title := "Price drop"
  message := "A listing you follow is cheaper now."
  status := .pending
  type := .priceDrop
  channel := channel
  priority := .medium
  metadata := none
  relatedEntityId := none
  relatedEntityType := none
  sentAt := none

/-- The service as the module provides it. -/
def provided : NotificationsService := ⟨true, true⟩

/-- Four failed pushes: FAILED, with one dead letter. -/
theorem failed_push_recorded :
    Fresh (storedAlone (priceDrop .push)) (priceDrop .push) ∧
      Recorded (storedAlone (priceDrop .push)) (processed provided (priceDrop .push)
          (List.replicate 4 (some (.error "no listener"))) (storedAlone (priceDrop .push)))
        (priceDrop .push) :=
  ⟨fresh_storedAlone rfl, (delivery_recorded_iff provided (priceDrop .push) _ _
      (fresh_storedAlone rfl)).mpr (by decide)⟩

/-- An e-mail to a user without an address: nothing is queued, and SENT is
stored. -/
theorem unsent_email_stored_sent :
    Fresh (storedAlone (priceDrop .email)) (priceDrop .email) ∧
      ¬Recorded (storedAlone (priceDrop .email)) (processed provided (priceDrop .email) []
          (storedAlone (priceDrop .email))) (priceDrop .email) := by
  refine ⟨fresh_storedAlone rfl, fun recorded => ?_⟩
  obtain ⟨new, grown, handed, member, _⟩ := recorded.sent (by decide)
  have undelivered : (processed provided (priceDrop .email) []
      (storedAlone (priceDrop .email))).deliveries.length = 0 := by decide
  rw [grown, List.length_append, Nat.add_eq_zero_iff] at undelivered
  exact List.ne_nil_of_mem member (List.length_eq_zero_iff.mp undelivered.2)

end MarketX.Notifications
