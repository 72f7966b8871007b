/-
Module: MarketX.Proofs.WebhookAttempts
Purpose: Which webhooks the dispatch of an event schedules a delivery for, and
  the attempts to make one delivery, from its scheduling to the last of them.
Trusted boundary: human-reviewed definition of newDeliveries, Subscribed,
  Firing, firing, attempts and Settled
Main exports: newDeliveries, dispatched_to_subscribers_iff, Firing, delivery_settled_iff
-/
import MarketX.Effects.Runs
import MarketX.Effects.Traces
import MarketX.Webhooks.WebhooksService

namespace MarketX.OutgoingWebhooks

open Effects Numerals WebhooksService

/-! ### The property -/

/-- The deliveries of an event to a webhook that the queue holds after a
dispatch and did not hold before it, and for which one attempt is pending. -/
def newDeliveries (before after : World) (eventType : WebhookEventType)
    (webhookId : Id) : List WebhookDelivery := after.deliveryQueue.rows.filter fun delivery =>
    before.deliveryQueue.row delivery.id = none ∧
      delivery.webhookId = webhookId ∧ delivery.eventType = eventType ∧ after.timers.countP
        (fun timer => timer.callback = .attemptDelivery delivery.id) = 1

/-- The webhook is active and its list contains the type. -/
def Subscribed (world : World) (eventType : WebhookEventType) (webhookId : Id) : Prop :=
  ∃ webhook, world.webhooks.row webhookId = some webhook ∧
    webhook.isActive = true ∧ eventType ∈ webhook.events

instance (world : World) (eventType : WebhookEventType) (webhookId : Id) :
    Decidable (Subscribed world eventType webhookId) :=
  match stored : world.webhooks.row webhookId with
  | none => isFalse fun subscribed => by
      obtain ⟨webhook, found, _⟩ := subscribed
      rw [stored] at found
      cases found
  | some webhook =>
    decidable_of_iff (webhook.isActive = true ∧ eventType ∈ webhook.events) (by
        unfold Subscribed
        simp [stored])

/-- One delivery to each webhook that has subscribed to the type, and none to
another one. -/
def DispatchedToSubscribers (before after : World) (eventType : WebhookEventType) : Prop :=
  ∀ webhookId, (newDeliveries before after eventType webhookId).length =
    if Subscribed before eventType webhookId then 1 else 0

/-! ### The query -/

theorem WebhookEventType.text_injective {a b : WebhookEventType}
    (same : a.text = b.text) : a = b := by
  revert same
  cases a <;> cases b <;> decide

theorem WebhookEventType.comma_not_mem (a : WebhookEventType) :
    ',' ∉ a.text.toList := by
  cases a <;> decide

theorem simpleArray_eq_text_iff {events : List WebhookEventType} {eventType : WebhookEventType} :
    simpleArray events = eventType.text ↔ events = [eventType] := by
  constructor
  · intro same
    match events with
    | [] => cases eventType <;> exact absurd same (by decide)
    | [event] =>
      rw [simpleArray, List.map_singleton, String.intercalate_singleton] at same
      rw [WebhookEventType.text_injective same]
    | first :: second :: rest =>
      rw [simpleArray, List.map_cons, List.map_cons, String.intercalate_cons_cons] at same
      refine absurd ?_ eventType.comma_not_mem
      rw [← same]
      simp
  · rintro rfl
    exact String.intercalate_singleton

/-! ### New ids -/

theorem World.next_le_newId (world : World) :
    world.deliveryQueue.next ≤ world.newId := by
  unfold newId
  induction world.timers <;> simp_all

theorem World.timer_lt_newId {world : World} {timer : Timer} (pending : timer ∈ world.timers) :
    timer.callback.deliveryId < world.newId := by
  unfold newId
  generalize world.timers = timers at pending
  induction timers <;> grind

theorem World.row_newId (world : World) {deliveryId : Id} (new : world.newId ≤ deliveryId) :
    world.deliveryQueue.row deliveryId = none := by
  cases stored : world.deliveryQueue.row deliveryId with
  | none => rfl
  | some delivery =>
    have below := world.deliveryQueue.bounded stored
    exact absurd (world.next_le_newId.trans new) below.not_ge

/-! ### Scheduling -/

section

variable (service : WebhooksService) (eventType : WebhookEventType) (payload : Json)

def newDelivery (world : World) (webhook : Webhook) : WebhookDelivery where
  id := world.newId
  webhookId := webhook.id
  eventType := eventType
  payload := payload
  signature := service.generateSignature payload webhook.secret
  attempts := 0
  maxRetries := maxRetries
  nextRetryAt := none
  status := .pending
  response := none
  createdAt := world.now
  updatedAt := world.now

def World.scheduled (world : World) (webhook : Webhook) : World :=
  { world with
    deliveryQueue := world.deliveryQueue.save
      (newDelivery service eventType payload world webhook)
    timers := world.timers ++ [⟨.attemptDelivery world.newId, 0⟩] }

theorem exec_scheduleDelivery (webhook : Webhook)
    (faults : List (Option DeliveryError)) (world : World) :
    outgoing.exec (service.scheduleDelivery webhook eventType payload) faults world =
      (.ok (), world.scheduled service eventType payload webhook) := by
  have ends : outgoing.wp (service.scheduleDelivery webhook eventType payload)
      (fun result after => result = .ok () ∧
        after = world.scheduled service eventType payload webhook) world :=
    ⟨⟨⟨⟨⟨⟨rfl, rfl⟩, nofun⟩, nofun⟩, nofun⟩, nofun⟩, nofun⟩
  exact Prod.ext_iff.mpr (outgoing.wp_sound ends faults)

/-- The worlds of a dispatch to some webhooks: their deliveries stand behind
what was in the queue, and the attempts behind the timers. -/
structure Dispatched (before after : World) (webhookIds : List Id) where
  deliveries : List WebhookDelivery
  rows : after.deliveryQueue.rows = before.deliveryQueue.rows ++ deliveries
  timers : after.timers = before.timers ++ deliveries.map fun delivery =>
    ⟨.attemptDelivery delivery.id, 0⟩
  webhookIds : deliveries.map WebhookDelivery.webhookId = webhookIds
  new : ∀ delivery ∈ deliveries, before.newId ≤ delivery.id
  typed : ∀ delivery ∈ deliveries, delivery.eventType = eventType
  distinct : (deliveries.map WebhookDelivery.id).Nodup

end

section

variable {service : WebhooksService} {eventType : WebhookEventType} {payload : Json}

theorem newId_lt_scheduled (service : WebhooksService)
    (eventType : WebhookEventType) (payload : Json) (world : World) (webhook : Webhook) :
    world.newId < (world.scheduled service eventType payload webhook).newId := by
  have pending : Timer.mk (.attemptDelivery world.newId) 0 ∈
      (world.scheduled service eventType payload webhook).timers :=
    List.mem_append_right _ (List.mem_singleton_self _)
  exact World.timer_lt_newId pending

theorem exec_forM (service : WebhooksService) (payload : Json)
    (webhooks : List Webhook) (world : World) :
    ∃ after, outgoing.exec (webhooks.forM fun webhook =>
        service.scheduleDelivery webhook eventType payload) [] world = (.ok (), after) ∧
      Nonempty (Dispatched eventType world after (webhooks.map Webhook.id)) := by
  induction webhooks generalizing world with
  | nil =>
    exact ⟨world, rfl, ⟨[], (List.append_nil _).symm,
      (List.append_nil _).symm, rfl, List.forall_mem_nil _, List.forall_mem_nil _, List.nodup_nil⟩⟩
  | cons webhook rest ih =>
    obtain ⟨after, ends, ⟨dispatched⟩⟩ := ih (world.scheduled service eventType payload webhook)
    have above := newId_lt_scheduled service eventType payload world webhook
    refine ⟨after, ?_, ⟨newDelivery service eventType payload world webhook ::
      dispatched.deliveries, ?_, ?_, ?_, ?_, ?_, ?_⟩⟩
    · simp_all [Handler.exec_bind, exec_scheduleDelivery]
    · rw [dispatched.rows]
      show (world.deliveryQueue.save _).rows ++ _ = _
      rw [Table.rows_save_of_next_le world.next_le_newId, List.append_assoc]
      rfl
    · rw [dispatched.timers]
      exact List.append_assoc ..
    · exact congrArg (List.cons webhook.id) dispatched.webhookIds
    · refine List.forall_mem_cons.mpr ⟨Nat.le_refl _, ?_⟩
      exact fun delivery member => above.le.trans (dispatched.new delivery member)
    · exact List.forall_mem_cons.mpr ⟨rfl, dispatched.typed⟩
    · refine List.nodup_cons.mpr ⟨fun again => ?_, dispatched.distinct⟩
      obtain ⟨delivery, member, same⟩ := List.mem_map.mp again
      have later := dispatched.new delivery member
      rw [same] at later
      exact above.not_ge later

theorem countP_attempts {deliveries : List WebhookDelivery}
    (distinct : (deliveries.map WebhookDelivery.id).Nodup)
    {delivery : WebhookDelivery} (member : delivery ∈ deliveries) :
    (deliveries.map fun delivery => Timer.mk (.attemptDelivery delivery.id) 0).countP
      (fun timer => timer.callback = .attemptDelivery delivery.id) = 1 := by
  have one := List.count_eq_one_of_mem distinct (List.mem_map_of_mem member)
  rw [List.count, List.countP_map] at one
  grind [List.countP_map, List.countP_congr]

theorem Dispatched.length_newDeliveries {before after : World} {webhookIds : List Id}
    (dispatched : Dispatched eventType before after webhookIds) (webhookId : Id) :
    (newDeliveries before after eventType webhookId).length =
      webhookIds.count webhookId := by
  obtain ⟨deliveries, rows, timers, same, new, typed, distinct⟩ := dispatched
  have pending : ∀ delivery ∈ deliveries, after.timers.countP
      (fun timer => timer.callback = .attemptDelivery delivery.id) = 1 := by
    intro delivery member
    have old : before.timers.countP (fun timer =>
        timer.callback = .attemptDelivery delivery.id) = 0 := by
      refine List.countP_eq_zero.mpr fun timer member' same => ?_
      have below := World.timer_lt_newId member'
      rw [of_decide_eq_true same] at below
      exact below.not_ge (new delivery member)
    rw [timers, List.countP_append, old, countP_attempts distinct member]
  rw [newDeliveries, rows, List.filter_append, List.length_append,
    ← List.countP_eq_length_filter, ← List.countP_eq_length_filter, ← same,
    List.count, List.countP_map]
  have none : before.deliveryQueue.rows.countP (fun delivery =>
      before.deliveryQueue.row delivery.id = none ∧
        delivery.webhookId = webhookId ∧ delivery.eventType = eventType ∧
        after.timers.countP (fun timer =>
          timer.callback = .attemptDelivery delivery.id) = 1) = 0 := by
    refine List.countP_eq_zero.mpr fun delivery member found => ?_
    have stored : before.deliveryQueue.row delivery.id = some delivery := Table.mem_rows.mp member
    rw [(of_decide_eq_true found).1] at stored
    cases stored
  rw [none, Nat.zero_add]
  refine List.countP_congr fun delivery member => ?_
  simp [before.row_newId (new delivery member), typed delivery member, pending delivery member]

end

/-! ### The dispatch -/

section

variable (service : WebhooksService) (eventType : WebhookEventType) (payload : Json) (world : World)

/-- The world after a dispatch in which nothing fails. -/
def afterDispatch : World :=
  (outgoing.exec (service.dispatchEvent eventType payload) [] world).2

/-- What the query finds. -/
def found : List Webhook := world.webhooks.rows.filter fun webhook =>
    webhook.isActive ∧ simpleArray webhook.events = eventType.text

theorem exec_dispatchEvent :
    Nonempty (Dispatched eventType world (afterDispatch service eventType payload world)
      ((found eventType world).map Webhook.id)) := by
  obtain ⟨after, ends, dispatched⟩ := exec_forM service payload (found eventType world) world
  show Nonempty (Dispatched eventType world
    (outgoing.exec ((found eventType world).forM _) [] world).2 _)
  rw [ends]
  exact dispatched

variable {eventType world} in
theorem found_iff {webhookId : Id} :
    webhookId ∈ (found eventType world).map Webhook.id ↔
      ∃ webhook, world.webhooks.row webhookId = some webhook ∧
        webhook.isActive = true ∧ webhook.events = [eventType] := by
  simp only [List.mem_map, found, List.mem_filter, decide_eq_true_eq,
    Table.mem_rows, simpleArray_eq_text_iff]
  constructor
  · rintro ⟨webhook, ⟨stored, chosen⟩, rfl⟩
    exact ⟨webhook, stored, chosen⟩
  · rintro ⟨webhook, stored, chosen⟩
    have key : webhook.id = webhookId := world.webhooks.keyed stored
    refine ⟨webhook, ⟨?_, chosen⟩, key⟩
    rw [← stored, ← key]
    rfl

theorem found_nodup : ((found eventType world).map Webhook.id).Nodup :=
  List.pairwise_map.mpr (world.webhooks.rows_pairwise.filter _)

theorem length_newDeliveries (webhookId : Id) :
    (newDeliveries world (afterDispatch service eventType payload world)
        eventType webhookId).length =
      if webhookId ∈ (found eventType world).map Webhook.id then 1 else 0 := by
  obtain ⟨dispatched⟩ := exec_dispatchEvent service eventType payload world
  rw [dispatched.length_newDeliveries]
  grind [found_nodup]

/-- The subscribers, and they alone, are dispatched to iff every active
webhook whose list contains the type has no other entry in it. -/
theorem dispatched_to_subscribers_iff :
    DispatchedToSubscribers world (afterDispatch service eventType payload world) eventType ↔
      ∀ webhook ∈ world.webhooks.rows, webhook.isActive = true →
        eventType ∈ webhook.events → webhook.events = [eventType] := by
  unfold DispatchedToSubscribers
  simp only [length_newDeliveries]
  constructor
  · intro each webhook member active listed
    have stored := Table.mem_rows.mp member
    have subscribed : Subscribed world eventType webhook.id :=
      ⟨webhook, stored, active, listed⟩
    have one := each webhook.id
    rw [if_pos subscribed] at one
    have chosen : webhook.id ∈ (found eventType world).map Webhook.id := by
      by_contra missed
      rw [if_neg missed] at one
      cases one
    obtain ⟨other, same, _, alone⟩ := found_iff.mp chosen
    rw [show world.webhooks.row webhook.id = _ from stored] at same
    rw [Option.some.inj same]
    exact alone
  · intro alone webhookId
    have same : webhookId ∈ (found eventType world).map Webhook.id ↔
        Subscribed world eventType webhookId := by
      rw [found_iff]
      constructor
      · rintro ⟨webhook, stored, active, events⟩
        exact ⟨webhook, stored, active, by rw [events]; exact .head _⟩
      · rintro ⟨webhook, stored, active, listed⟩
        exact ⟨webhook, stored, active, alone webhook (Table.mem_rows_of_row stored) active listed⟩
    exact if_congr same rfl rfl

end

/-! ### A webhook with two types -/

def sampleService : WebhooksService where
  hmac _ _ := 0
  uuid id := toString id

def sampleWebhook : Webhook where
  id := 0
  url := "https://shop.example/hook"
  secret := "0123456789abcdef0123456789abcdef"
  events := [.orderCreated, .paymentSuccess]
  isActive := true
  failureCount := 0
  lastFailureAt := none
  lastSuccessAt := none

def sampleWorld : World where
  webhooks := Table.empty.save sampleWebhook
  deliveryQueue := .empty
  timers := []
  now := 1700000000000
  answers _ := ⟨200, .null, []⟩
  accepted := 0

/-- Nothing is sent to a webhook that has subscribed to two types. -/
theorem two_types_missed : ¬ DispatchedToSubscribers sampleWorld
    (afterDispatch sampleService .orderCreated .null sampleWorld)
    .orderCreated := by
  intro dispatched
  exact absurd (dispatched 0) (by decide)

/-! ### Runs -/

def World.statusOf (world : World) (deliveryId : Id) : Option DeliveryStatus :=
  (world.deliveryQueue.row deliveryId).map WebhookDelivery.status

def World.failuresOf (world : World) (webhookId : Id) : Option ℕ :=
  (world.webhooks.row webhookId).map Webhook.failureCount

section

variable (service : WebhooksService) (deliveryId : Id)

/-- The timer calls for an attempt to make the delivery. -/
def isAttempt (timer : Timer) : Bool := timer.callback = .attemptDelivery deliveryId

/-- A timer for the delivery goes off after some time, and in the attempt
these effects throw. -/
structure Firing where
  elapsed : ℕ
  faults : List (Option DeliveryError)

def World.fired (world : World) (elapsed : ℕ) : World :=
  { world with
    timers := world.timers.eraseP (isAttempt deliveryId)
    now := world.now + elapsed }

/-- One attempt, if one is pending. -/
def firing (world : World) (fire : Firing) : World :=
  if world.timers.any (isAttempt deliveryId) then
    (outgoing.exec (service.attemptDelivery deliveryId) fire.faults
      (world.fired deliveryId fire.elapsed)).2
  else world

/-- What each attempt of a run performs, and which of it throws. -/
def attempts : World → List Firing → List (List (Op × Bool))
  | _, [] => []
  | world, fire :: fires =>
    if world.timers.any (isAttempt deliveryId) then
      outgoing.trace (service.attemptDelivery deliveryId) fire.faults
          (world.fired deliveryId fire.elapsed) ::
        attempts (firing service deliveryId world fire) fires
    else attempts world fires

end

/-! ### The property -/

def Op.isPost : Op → Bool
  | .post _ => true
  | _ => false

def Op.recordsSuccess : Op → Bool
  | .update _ changes => changes.lastSuccessAt.isSome
  | _ => false

def Op.countsFailure : Op → Bool
  | .increment _ => true
  | _ => false

/-- Of the POSTs among the effects, which ones throw. -/
def postsOf (performed : List (Op × Bool)) : List Bool :=
  performed.filterMap fun entry => if entry.1.isPost then some entry.2 else none

/-- A write of `updateWebhookSuccess` throws. -/
def unrecorded (performed : List (Op × Bool)) : Bool :=
  performed.any fun entry => entry.1.recordsSuccess && entry.2

def uncounted (performed : List (Op × Bool)) : Bool :=
  performed.any fun entry => entry.1.countsFailure && entry.2

/-- What is promised of a delivery whose attempts are over. -/
structure Settled (deliveryId webhookId : Id) (before after : World)
    (attempts : List (List (Op × Bool))) : Prop where
  few : (postsOf attempts.flatten).length ≤ 5
  once : ∀ front back, postsOf attempts.flatten = front ++ false :: back → back = []
  success_iff : after.statusOf deliveryId = some .success ↔ false ∈ postsOf attempts.flatten
  exhausted_iff : after.statusOf deliveryId = some .exhausted ↔
    attempts.length = 5 ∧ false ∉ postsOf attempts.flatten
  exhausted_counted : after.statusOf deliveryId = some .exhausted →
    after.failuresOf webhookId = (before.failuresOf webhookId).map (· + 1)
  accepted_uncounted : false ∈ postsOf attempts.flatten → ∀ old ∈ before.failuresOf webhookId,
      ∃ new ∈ after.failuresOf webhookId, new ≤ old

/-! ### What is performed -/

@[simp] theorem postsOf_append (front back : List (Op × Bool)) :
    postsOf (front ++ back) = postsOf front ++ postsOf back := List.filterMap_append ..

@[simp] theorem unrecorded_append (front back : List (Op × Bool)) :
    unrecorded (front ++ back) = (unrecorded front || unrecorded back) := List.any_append ..

@[simp] theorem uncounted_append (front back : List (Op × Bool)) :
    uncounted (front ++ back) = (uncounted front || uncounted back) := List.any_append ..

/-! ### Changes of a webhook -/

theorem failuresOf_congr {before after : World}
    (same : after.webhooks = before.webhooks) (id : Id) :
    after.failuresOf id = before.failuresOf id := by
  rw [World.failuresOf, same]
  rfl

section

variable (world : World) (id : Id) (change : Webhook → Webhook)

@[simp] theorem changeWebhook_deliveryQueue :
    (world.changeWebhook id change).deliveryQueue = world.deliveryQueue := by
  unfold World.changeWebhook
  split <;> rfl

@[simp] theorem changeWebhook_timers :
    (world.changeWebhook id change).timers = world.timers := by
  unfold World.changeWebhook
  split <;> rfl

variable {world id change} in
theorem failuresOf_changeWebhook (count : ℕ → ℕ)
    (keeps : ∀ webhook, (change webhook).id = webhook.id) (counts : ∀ webhook,
      (change webhook).failureCount = count webhook.failureCount) :
    (world.changeWebhook id change).failuresOf id = (world.failuresOf id).map count := by
  unfold World.changeWebhook World.failuresOf
  cases stored : world.webhooks.row id with
  | none => rw [stored]; rfl
  | some webhook =>
    have key : Keyed.key (change webhook) = id :=
      (keeps webhook).trans (world.webhooks.keyed stored)
    grind [Table.row_save_self]

end

/-! ### One attempt -/

/-- The POST was accepted, and that was recorded. -/
structure Accepted (before : World) (delivery : WebhookDelivery)
    (performed : List (Op × Bool)) (after : World) : Prop where
  posts : postsOf performed = [false]
  recorded : unrecorded performed = false
  counted : uncounted performed = false
  status : after.statusOf delivery.id = some .success
  timers : after.timers = before.timers ++ [⟨.deleteDelivery delivery.id, 60000⟩]
  failures : after.failuresOf delivery.webhookId =
    (before.failuresOf delivery.webhookId).map fun _ => 0

/-- The attempt has not succeeded: if its POST was accepted, then because the
acceptance could not be recorded. -/
structure Refused (performed : List (Op × Bool)) : Prop where
  few : (postsOf performed).length ≤ 1
  accepted_iff : false ∈ postsOf performed ↔ unrecorded performed = true

inductive Delivered (before : World) (delivery : WebhookDelivery) :
    Except DeliveryError Unit → List (Op × Bool) → World → Prop where
  | accepted {performed after} (accepted : Accepted before delivery performed after) :
      Delivered before delivery (.ok ()) performed after
  | refused {performed after} (error : DeliveryError) (refused : Refused performed)
      (counted : uncounted performed = false) (held : (after.deliveryQueue.row delivery.id).isSome)
      (timers : after.timers = before.timers) (webhooks : after.webhooks = before.webhooks) :
      Delivered before delivery (.error error) performed after

inductive Attempted (before : World) (delivery : WebhookDelivery)
    (performed : List (Op × Bool)) (after : World) : Prop where
  | accepted (accepted : Accepted before delivery performed after)
  | retried (refused : Refused performed) (counted : uncounted performed = false)
      (left : delivery.attempts + 1 < delivery.maxRetries)
      (stored : ∃ next, after.deliveryQueue.row delivery.id = some next ∧
        next.webhookId = delivery.webhookId ∧
        next.attempts = delivery.attempts + 1 ∧
        next.maxRetries = delivery.maxRetries)
      (timers : after.timers = before.timers ++ [⟨.attemptDelivery delivery.id,
          calculateBackoffDelay (delivery.attempts + 1)⟩])
      (failures : after.failuresOf delivery.webhookId = before.failuresOf delivery.webhookId)
  | exhausted (refused : Refused performed) (last : delivery.maxRetries ≤ delivery.attempts + 1)
      (status : after.statusOf delivery.id = some .exhausted)
      (timers : ∃ rest, after.timers = before.timers ++ rest ∧
        ∀ timer ∈ rest, timer.callback = .deleteDelivery delivery.id)
      (failures : after.failuresOf delivery.webhookId =
        if uncounted performed then before.failuresOf delivery.webhookId
        else (before.failuresOf delivery.webhookId).map (· + 1))

section

variable (service : WebhooksService) {world : World} {delivery : WebhookDelivery}

theorem wpTraced_findOne {id : Id}
    {post : Except DeliveryError Webhook → List (Op × Bool) → World → Prop}
    (found : ∀ webhook, world.webhooks.row id = some webhook →
      post (.ok webhook) [(.findOne id, false)] world) (missing : ∀ error threw,
      post (.error error) [(.findOne id, threw)] world) :
    outgoing.wpTraced (service.findOne id) post world := by
  have read : outgoing.act (.findOne id) world = (world.webhooks.row id, world) := rfl
  unfold findOne
  rw [Handler.wpTraced_bind, await, Handler.wpTraced_perform, read]
  refine ⟨?_, fun _ error => missing error true⟩
  cases stored : world.webhooks.row id <;> simp_all

theorem Refused.unaccepted {performed : List (Op × Bool)}
    (posts : postsOf performed = [] ∨ postsOf performed = [true])
    (recorded : unrecorded performed = false) : Refused performed := by
  rcases posts with none | one
  · exact ⟨by simp [none], by simp [none, recorded]⟩
  · exact ⟨by simp [one], by simp [one, recorded]⟩

theorem Refused.lost {performed : List (Op × Bool)} (posts : postsOf performed = [false])
    (recorded : unrecorded performed = true) : Refused performed :=
  ⟨by simp [posts], by simp [posts, recorded]⟩

theorem Refused.append {performed later : List (Op × Bool)}
    (refused : Refused performed) (posts : postsOf later = [])
    (recorded : unrecorded later = false) : Refused (performed ++ later) := by
  constructor
  · rw [postsOf_append, posts, List.append_nil]
    exact refused.few
  · rw [postsOf_append, posts, List.append_nil, unrecorded_append, recorded, Bool.or_false]
    exact refused.accepted_iff

theorem wpTraced_mutateDelivery {post : Except DeliveryError Unit → List (Op × Bool) → World → Prop}
    (held : (world.deliveryQueue.row delivery.id).isSome)
    (changed : post (.ok ()) [(.mutateDelivery delivery, false)]
      { world with deliveryQueue := world.deliveryQueue.save delivery }) :
    outgoing.wpTraced (await (.mutateDelivery delivery)) post world := by
  refine ⟨?_, nofun⟩
  show post (.ok ()) _ (if (world.deliveryQueue.row delivery.id).isSome then _
    else world)
  rw [if_pos held]
  exact changed

theorem held_save (queue : Table WebhookDelivery) (next : WebhookDelivery) :
    ((queue.save next).row next.id).isSome := by
  rw [show next.id = Keyed.key next from rfl, Table.row_save_self]
  rfl

theorem deliver_delivered (held : (world.deliveryQueue.row delivery.id).isSome) :
    outgoing.wpTraced (service.deliver delivery) (Delivered world delivery)
      world := by
  unfold deliver
  rw [Handler.wpTraced_bind]
  apply wpTraced_findOne
  · intro webhook stored
    have key : webhook.id = delivery.webhookId := world.webhooks.keyed stored
    refine ⟨?_, fun _ error => .refused error (.unaccepted (.inr rfl) rfl) rfl held rfl rfl⟩
    -- the POST is accepted
    show outgoing.wpTraced (await (.mutateDelivery _) >>= fun _ => _) _ _
    rw [Handler.wpTraced_bind]
    refine wpTraced_mutateDelivery ?_ ?_
    · exact held
    refine ⟨⟨⟨?_, nofun⟩, fun _ error => .refused error (.lost rfl rfl) rfl
      (held_save _ _) rfl rfl⟩, nofun⟩
    refine .accepted ⟨rfl, rfl, rfl, ?_, ?_, ?_⟩
    · show ((World.changeWebhook _ _ _).deliveryQueue.row delivery.id).map _ = _
      rw [changeWebhook_deliveryQueue]
      exact congrArg (Option.map _) (Table.row_save_self _ _)
    · show (World.changeWebhook _ _ _).timers ++ _ = _
      rw [changeWebhook_timers]
      rfl
    · show (World.changeWebhook _ webhook.id _).failuresOf _ = _
      rw [← key]
      exact failuresOf_changeWebhook _ (fun _ => rfl) fun _ => rfl
  · exact fun error threw => .refused error (.unaccepted (.inl rfl) rfl) rfl held rfl rfl

/-- What an increment that may throw leaves. -/
structure Counted (before : World) (webhookId : Id)
    (performed : List (Op × Bool)) (after : World) : Prop where
  posts : postsOf performed = []
  recorded : unrecorded performed = false
  deliveryQueue : after.deliveryQueue = before.deliveryQueue
  timers : after.timers = before.timers
  failures : after.failuresOf webhookId = if uncounted performed then before.failuresOf webhookId
    else (before.failuresOf webhookId).map (· + 1)

theorem updateWebhookFailure_counted (world : World) (webhookId : Id) :
    outgoing.wpTraced (updateWebhookFailure webhookId)
      (fun _ => Counted world webhookId) world := by
  have incremented : (world.changeWebhook webhookId fun webhook =>
      { webhook with failureCount := webhook.failureCount + 1 }).failuresOf
        webhookId = (world.failuresOf webhookId).map (· + 1) :=
    failuresOf_changeWebhook _ (fun _ => rfl) fun _ => rfl
  refine ⟨⟨⟨?_, fun _ error => ?_⟩, nofun⟩, fun _ error =>
    ⟨rfl, rfl, rfl, rfl, rfl⟩⟩
  · refine ⟨rfl, rfl, ?_, ?_, ?_⟩
    · exact (changeWebhook_deliveryQueue _ _ _).trans (changeWebhook_deliveryQueue _ _ _)
    · exact (changeWebhook_timers _ _ _).trans (changeWebhook_timers _ _ _)
    · refine Eq.trans ?_ incremented
      refine (failuresOf_changeWebhook id ?_ ?_).trans ?_
      · exact fun _ => rfl
      · exact fun _ => rfl
      · exact Option.map_id'
  · exact ⟨rfl, rfl, changeWebhook_deliveryQueue _ _ _, changeWebhook_timers _ _ _, incremented⟩

inductive Recovered (before : World) (delivery : WebhookDelivery) :
    List (Op × Bool) → World → Prop where
  | retried {performed after} (counted : uncounted performed = false)
      (left : delivery.attempts < delivery.maxRetries)
      (stored : ∃ next, after.deliveryQueue.row delivery.id = some next ∧
        next.webhookId = delivery.webhookId ∧
        next.attempts = delivery.attempts ∧
        next.maxRetries = delivery.maxRetries)
      (timers : after.timers = before.timers ++ [⟨.attemptDelivery delivery.id,
          calculateBackoffDelay delivery.attempts⟩]) (webhooks : after.webhooks = before.webhooks) :
      Recovered before delivery performed after
  | exhausted {performed after} (last : delivery.maxRetries ≤ delivery.attempts)
      (status : after.statusOf delivery.id = some .exhausted)
      (timers : ∃ rest, after.timers = before.timers ++ rest ∧
        ∀ timer ∈ rest, timer.callback = .deleteDelivery delivery.id)
      (failures : after.failuresOf delivery.webhookId =
        if uncounted performed then before.failuresOf delivery.webhookId
        else (before.failuresOf delivery.webhookId).map (· + 1)) :
      Recovered before delivery performed after

theorem attemptFailed_recovered (error : DeliveryError)
    (held : (world.deliveryQueue.row delivery.id).isSome) :
    outgoing.wpTraced (attemptFailed delivery error)
      (fun _ performed after => postsOf performed = [] ∧ unrecorded performed = false ∧
        Recovered world delivery performed after) world := by
  unfold attemptFailed
  split
  next last =>
    rw [Handler.wpTraced_bind]
    refine wpTraced_mutateDelivery ?_ ?_
    · exact held
    rw [Handler.andThenTraced_ok, Handler.wpTraced_bind]
    refine Handler.wpTraced_mono (updateWebhookFailure_counted _ _) ?_
    rintro result performed after ⟨posts, recorded, queue, timers, failures⟩
    have status : after.statusOf delivery.id = some .exhausted := by
      rw [World.statusOf, queue]
      exact congrArg (Option.map _) (Table.row_save_self _ _)
    cases result with
    | ok value =>
      refine ⟨⟨?_, ?_, .exhausted last status
        ⟨[⟨.deleteDelivery delivery.id, 300000⟩], ?_, ?_⟩ ?_⟩, nofun⟩
      · show postsOf (performed ++ _) = []
        rw [postsOf_append, posts]
        rfl
      · simp_all [unrecorded]
      · exact congrArg (· ++ _) timers
      · exact List.forall_mem_singleton.mpr rfl
      · show after.failuresOf _ = if uncounted (performed ++ _) then _ else _
        rw [failures, uncounted_append, show uncounted [_] = false from rfl, Bool.or_false]
        rfl
    | error error =>
      exact ⟨posts, recorded, .exhausted last status
        ⟨[], by rw [timers, List.append_nil], nofun⟩ failures⟩
  next left =>
    refine ⟨?_, nofun⟩
    show outgoing.wpTraced (await (.mutateDelivery _) >>= fun _ => _) _ _
    rw [Handler.wpTraced_bind]
    refine wpTraced_mutateDelivery ?_ ?_
    · exact held
    refine ⟨⟨rfl, rfl, .retried rfl (Nat.lt_of_not_le left) ?_ rfl rfl⟩, nofun⟩
    exact ⟨_, Table.row_save_self _ _, rfl, rfl, rfl⟩

theorem attemptDelivery_attempted (world : World) (delivery : WebhookDelivery)
    (stored : world.deliveryQueue.row delivery.id = some delivery) :
    outgoing.wpTraced (service.attemptDelivery delivery.id)
      (fun _ => Attempted world delivery) world := by
  have read : outgoing.act (.getDelivery delivery.id) world =
      (some delivery, world) := Prod.ext stored rfl
  unfold attemptDelivery
  rw [Handler.wpTraced_bind, await, Handler.wpTraced_perform, read]
  refine ⟨?_, nofun⟩
  refine ⟨?_, nofun⟩
  show outgoing.wpTraced (await (.mutateDelivery _) >>= fun _ => _) _ _
  rw [Handler.wpTraced_bind]
  refine wpTraced_mutateDelivery ?_ ?_
  · exact Option.isSome_iff_exists.mpr ⟨_, stored⟩
  rw [Handler.andThenTraced_ok, Handler.wpTraced_tryCatch]
  refine Handler.wpTraced_mono (deliver_delivered service (held_save _ _)) ?_
  rintro result performed after delivered
  cases delivered with
  | accepted accepted =>
    exact .accepted ⟨accepted.posts, accepted.recorded, accepted.counted,
      accepted.status, accepted.timers, accepted.failures⟩
  | refused error refused counted held timers webhooks =>
    refine Handler.wpTraced_mono (attemptFailed_recovered error held) ?_
    rintro _ later final ⟨posts, recorded, recovered⟩
    have both := refused.append posts recorded
    have first : ∀ id, after.failuresOf id = world.failuresOf id := failuresOf_congr webhooks
    cases recovered with
    | retried none left stored pending same =>
      refine .retried ⟨both.few, both.accepted_iff⟩ ?_ left stored ?_ ?_
      · show uncounted (performed ++ later) = false
        rw [uncounted_append, counted, none]
        rfl
      · exact pending.trans (congrArg (· ++ _) timers)
      · exact (failuresOf_congr same _).trans (first _)
    | exhausted last status pending failures =>
      refine .exhausted ⟨both.few, both.accepted_iff⟩ last status ?_ ?_
      · obtain ⟨rest, split, deletes⟩ := pending
        exact ⟨rest, split.trans (congrArg (· ++ _) timers), deletes⟩
      · show final.failuresOf _ = if uncounted (performed ++ later) then _ else _
        rw [uncounted_append, counted, Bool.false_or, failures, first]

end

/-! ### All attempts -/

section

variable (service : WebhooksService) (deliveryId webhookId : Id)

/-- So many attempts have been made, and one more is pending. -/
structure Waiting (world : World) (made : ℕ) : Prop where
  stored : ∃ delivery, world.deliveryQueue.row deliveryId = some delivery ∧
    delivery.webhookId = webhookId ∧ delivery.attempts = made ∧ delivery.maxRetries = 5
  left : made < 5
  pending : world.timers.countP (isAttempt deliveryId) = 1

/-- The attempts that are still made after so many, up to one that succeeds or
the last one. -/
inductive Course : ℕ → World → World → List (List (Op × Bool)) → Prop where
  | accepted {made before after performed} (left : made < 5) (posts : postsOf performed = [false])
      (recorded : unrecorded performed = false) (counted : uncounted performed = false)
      (status : after.statusOf deliveryId = some .success) (failures : after.failuresOf webhookId =
        (before.failuresOf webhookId).map fun _ => 0) :
      Course made before after [performed]
  | exhausted {made before after performed} (refused : Refused performed) (last : made + 1 = 5)
      (status : after.statusOf deliveryId = some .exhausted)
      (failures : after.failuresOf webhookId =
        if uncounted performed then before.failuresOf webhookId
        else (before.failuresOf webhookId).map (· + 1)) :
      Course made before after [performed]
  | retried {made before middle after performed later} (refused : Refused performed)
      (counted : uncounted performed = false)
      (failures : middle.failuresOf webhookId = before.failuresOf webhookId)
      (rest : Course (made + 1) middle after later) :
      Course made before after (performed :: later)

variable {deliveryId webhookId}

variable {world before after : World} {made : ℕ}

theorem run_over (ceased : world.timers.any (isAttempt deliveryId) = false) (fires : List Firing) :
    run (firing service deliveryId) world fires = world ∧
      attempts service deliveryId world fires = [] := by
  induction fires with
  | nil => exact ⟨rfl, rfl⟩
  | cons fire fires ih => grind [firing, run_cons, attempts]

theorem countP_fired (pending : world.timers.countP (isAttempt deliveryId) = 1) (elapsed : ℕ) :
    (world.fired deliveryId elapsed).timers.countP (isAttempt deliveryId) =
      0 := by
  show (world.timers.eraseP (isAttempt deliveryId)).countP _ = 0
  generalize world.timers = timers at pending
  induction timers <;> grind

theorem isAttempt_delete (timer : Timer) (deletes : timer.callback = .deleteDelivery deliveryId) :
    isAttempt deliveryId timer = false := by
  rw [isAttempt, deletes]
  rfl

theorem course {fires : List Firing}
    (waiting : Waiting deliveryId webhookId world made) (enough : 5 ≤ made + fires.length) :
    Course deliveryId webhookId made world (run (firing service deliveryId) world fires)
      (attempts service deliveryId world fires) := by
  induction fires generalizing world made with
  | nil => exact absurd waiting.left (Nat.not_lt.mpr enough)
  | cons fire fires ih =>
    obtain ⟨⟨delivery, stored, webhook, number, most⟩, left, pending⟩ := waiting
    have key : delivery.id = deliveryId := world.deliveryQueue.keyed stored
    have any : world.timers.any (isAttempt deliveryId) = true := by
      rw [List.any_eq_true]
      exact List.countP_pos_iff.mp (pending ▸ Nat.one_pos)
    have silent := countP_fired pending fire.elapsed
    have attempted := Handler.wpTraced_sound (attemptDelivery_attempted
      service (world.fired deliveryId fire.elapsed) delivery
      (by rw [key]; exact stored)) fire.faults
    rw [key] at attempted
    have next : firing service deliveryId world fire = _ := if_pos any
    rw [← next] at attempted
    rw [run_cons, attempts, if_pos any]
    -- nothing is left to go off when no timer for an attempt is added
    have ceased : ∀ rest : List Timer,
        (∀ timer ∈ rest, timer.callback = .deleteDelivery deliveryId) →
        (firing service deliveryId world fire).timers =
          (world.fired deliveryId fire.elapsed).timers ++ rest → run (firing service deliveryId)
            (firing service deliveryId world fire) fires = firing service deliveryId world fire ∧
        attempts service deliveryId (firing service deliveryId world fire) fires = [] := by
      intro rest deletes timers
      refine run_over service ?_ fires
      simp_all [isAttempt_delete]
    cases attempted with
    | accepted accepted =>
      obtain ⟨posts, recorded, counted, status, timers, failures⟩ := accepted
      rw [key] at status timers
      rw [webhook] at failures
      obtain ⟨still, none⟩ := ceased _ (List.forall_mem_singleton.mpr rfl) timers
      rw [still, none]
      exact .accepted left posts recorded counted status failures
    | retried refused counted again stored timers failures =>
      obtain ⟨next, stored, webhook', number', most'⟩ := stored
      rw [key] at stored timers
      rw [webhook] at failures
      refine .retried refused counted failures (ih ⟨⟨next, stored, ?_, ?_, ?_⟩, ?_, ?_⟩ ?_)
      · exact webhook'.trans webhook
      · rw [number', number]
      · exact most'.trans most
      · rwa [number, most] at again
      · simp_all [isAttempt]
      · rw [List.length_cons] at enough
        omega
    | exhausted refused last status timers failures =>
      obtain ⟨rest, timers, deletes⟩ := timers
      rw [key] at status deletes
      rw [webhook] at failures
      obtain ⟨still, none⟩ := ceased rest deletes timers
      rw [still, none]
      exact .exhausted refused (by omega) status failures

theorem Course.ends {attempts : List (List (Op × Bool))}
    (course : Course deliveryId webhookId made before after attempts) :
    (after.statusOf deliveryId = some .success ∧ false ∈ postsOf attempts.flatten) ∨
      after.statusOf deliveryId = some .exhausted := by induction course <;> grind [postsOf_append]

theorem Course.few {attempts : List (List (Op × Bool))}
    (course : Course deliveryId webhookId made before after attempts) :
    (postsOf attempts.flatten).length + made ≤ 5 := by
  induction course with
  | accepted left posts recorded counted status failures => grind
  | exhausted refused last status failures =>
    have one := refused.few
    rw [List.flatten_singleton]
    omega
  | retried refused counted failures rest ih =>
    have one := refused.few
    grind [postsOf_append]

/-- The endings of a course in which every acceptance is recorded. -/
inductive Course.Ending (deliveryId webhookId : Id) (made : ℕ)
    (before after : World) (attempts : List (List (Op × Bool))) : Prop where
  | accepted (front : List Bool) (posts : postsOf attempts.flatten = front ++ [false])
      (first : false ∉ front) (counted : uncounted attempts.flatten = false)
      (status : after.statusOf deliveryId = some .success) (failures : after.failuresOf webhookId =
        (before.failuresOf webhookId).map fun _ => 0)
  | exhausted (posts : false ∉ postsOf attempts.flatten) (all : attempts.length + made = 5)
      (status : after.statusOf deliveryId = some .exhausted)
      (failures : after.failuresOf webhookId =
        if uncounted attempts.flatten then before.failuresOf webhookId
        else (before.failuresOf webhookId).map (· + 1))

theorem Course.ending {attempts : List (List (Op × Bool))}
    (course : Course deliveryId webhookId made before after attempts)
    (recorded : unrecorded attempts.flatten = false) :
    Course.Ending deliveryId webhookId made before after attempts := by
  induction course with
  | accepted left posts recorded counted status failures =>
    refine .accepted [] ?_ List.not_mem_nil ?_ status failures
    · rw [List.flatten_singleton, posts]
      rfl
    · rwa [List.flatten_singleton]
  | exhausted refused last status failures =>
    rw [List.flatten_singleton] at recorded
    refine .exhausted ?_ (by rw [List.length_singleton]; omega) status ?_
    · rw [List.flatten_singleton, refused.accepted_iff, recorded]
      exact Bool.false_ne_true
    · rwa [List.flatten_singleton]
  | @retried made before middle after performed later refused counted failures rest ih =>
    rw [List.flatten_cons, unrecorded_append, Bool.or_eq_false_iff] at recorded
    have first := refused.accepted_iff.not.mpr (recorded.1 ▸ Bool.false_ne_true)
    cases ih recorded.2 with
    | accepted front posts absent none status failures' =>
      refine .accepted (postsOf performed ++ front) ?_ ?_ ?_ status
        (failures'.trans (by rw [failures]))
      · rw [List.flatten_cons, postsOf_append, posts, List.append_assoc]
      · exact fun member => (List.mem_append.mp member).elim first absent
      · simp_all
    | exhausted absent all status failures' =>
      refine .exhausted ?_ ?_ status ?_
      · simp_all
      · rw [List.length_cons]
        omega
      · simp_all

/-- Where an acceptance is not recorded, the delivery does not succeed, or is
posted again. -/
theorem Course.lost {attempts : List (List (Op × Bool))}
    (course : Course deliveryId webhookId made before after attempts)
    (lost : unrecorded attempts.flatten = true) :
    false ∈ postsOf attempts.flatten ∧ (after.statusOf deliveryId = some .exhausted ∨
        ∃ front back, postsOf attempts.flatten = front ++ false :: back ∧ back ≠ []) := by
  induction course with
  | accepted left posts recorded counted status failures =>
    rw [List.flatten_singleton, recorded] at lost
    cases lost
  | exhausted refused last status failures =>
    rw [List.flatten_singleton] at lost ⊢
    exact ⟨refused.accepted_iff.mpr lost, .inl status⟩
  | @retried made before middle after performed later refused counted failures rest ih =>
    rw [List.flatten_cons, unrecorded_append, Bool.or_eq_true] at lost
    rw [List.flatten_cons, postsOf_append]
    rcases lost with here | behind
    · have accepted := refused.accepted_iff.mpr here
      refine ⟨List.mem_append_left _ accepted, ?_⟩
      rcases rest.ends with ⟨-, again⟩ | exhausted <;> grind [List.append_of_mem,
        List.append_ne_nil_of_right_ne_nil]
    · grind

/-- What is promised of a course is kept iff no acceptance goes unrecorded,
and no failure uncounted. -/
theorem Course.settled_iff {attempts : List (List (Op × Bool))}
    (course : Course deliveryId webhookId 0 before after attempts) :
    Settled deliveryId webhookId before after attempts ↔ unrecorded attempts.flatten = false ∧
        (uncounted attempts.flatten = true → before.failuresOf webhookId = none) := by
  constructor
  · intro settled
    have recorded : unrecorded attempts.flatten = false := by
      by_contra lost
      obtain ⟨accepted, ends⟩ := course.lost (Bool.not_eq_false _ ▸ lost)
      have success := settled.success_iff.mpr accepted
      rcases ends with exhausted | ⟨front, back, split, more⟩
      · rw [success] at exhausted
        cases exhausted
      · exact more (settled.once front back split)
    refine ⟨recorded, fun lost => ?_⟩
    cases course.ending recorded with
    | accepted front posts first counted status failures =>
      rw [counted] at lost
      cases lost
    | exhausted posts all status failures =>
      have promised := settled.exhausted_counted status
      cases old : before.failuresOf webhookId <;> simp_all
  · rintro ⟨recorded, counted⟩
    have few := course.few
    cases course.ending recorded with
    | accepted front posts first none status failures =>
      have member : false ∈ postsOf attempts.flatten := by simp_all
      have other : after.statusOf deliveryId ≠ some .exhausted := by
        rw [status]
        decide
      refine ⟨few, ?_, iff_of_true status member, iff_of_false other fun both => both.2 member,
        fun exhausted => absurd exhausted other, ?_⟩
      · intro before back split
        rcases List.eq_nil_or_concat back with none | ⟨init, last, more⟩
        · exact none
        · grind [List.append_inj']
      · simp_all
    | exhausted posts all status failures =>
      have other : after.statusOf deliveryId ≠ some .success := by
        rw [status]
        decide
      refine ⟨few, ?_, iff_of_false other posts, iff_of_true status
        ⟨all, posts⟩, ?_, fun member => absurd member posts⟩
      · grind
      · simp_all

end

/-! ### A scheduled delivery -/

section

variable (service : WebhooksService) (webhook : Webhook)
  (eventType : WebhookEventType) (payload : Json)

/-- The world that `scheduleDelivery` leaves. -/
def afterScheduling (faults : List (Option DeliveryError)) (world : World) :
    World :=
  (outgoing.exec (service.scheduleDelivery webhook eventType payload) faults world).2

theorem waiting_scheduled (faults : List (Option DeliveryError)) (world : World) :
    Waiting world.newId webhook.id
      (afterScheduling service webhook eventType payload faults world) 0 := by
  rw [afterScheduling, exec_scheduleDelivery]
  refine ⟨⟨_, Table.row_save_self _ _, rfl, rfl, rfl⟩, by decide, ?_⟩
  show (world.timers ++ _).countP _ = 1
  have old : world.timers.countP (isAttempt world.newId) = 0 := by
    refine List.countP_eq_zero.mpr fun timer member same => ?_
    have below := World.timer_lt_newId member
    rw [of_decide_eq_true same] at below
    exact Nat.lt_irrefl _ below
  rw [List.countP_append, old]
  simp [isAttempt]

/-- A delivery is settled as promised iff no write of `updateWebhookSuccess`
throws, and no increment of `failureCount` does while the webhook exists. -/
theorem delivery_settled_iff (faults : List (Option DeliveryError))
    (world : World) (fires : List Firing) (enough : 5 ≤ fires.length) :
    let start := afterScheduling service webhook eventType payload faults world
    let made := attempts service world.newId start fires
    Settled world.newId webhook.id start (run (firing service world.newId) start fires) made ↔
      unrecorded made.flatten = false ∧ (uncounted made.flatten = true →
          start.failuresOf webhook.id = none) :=
  (course service (waiting_scheduled service webhook eventType payload faults
    world) (by rwa [Nat.zero_add])).settled_iff

end

/-! ### Two deliveries -/

def untroubled : List Firing := List.replicate 5 ⟨1000, []⟩

theorem untroubled_settled :
    Settled sampleWorld.newId 0 (afterScheduling sampleService sampleWebhook .orderCreated .null []
        sampleWorld) (run (firing sampleService sampleWorld.newId)
        (afterScheduling sampleService sampleWebhook .orderCreated .null [] sampleWorld) untroubled)
      (attempts sampleService sampleWorld.newId
        (afterScheduling sampleService sampleWebhook .orderCreated .null []
          sampleWorld) untroubled) :=
  (delivery_settled_iff sampleService sampleWebhook .orderCreated .null []
    sampleWorld untroubled (by decide)).mpr (by decide)

/-- The endpoint accepts every POST, and the database refuses to record it:
the eighth effect of an attempt. -/
def unrecordedFires : List Firing := List.replicate 5 ⟨1000, List.replicate 7 none ++
    [some { message := "Connection terminated unexpectedly" }]⟩

/-- A delivery that the endpoint has accepted is posted four more times, and
ends as exhausted. -/
theorem accepted_and_exhausted :
    ¬ Settled sampleWorld.newId 0
      (afterScheduling sampleService sampleWebhook .orderCreated .null [] sampleWorld)
      (run (firing sampleService sampleWorld.newId)
        (afterScheduling sampleService sampleWebhook .orderCreated .null []
          sampleWorld) unrecordedFires) (attempts sampleService sampleWorld.newId
        (afterScheduling sampleService sampleWebhook .orderCreated .null []
          sampleWorld) unrecordedFires) := by
  intro settled
  have posts : postsOf (attempts sampleService sampleWorld.newId
      (afterScheduling sampleService sampleWebhook .orderCreated .null []
        sampleWorld) unrecordedFires).flatten = [false, false, false, false, false] := by
    decide
  exact absurd (settled.once [] _ posts) (by decide)

end MarketX.OutgoingWebhooks
