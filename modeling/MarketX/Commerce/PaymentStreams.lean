/-
Module: MarketX.Commerce.PaymentStreams
Purpose: The service that watches the network for the payments
  (`payments/payment-monitor.service.ts`): its filter of payment operations
  and its handler of an incoming transaction; its streams and timers, what is
  open and what is pending, the two maps it keeps of them, its calls and
  handlers from one await to the next, and what each effect makes of the maps.
Trusted boundary: human-reviewed model of the source
Main exports: PaymentOperation, StellarTransaction, Monitoring, checkPaymentOperation
-/
import Mathlib.Data.List.AList
import MarketX.Effects.Interleaving
import MarketX.Effects.Schedules
import MarketX.Commerce.PaymentsService

namespace MarketX.Commerce

open Effects

/-! ### Transactions of the network -/

/-- The fields of an operation record the code reads.  A missing member is
`none`; so is an amount that `parseFloat` makes `NaN` of. -/
structure PaymentOperation where
  type : String
  «from» : Option PublicKey := none
  «to» : Option PublicKey := none
  destination : Option PublicKey := none
  amount : Option Amount
  assetCode : Option String := none
deriving DecidableEq

/-- A transaction of the stream, with what the request for its operations
answers.  A date that `Date` cannot read is `none`. -/
structure StellarTransaction where
  id : String
  createdAt : Option Date
  operations : Except HttpException (List PaymentOperation)

/-- What the service keeps in memory: the payments it has a stream and a
timer for. -/
structure Monitoring where
  activeStreams : List Id := []
  timeoutIntervals : List Id := []
deriving DecidableEq

namespace PaymentMonitorService

def stopMonitoringPayment (monitoring : Monitoring) (paymentId : Id) :
    Monitoring where
  activeStreams := monitoring.activeStreams.filter (· ≠ paymentId)
  timeoutIntervals := monitoring.timeoutIntervals.filter (· ≠ paymentId)

/-- `operation.to || operation.destination`. -/
def destinationOf (operation : PaymentOperation) : Option PublicKey :=
  operation.to <|> operation.destination

/-- Does the operation fit the payment?  A comparison with `NaN` is false, so
an unreadable amount passes. -/
def checkPaymentOperation (payment : Payment) (operation : PaymentOperation)
    (destinationAddress : PublicKey) : Bool :=
  let tolerance : ℚ := 1 / 10000
  if destinationOf operation ≠ some destinationAddress then
    false
  else if operation.amount.any fun amount =>
      |amount - payment.amount| > tolerance then
    false
  else if payment.currency ≠ .XLM then
    -- the asset counts only where the payment is not in lumens
    let assetCode :=
      ((operation.assetCode.map String.toUpper).filter (· ≠ "")).getD "XLM"
    decide (assetCode = toString payment.currency)
  else
    true

/-- What the verification is given of an operation. -/
def transactionData (transaction : StellarTransaction)
    (operation : PaymentOperation) : TransactionData where
  id := some transaction.id
  «to» := destinationOf operation
  sourceAccount := operation.from
  amount := operation.amount
  assetCode := some ((operation.assetCode.filter (· ≠ "")).getD "XLM")
  createdAt := transaction.createdAt
  confirmations := some 1

/-- A payment operation that fits the payment. -/
def isRelevantPayment (payment : Payment) (destinationAddress : PublicKey)
    (operation : PaymentOperation) : Bool :=
  (operation.type = "payment" ∨ operation.type = "path_payment_strict_receive") &&
    checkPaymentOperation payment operation destinationAddress

/-- The loop over the operations: the first relevant one is verified, and
ends it. -/
def processOperations (monitoring : Monitoring) (paymentId : Id)
    (payment : Payment) (transaction : StellarTransaction) (destinationAddress : PublicKey) :
    List PaymentOperation → Service Monitoring
  | [] => pure monitoring
  | operation :: operations =>
    if isRelevantPayment payment destinationAddress operation then do
      -- the answer tells a FAILED payment from a CONFIRMED one; it is
      -- dropped
      let _ ← PaymentsService.verifyAndConfirmPayment paymentId
        (transactionData transaction operation)
      emit (.paymentStreamConfirmed paymentId transaction.id)
      pure (stopMonitoringPayment monitoring paymentId)
    else
      processOperations monitoring paymentId payment transaction destinationAddress operations

/-- The body of the `try`. -/
def processTransaction (monitoring : Monitoring) (paymentId : Id)
    (transaction : StellarTransaction) (destinationAddress : PublicKey) :
    Service Monitoring := do
  match ← paymentsRepository.findOne paymentId with
  | none => pure monitoring
  | some payment =>
    if payment.status ≠ .pending then
      pure monitoring
    else
      match transaction.operations with
      | .error error => throw error
      | .ok operations =>
        processOperations monitoring paymentId payment transaction destinationAddress operations

/-- Errors are caught and logged. -/
def handleIncomingTransaction (monitoring : Monitoring) (paymentId : Id)
    (transaction : StellarTransaction) (destinationAddress : PublicKey) :
    Service Monitoring := do
  match ← (processTransaction monitoring paymentId transaction destinationAddress).attempt with
  | .ok monitoring => pure monitoring
  | .error _ => pure monitoring

end PaymentMonitorService

/-!
### Streams and timers

The code runs from one `await` to the next without a break.  What lies between
two of them is therefore one effect here, and other calls and handlers come in
between effects only.  A stream is open from the moment its opening, an
`await`, is answered until it is closed; its messages may come earlier, and
handlers may still be at work when it is closed.  The runtime's and the SDK's
own calls to close a stream and to clear a timer do not throw.
-/

/-- An open stream, which its `closeFunction` stands for, or a pending timer,
a `NodeJS.Timeout`; and the payment it was made for. -/
structure Handle where
  number : ℕ
  paymentId : Id
deriving DecidableEq

structure StreamingConnection where
  paymentId : Id
  destinationAddress : PublicKey
  closeFunction : Handle
deriving DecidableEq

/-- The two maps of the service, the streams that are open and the timers that
are pending, and the shop.  `departed` are the payments that the service has
taken out of `PENDING`; the code keeps no such list. -/
structure Monitor where
  activeStreams : AList fun _ : Id => StreamingConnection
  timeoutIntervals : AList fun _ : Id => Handle
  streams : List Handle
  timers : List Handle
  next : ℕ
  shop : World
  departed : List Id

namespace Monitor

/-- Nothing is monitored. -/
def start (shop : World) : Monitor where
  activeStreams := ∅
  timeoutIntervals := ∅
  streams := []
  timers := []
  next := 0
  shop
  departed := []

variable (monitor : Monitor)

/-! ### Between two awaits -/

/-- A call of a `closeFunction`. -/
def close (closeFunction : Handle) : Monitor :=
  { monitor with streams := monitor.streams.filter (· ≠ closeFunction) }

def clearTimeout (timeout : Handle) : Monitor :=
  { monitor with timers := monitor.timers.filter (· ≠ timeout) }

/-- `timeoutIntervals.delete`. -/
def deleteTimeout (paymentId : Id) : Monitor :=
  { monitor with
    timeoutIntervals := monitor.timeoutIntervals.erase paymentId }

def clearPaymentTimeout (paymentId : Id) : Monitor :=
  match monitor.timeoutIntervals.lookup paymentId with
  | none => monitor
  | some timeout => (monitor.clearTimeout timeout).deleteTimeout paymentId

/-- The first half of `stopMonitoringPayment`. -/
def closeStream (paymentId : Id) : Monitor :=
  match monitor.activeStreams.lookup paymentId with
  | none => monitor
  | some stream =>
    { monitor.close stream.closeFunction with
      activeStreams := monitor.activeStreams.erase paymentId }

def stopMonitoringPayment (paymentId : Id) : Monitor :=
  (monitor.closeStream paymentId).clearPaymentTimeout paymentId

/-- The payment is asked for without an `await`: a promise is there in any
case. -/
def setupPaymentTimeout (paymentId : Id) : Monitor :=
  let timeoutHandle : Handle := ⟨monitor.next, paymentId⟩
  { monitor with
    timers := timeoutHandle :: monitor.timers
    next := monitor.next + 1
    timeoutIntervals :=
      monitor.timeoutIntervals.insert paymentId timeoutHandle }

/-- The stream is open, and what `monitorPayment` does then. -/
def opened (paymentId : Id) (destinationAddress : PublicKey) : Monitor :=
  let closeFunction : Handle := ⟨monitor.next, paymentId⟩
  let registered : Monitor :=
    { monitor with
      streams := closeFunction :: monitor.streams
      next := monitor.next + 1
      activeStreams := monitor.activeStreams.insert paymentId
        { paymentId, destinationAddress, closeFunction } }
  registered.setupPaymentTimeout paymentId

def closeAllStreams : Monitor :=
  let closed := monitor.activeStreams.entries.foldl
    (fun monitor entry => monitor.close entry.2.closeFunction) monitor
  { closed with activeStreams := ∅ }

def clearAllTimeouts : Monitor :=
  let cleared := monitor.timeoutIntervals.entries.foldl
    (fun monitor entry => monitor.clearTimeout entry.2) monitor
  { cleared with timeoutIntervals := ∅ }

def onModuleDestroy : Monitor := monitor.closeAllStreams.clearAllTimeouts

/-- The payment is stored as `PENDING`. -/
def isPending (paymentId : Id) : Bool :=
  (monitor.shop.db.payments.row paymentId).any fun payment => payment.status = .pending

end Monitor

/-! ### Effects -/

/-- The calls that are awaited, and the stretches of code between two awaits
that touch what the service keeps. -/
inductive MonitorOp where
  | shop (op : Op)
  | findPendingPayments
  | hasStream (paymentId : Id)
  | stream (paymentId : Id) (destinationAddress : PublicKey)
  | stopMonitoringPayment (paymentId : Id)
  | timerFires (timer : Handle)
  | stopAndDeleteTimeout (paymentId : Id)
  | deleteTimeout (paymentId : Id)
  | onModuleDestroy

@[reducible] def MonitorReply : MonitorOp → Type
  | .shop op => Reply op
  | .findPendingPayments => List Payment
  | .hasStream _ | .timerFires _ => Bool
  | _ => Unit

/-- The payment that an effect takes out of `PENDING`. -/
def departing : MonitorOp → Monitor → Option Id
  | .shop (.savePayment payment), monitor =>
    if monitor.isPending payment.id = true ∧ payment.status ≠ .pending then
      some payment.id
    else none
  | _, _ => none

/-- What each effect does when it does not throw. -/
def monitorAct : (op : MonitorOp) → Monitor → MonitorReply op × Monitor
  | .shop op, monitor =>
    ((act op monitor.shop).1,
      { monitor with
        shop := (act op monitor.shop).2
        departed :=
          (departing (.shop op) monitor).toList ++ monitor.departed })
  | .findPendingPayments, monitor =>
    (monitor.shop.db.payments.rows.filter fun payment => payment.status = .pending, monitor)
  | .hasStream paymentId, monitor =>
    ((monitor.activeStreams.lookup paymentId).isSome, monitor)
  | .stream paymentId destinationAddress, monitor =>
    ((), monitor.opened paymentId destinationAddress)
  | .stopMonitoringPayment paymentId, monitor =>
    ((), monitor.stopMonitoringPayment paymentId)
  -- a timer that has been cleared does not fire
  | .timerFires timer, monitor =>
    (timer ∈ monitor.timers, monitor.clearTimeout timer)
  | .stopAndDeleteTimeout paymentId, monitor =>
    ((), (monitor.stopMonitoringPayment paymentId).deleteTimeout paymentId)
  | .deleteTimeout paymentId, monitor => ((), monitor.deleteTimeout paymentId)
  | .onModuleDestroy, monitor => ((), monitor.onModuleDestroy)

def monitorMayFail : MonitorOp → Bool
  | .shop op => mayFail op
  | .findPendingPayments | .stream _ _ => true
  | _ => false

abbrev monitorSignature : Signature := ⟨MonitorOp, MonitorReply⟩

def monitoring : Handler monitorSignature Monitor :=
  ⟨monitorAct, monitorMayFail⟩

/-- A method or handler of the service. -/
abbrev Monitored (α : Type) := Program monitorSignature HttpException α

abbrev awaits (op : MonitorOp) : Monitored (MonitorReply op) :=
  Program.perform (S := monitorSignature) op

/-- A method of the payments service, or a call of a repository. -/
def ofShop {α : Type} : Service α → Monitored α
  | .pure value => .pure value
  | .throw error => .throw error
  | .call op next => .call (.shop op) fun reply => ofShop (next reply)

/-! ### Calls and handlers -/

namespace PaymentMonitorService

/-- An opening that fails is logged and thrown on. -/
def monitorPayment (paymentId : Id) (destinationAddress : PublicKey) :
    Monitored Unit := do
  if ← awaits (.hasStream paymentId) then
    pure ()
  else
    awaits (.stream paymentId destinationAddress)

/-- The loop over the operations: the first relevant one is verified, and
ends it. -/
def confirmOperations (paymentId : Id) (payment : Payment)
    (transaction : StellarTransaction) (destinationAddress : PublicKey) :
    List PaymentOperation → Monitored Unit
  | [] => pure ()
  | operation :: operations =>
    if isRelevantPayment payment destinationAddress operation then do
      let _ ← ofShop (PaymentsService.verifyAndConfirmPayment paymentId
        (transactionData transaction operation))
      awaits (.stopMonitoringPayment paymentId)
      ofShop (emit (.paymentStreamConfirmed paymentId transaction.id))
    else
      confirmOperations paymentId payment transaction destinationAddress operations

/-- The body of the `try`. -/
def confirmTransaction (paymentId : Id) (transaction : StellarTransaction)
    (destinationAddress : PublicKey) : Monitored Unit := do
  match ← ofShop (paymentsRepository.findOne paymentId) with
  | none => pure ()
  | some payment =>
    if payment.status ≠ .pending then
      pure ()
    else
      match transaction.operations with
      | .error error => throw error
      | .ok operations =>
        confirmOperations paymentId payment transaction destinationAddress operations

/-- The handler of a message.  Errors are caught and logged. -/
def onmessage (paymentId : Id) (transaction : StellarTransaction)
    (destinationAddress : PublicKey) : Monitored Unit := do
  let _ ← (confirmTransaction paymentId transaction destinationAddress).attempt
  pure ()

/-- The callback of `setupPaymentTimeout`. -/
def timeoutTriggered (timer : Handle) : Monitored Unit := do
  if ← awaits (.timerFires timer) then
    match ← ofShop (paymentsRepository.findOne timer.paymentId) with
    | some currentPayment =>
      if currentPayment.status = .pending then
        let _ ← ofShop (PaymentsService.handlePaymentTimeout timer.paymentId)
        awaits (.stopAndDeleteTimeout timer.paymentId)
      else
        awaits (.deleteTimeout timer.paymentId)
    | none => awaits (.deleteTimeout timer.paymentId)
  else
    pure ()

/-- The loop over the payments. -/
def handleExpired (now : Date) : List Payment → Monitored Unit
  | [] => pure ()
  | payment :: payments => do
      if payment.expiresAt.any (· < now) then
        let _ ← ofShop (PaymentsService.handlePaymentTimeout payment.id)
        awaits (.stopMonitoringPayment payment.id)
      handleExpired now payments

def checkAndHandleExpiredPayments : Monitored Unit := do
  let now ← ofShop dateNow
  let expiredPayments ← awaits .findPendingPayments
  handleExpired now expiredPayments

end PaymentMonitorService

/-! ### At once -/

/-- Everything that is called or fires, at any time and as often as one
likes. -/
inductive MonitorCall where
  | monitorPayment (paymentId : Id) (destinationAddress : PublicKey)
  | stopMonitoringPayment (paymentId : Id)
  | onmessage (paymentId : Id) (transaction : StellarTransaction) (destinationAddress : PublicKey)
  | timeoutTriggered (timer : Handle)
  | checkAndHandleExpiredPayments
  | onModuleDestroy

def MonitorCall.program : MonitorCall → Monitored Unit
  | .monitorPayment paymentId destinationAddress =>
    PaymentMonitorService.monitorPayment paymentId destinationAddress
  | .stopMonitoringPayment paymentId => awaits (.stopMonitoringPayment paymentId)
  | .onmessage paymentId transaction destinationAddress =>
    PaymentMonitorService.onmessage paymentId transaction destinationAddress
  | .timeoutTriggered timer => PaymentMonitorService.timeoutTriggered timer
  | .checkAndHandleExpiredPayments => PaymentMonitorService.checkAndHandleExpiredPayments
  | .onModuleDestroy => awaits .onModuleDestroy

/-- Others are at work in the shop. -/
def elsewhere (shop : World) (monitor : Monitor) : Monitor :=
  { monitor with shop }

abbrev MonitorPool := Pool monitorSignature Monitor HttpException MonitorCall

abbrev MonitorTurn := Turn HttpException MonitorCall World

def monitorRace : MonitorPool → MonitorTurn → MonitorPool :=
  Pool.step monitoring MonitorCall.program elsewhere

/-! ### A message alone -/

section

open Handler PaymentMonitorService

variable {α : Type} {paymentId : Id} {monitor : Monitor} {faults : List Fault}

theorem exec_ofShop (program : Service α) (faults : List Fault) (monitor : Monitor) :
    (monitoring.exec (ofShop program) faults monitor).1 =
        (commerce.exec program faults monitor.shop).1 ∧
      (monitoring.exec (ofShop program) faults monitor).2.shop =
        (commerce.exec program faults monitor.shop).2 ∧
      monitoring.leftover (ofShop program) faults monitor =
        commerce.leftover program faults monitor.shop := by
  induction program generalizing faults monitor with
  | pure value => exact ⟨rfl, rfl, rfl⟩
  | throw error => exact ⟨rfl, rfl, rfl⟩
  | call op next ih =>
    have same : (monitoring.perform (.shop op) (faults.headD none) monitor).1 =
        (commerce.perform op (faults.headD none) monitor.shop).1 ∧
      (monitoring.perform (.shop op) (faults.headD none) monitor).2.shop =
        (commerce.perform op (faults.headD none) monitor.shop).2 := by
      cases faults.headD none with
      | none => exact ⟨rfl, rfl⟩
      | some error =>
        by_cases fails : mayFail op = true <;> simp_all [Handler.perform, monitoring,
          monitorMayFail, commerce, monitorAct]
    have continued := ih (monitoring.perform (.shop op) (faults.headD none) monitor).1 faults.tail
      (monitoring.perform (.shop op) (faults.headD none) monitor).2
    rw [same.2] at continued
    simp only [Handler.exec, leftover, ← same.1]
    exact continued

theorem Monitor.shop_stop :
    (monitor.stopMonitoringPayment paymentId).shop = monitor.shop := by
  unfold stopMonitoringPayment clearPaymentTimeout closeStream
  split <;> split <;> rfl

/-- The program leaves the shop as the simpler one does, whatever fails. -/
def AsInShop {β : Type} (program : Monitored α) (simpler : Service β) : Prop :=
  ∀ (faults : List Fault) (monitor : Monitor), (monitoring.exec program faults monitor).2.shop =
      (commerce.exec simpler faults monitor.shop).2

theorem asInShop_bind {β γ : Type} {method : Service β}
    {rest : β → Monitored α} {simpler : β → Service γ}
    (continues : ∀ value, AsInShop (rest value) (simpler value)) :
    AsInShop (ofShop method >>= rest) (method >>= simpler) := by
  intro faults monitor
  obtain ⟨result, shop, left⟩ := exec_ofShop method faults monitor
  cases outcome : (commerce.exec method faults monitor.shop).1 with
  | ok value =>
    rw [exec_bind_ok outcome, exec_bind_ok (result.trans outcome), left, continues, shop]
  | error error => simp_all [exec_bind_error]

theorem shop_announced (event : CommerceEvent) (faults : List Fault) (monitor : Monitor) :
    (monitoring.exec (awaits (.stopMonitoringPayment paymentId) >>=
        fun _ => ofShop (emit event)) faults monitor).2.shop =
      monitor.shop.emitted event := by
  rw [exec_perform_acts (.inr rfl)]
  have announced : monitoring.exec (ofShop (emit event)) faults.tail
      (monitor.stopMonitoringPayment paymentId) = (.ok (), (monitoring.act (.shop (.emit event))
          (monitor.stopMonitoringPayment paymentId)).2) := exec_call_acts (.inr rfl)
  refine (congrArg (fun done : Except HttpException Unit × Monitor =>
    done.2.shop) announced).trans ?_
  exact congrArg (World.emitted · event) Monitor.shop_stop

theorem asInShop_confirmOperations (before : Monitoring) (payment : Payment)
    (transaction : StellarTransaction) (destinationAddress : PublicKey)
    (operations : List PaymentOperation) :
    AsInShop (confirmOperations paymentId payment transaction destinationAddress operations)
      (processOperations before paymentId payment transaction
        destinationAddress operations) := by
  induction operations with
  | nil => exact fun _ _ => rfl
  | cons operation operations ih =>
    unfold confirmOperations processOperations
    split
    next =>
      apply asInShop_bind
      intro response faults monitor
      have announced : commerce.exec (do
            emit (.paymentStreamConfirmed paymentId transaction.id)
            pure (stopMonitoringPayment before paymentId)) faults monitor.shop =
          (.ok (stopMonitoringPayment before paymentId), monitor.shop.emitted
              (.paymentStreamConfirmed paymentId transaction.id)) := exec_perform_acts (.inr rfl)
      rw [announced]
      exact shop_announced _ _ _
    next => exact ih

/-- Alone, the handler of a message does to the shop what it does without
streams and timers, whatever fails. -/
theorem asInShop_onmessage (before : Monitoring)
    (transaction : StellarTransaction) (destinationAddress : PublicKey) :
    AsInShop (onmessage paymentId transaction destinationAddress)
      (handleIncomingTransaction before paymentId transaction destinationAddress) := by
  have body : AsInShop (confirmTransaction paymentId transaction destinationAddress)
      (processTransaction before paymentId transaction destinationAddress) := by
    apply asInShop_bind
    intro found
    cases found with
    | none => exact fun _ _ => rfl
    | some payment =>
      dsimp only
      split
      next => exact fun _ _ => rfl
      next =>
        cases transaction.operations with
        | error error => exact fun _ _ => rfl
        | ok operations => grind [asInShop_confirmOperations]
  intro faults monitor
  unfold onmessage handleIncomingTransaction
  rw [exec_attempt_bind, exec_attempt_bind]
  refine (body faults monitor).trans ?_
  cases (commerce.exec (processTransaction before paymentId transaction
    destinationAddress) faults monitor.shop).1 <;> rfl

end

/-! ### What is registered -/

/-- No stream of the payment is open, and no timer of it pending. -/
structure Quiet (monitor : Monitor) (paymentId : Id) : Prop where
  streams : ∀ stream ∈ monitor.streams, stream.paymentId ≠ paymentId
  timers : ∀ timer ∈ monitor.timers, timer.paymentId ≠ paymentId

/-- What an effect stops the monitoring of. -/
def stops : MonitorOp → Option Id
  | .stopMonitoringPayment paymentId | .stopAndDeleteTimeout paymentId => some paymentId
  | _ => none

/-- The maps record the open streams and the pending timers, what the one
records is open, and no timer is pending without a stream. -/
structure Registered (monitor : Monitor) : Prop where
  streams : ∀ stream ∈ monitor.streams, (monitor.activeStreams.lookup stream.paymentId).map
      StreamingConnection.closeFunction = some stream
  timers : ∀ timer ∈ monitor.timers, monitor.timeoutIntervals.lookup timer.paymentId = some timer
  opened : ∀ paymentId connection, monitor.activeStreams.lookup paymentId = some connection →
      connection.closeFunction ∈ monitor.streams ∧ connection.closeFunction.paymentId = paymentId
  accompanied : ∀ timer ∈ monitor.timers, monitor.activeStreams.lookup timer.paymentId ≠ none
  fresh : ∀ stream ∈ monitor.streams, stream.number < monitor.next

section

variable {monitor : Monitor} {paymentId : Id} {handle : Handle}

namespace Monitor

@[simp] theorem streams_clearPaymentTimeout :
    (monitor.clearPaymentTimeout paymentId).streams = monitor.streams := by
  unfold clearPaymentTimeout
  split <;> rfl

@[simp] theorem activeStreams_clearPaymentTimeout :
    (monitor.clearPaymentTimeout paymentId).activeStreams =
      monitor.activeStreams := by
  unfold clearPaymentTimeout
  split <;> rfl

@[simp] theorem next_clearPaymentTimeout :
    (monitor.clearPaymentTimeout paymentId).next = monitor.next := by
  unfold clearPaymentTimeout
  split <;> rfl

@[simp] theorem timers_closeStream :
    (monitor.closeStream paymentId).timers = monitor.timers := by
  unfold closeStream
  split <;> rfl

@[simp] theorem timeoutIntervals_closeStream :
    (monitor.closeStream paymentId).timeoutIntervals =
      monitor.timeoutIntervals := by
  unfold closeStream
  split <;> rfl

@[simp] theorem next_closeStream :
    (monitor.closeStream paymentId).next = monitor.next := by
  unfold closeStream
  split <;> rfl

theorem lookup_activeStreams_stop (other : Id) :
    (monitor.stopMonitoringPayment paymentId).activeStreams.lookup other =
      if other = paymentId then none
      else monitor.activeStreams.lookup other := by
  grind [stopMonitoringPayment, activeStreams_clearPaymentTimeout, closeStream,
    AList.lookup_erase, AList.lookup_erase_ne]

theorem lookup_timeoutIntervals_stop (other : Id) :
    (monitor.stopMonitoringPayment paymentId).timeoutIntervals.lookup other =
      if other = paymentId then none
      else monitor.timeoutIntervals.lookup other := by
  unfold stopMonitoringPayment clearPaymentTimeout
  split
  next missing => grind [timeoutIntervals_closeStream]
  next =>
    show ((monitor.closeStream paymentId).timeoutIntervals.erase _).lookup other = _
    grind [timeoutIntervals_closeStream, AList.lookup_erase, AList.lookup_erase_ne]

theorem mem_streams_stop (registered : Registered monitor) :
    handle ∈ (monitor.stopMonitoringPayment paymentId).streams ↔
      handle ∈ monitor.streams ∧ handle.paymentId ≠ paymentId := by
  unfold stopMonitoringPayment
  rw [streams_clearPaymentTimeout, closeStream]
  split
  next missing =>
    refine ⟨fun member => ⟨member, fun same => ?_⟩, And.left⟩
    have found := registered.streams handle member
    rw [same, missing] at found
    cases found
  next connection found =>
    show handle ∈ monitor.streams.filter _ ↔ _
    rw [List.mem_filter, decide_eq_true_eq]
    refine and_congr_right fun member => not_congr ⟨fun same => ?_, fun same => ?_⟩
    · rw [same]
      exact (registered.opened paymentId connection found).2
    · have registeredHere := registered.streams handle member
      grind

theorem mem_timers_of_stop (registered : Registered monitor)
    (member : handle ∈ (monitor.stopMonitoringPayment paymentId).timers) :
    handle ∈ monitor.timers ∧ handle.paymentId ≠ paymentId := by
  unfold stopMonitoringPayment clearPaymentTimeout at member
  rw [timeoutIntervals_closeStream] at member
  split at member
  next missing =>
    rw [timers_closeStream] at member
    refine ⟨member, fun same => ?_⟩
    have found := registered.timers handle member
    rw [same, missing] at found
    cases found
  next timeout found =>
    replace member : handle ∈ (monitor.closeStream paymentId).timers.filter (· ≠ timeout) := member
    rw [timers_closeStream, List.mem_filter, decide_eq_true_eq] at member
    refine ⟨member.1, fun same => member.2 ?_⟩
    have registeredHere := registered.timers handle member.1
    grind

theorem mem_streams_closing (connections : List (Sigma fun _ : Id => StreamingConnection)) :
    handle ∈ (connections.foldl (fun monitor entry => monitor.close entry.2.closeFunction)
          monitor).streams ↔ handle ∈ monitor.streams ∧
        ∀ entry ∈ connections, handle ≠ entry.2.closeFunction := by
  induction connections generalizing monitor <;> simp_all [close, and_assoc]

theorem timers_closing (connections : List (Sigma fun _ : Id => StreamingConnection)) :
    (connections.foldl (fun monitor entry => monitor.close entry.2.closeFunction)
          monitor).timers = monitor.timers ∧ (connections.foldl
        (fun monitor entry => monitor.close entry.2.closeFunction)
          monitor).timeoutIntervals = monitor.timeoutIntervals ∧ (connections.foldl
        (fun monitor entry => monitor.close entry.2.closeFunction)
          monitor).departed = monitor.departed := by
  induction connections generalizing monitor with
  | nil => exact ⟨rfl, rfl, rfl⟩
  | cons entry connections ih => exact ih

theorem mem_timers_clearing (timeouts : List (Sigma fun _ : Id => Handle)) :
    handle ∈ (timeouts.foldl (fun monitor entry => monitor.clearTimeout entry.2) monitor).timers ↔
      handle ∈ monitor.timers ∧ ∀ entry ∈ timeouts, handle ≠ entry.2 := by
  induction timeouts generalizing monitor <;> simp_all [clearTimeout, and_assoc]

theorem streams_clearing (timeouts : List (Sigma fun _ : Id => Handle)) :
    (timeouts.foldl (fun monitor entry => monitor.clearTimeout entry.2)
        monitor).streams = monitor.streams ∧
      (timeouts.foldl (fun monitor entry => monitor.clearTimeout entry.2)
        monitor).activeStreams = monitor.activeStreams ∧
      (timeouts.foldl (fun monitor entry => monitor.clearTimeout entry.2)
        monitor).departed = monitor.departed := by
  induction timeouts generalizing monitor with
  | nil => exact ⟨rfl, rfl, rfl⟩
  | cons entry timeouts ih => exact ih

theorem mem_streams_destroy :
    handle ∈ monitor.onModuleDestroy.streams ↔
      handle ∈ monitor.streams ∧ ∀ entry ∈ monitor.activeStreams.entries,
        handle ≠ entry.2.closeFunction := by
  have cleared : monitor.onModuleDestroy.streams =
      monitor.closeAllStreams.streams := (streams_clearing _).1
  rw [cleared]
  exact mem_streams_closing _

theorem mem_timers_destroy :
    handle ∈ monitor.onModuleDestroy.timers ↔
      handle ∈ monitor.timers ∧ ∀ entry ∈ monitor.timeoutIntervals.entries, handle ≠ entry.2 := by
  have timers : monitor.closeAllStreams.timers = monitor.timers :=
    (timers_closing _).1
  have intervals : monitor.closeAllStreams.timeoutIntervals =
      monitor.timeoutIntervals := (timers_closing _).2.1
  rw [← timers, ← intervals]
  exact mem_timers_clearing _

theorem departed_stop :
    (monitor.stopMonitoringPayment paymentId).departed = monitor.departed := by
  unfold stopMonitoringPayment clearPaymentTimeout closeStream
  split <;> split <;> rfl

theorem departed_destroy :
    monitor.onModuleDestroy.departed = monitor.departed := by
  have cleared : monitor.onModuleDestroy.departed =
      monitor.closeAllStreams.departed := (streams_clearing _).2.2
  exact cleared.trans (timers_closing _).2.2

end Monitor

theorem departed_act (op : MonitorOp) :
    (monitoring.act op monitor).2.departed = (departing op monitor).toList ++ monitor.departed := by
  cases op with
  | stopMonitoringPayment paymentId => exact Monitor.departed_stop
  | stopAndDeleteTimeout paymentId => exact Monitor.departed_stop
  | onModuleDestroy => exact Monitor.departed_destroy
  | _ => rfl

namespace Registered

theorem quiet_stop (registered : Registered monitor) (paymentId : Id) :
    Quiet (monitor.stopMonitoringPayment paymentId) paymentId :=
  ⟨fun _ member => ((Monitor.mem_streams_stop registered).mp member).2,
    fun _ member => (Monitor.mem_timers_of_stop registered member).2⟩

theorem streams_destroy (registered : Registered monitor) :
    handle ∉ monitor.onModuleDestroy.streams := by
  intro member
  obtain ⟨opened, unregistered⟩ := Monitor.mem_streams_destroy.mp member
  have found := registered.streams handle opened
  cases registeredHere : monitor.activeStreams.lookup handle.paymentId with
  | none => simp [registeredHere] at found
  | some connection =>
    rw [registeredHere] at found
    exact unregistered ⟨_, connection⟩
      (AList.mem_lookup_iff.mp registeredHere) (Option.some.inj found).symm

theorem timers_destroy (registered : Registered monitor) :
    handle ∉ monitor.onModuleDestroy.timers := by
  intro member
  obtain ⟨pending, unregistered⟩ := Monitor.mem_timers_destroy.mp member
  exact unregistered ⟨_, handle⟩ (AList.mem_lookup_iff.mp (registered.timers handle pending)) rfl

theorem destroy (registered : Registered monitor) :
    Registered monitor.onModuleDestroy where
  streams _ member := absurd member registered.streams_destroy
  timers _ member := absurd member registered.timers_destroy
  opened paymentId connection found := by
    have empty : monitor.onModuleDestroy.activeStreams = ∅ :=
      (Monitor.streams_clearing _).2.1
    rw [empty, AList.lookup_empty] at found
    cases found
  accompanied _ member := absurd member registered.timers_destroy
  fresh _ member := absurd member registered.streams_destroy

theorem stop (registered : Registered monitor) (paymentId : Id) :
    Registered (monitor.stopMonitoringPayment paymentId) where
  streams stream member := by
    obtain ⟨opened, other⟩ := (Monitor.mem_streams_stop registered).mp member
    rw [Monitor.lookup_activeStreams_stop, if_neg other]
    exact registered.streams stream opened
  timers timer member := by
    obtain ⟨pending, other⟩ := Monitor.mem_timers_of_stop registered member
    rw [Monitor.lookup_timeoutIntervals_stop, if_neg other]
    exact registered.timers timer pending
  opened other connection found := by
    grind [Monitor.lookup_activeStreams_stop, opened, Monitor.mem_streams_stop]
  accompanied timer member := by
    obtain ⟨pending, other⟩ := Monitor.mem_timers_of_stop registered member
    rw [Monitor.lookup_activeStreams_stop, if_neg other]
    exact registered.accompanied timer pending
  fresh stream member := by
    have next : (monitor.stopMonitoringPayment paymentId).next =
        monitor.next := by simp [Monitor.stopMonitoringPayment]
    rw [next]
    exact registered.fresh stream ((Monitor.mem_streams_stop registered).mp member).1

/-- An entry of `timeoutIntervals` is deleted while no timer of the payment is
pending. -/
theorem deleteTimeout (registered : Registered monitor)
    (idle : ∀ timer ∈ monitor.timers, timer.paymentId ≠ paymentId) :
    Registered (monitor.deleteTimeout paymentId) where
  streams := registered.streams
  timers timer member :=
    (AList.lookup_erase_ne (idle timer member)).trans (registered.timers timer member)
  opened := registered.opened
  accompanied := registered.accompanied
  fresh := registered.fresh

theorem clearTimeout (registered : Registered monitor) (timeout : Handle) :
    Registered (monitor.clearTimeout timeout) where
  streams := registered.streams
  timers timer member := registered.timers timer (List.mem_of_mem_filter member)
  opened := registered.opened
  accompanied timer member := registered.accompanied timer (List.mem_of_mem_filter member)
  fresh := registered.fresh

theorem quiet_of_free (registered : Registered monitor)
    (free : monitor.activeStreams.lookup paymentId = none) :
    Quiet monitor paymentId := by
  constructor
  · intro stream member same
    have found := registered.streams stream member
    rw [same, free] at found
    cases found
  · intro timer member same
    exact registered.accompanied timer member (same ▸ free)

theorem openStream (registered : Registered monitor)
    (free : monitor.activeStreams.lookup paymentId = none) (destinationAddress : PublicKey) :
    Registered (monitor.opened paymentId destinationAddress) := by
  have quiet : Quiet monitor paymentId := registered.quiet_of_free free
  have here : (monitor.opened paymentId destinationAddress).activeStreams.lookup paymentId = some
        { paymentId, destinationAddress,
          closeFunction := ⟨monitor.next, paymentId⟩ } := AList.lookup_insert monitor.activeStreams
  have elsewhere : ∀ other ≠ paymentId,
      (monitor.opened paymentId destinationAddress).activeStreams.lookup
        other = monitor.activeStreams.lookup other :=
    fun other differs => AList.lookup_insert_ne differs
  constructor
  · intro stream member
    rcases List.mem_cons.mp member with rfl | old
    · rw [here]
      rfl
    · rw [elsewhere _ (quiet.streams stream old)]
      exact registered.streams stream old
  · intro timer member
    rcases List.mem_cons.mp member with rfl | old
    · exact AList.lookup_insert monitor.timeoutIntervals
    · exact (AList.lookup_insert_ne (quiet.timers timer old)).trans (registered.timers timer old)
  · intro other connection found
    by_cases same : other = paymentId
    · rw [same, here] at found
      cases found
      exact ⟨List.mem_cons_self, same.symm⟩
    · rw [elsewhere _ same] at found
      obtain ⟨opened, owner⟩ := registered.opened other connection found
      exact ⟨List.mem_cons_of_mem _ opened, owner⟩
  · intro timer member
    rcases List.mem_cons.mp member with rfl | old
    · rw [here]
      exact Option.some_ne_none _
    · rw [elsewhere _ (quiet.timers timer old)]
      exact registered.accompanied timer old
  · intro stream member
    show stream.number < monitor.next + 1 + 1
    rcases List.mem_cons.mp member with rfl | old
    · exact Nat.lt_succ_of_lt (Nat.lt_succ_self _)
    · have before := registered.fresh stream old
      omega

theorem act (registered : Registered monitor) (op : MonitorOp)
    (opens : ∀ paymentId destinationAddress, op = .stream paymentId destinationAddress →
        monitor.activeStreams.lookup paymentId = none)
    (deletes : ∀ paymentId, op = .deleteTimeout paymentId →
      ∀ timer ∈ monitor.timers, timer.paymentId ≠ paymentId) :
    Registered (monitoring.act op monitor).2 := by
  cases op with
  | shop op =>
    exact ⟨registered.streams, registered.timers, registered.opened,
      registered.accompanied, registered.fresh⟩
  | findPendingPayments | hasStream => exact registered
  | stream paymentId destinationAddress =>
    exact registered.openStream (opens _ _ rfl) destinationAddress
  | stopMonitoringPayment paymentId => exact registered.stop paymentId
  | timerFires timer => exact registered.clearTimeout timer
  | stopAndDeleteTimeout paymentId =>
    exact (registered.stop paymentId).deleteTimeout (registered.quiet_stop paymentId).timers
  | deleteTimeout paymentId => exact registered.deleteTimeout (deletes paymentId rfl)
  | onModuleDestroy => exact registered.destroy

theorem quiet_of_stops (registered : Registered monitor) {op : MonitorOp}
    (stop : stops op = some paymentId) :
    Quiet (monitoring.act op monitor).2 paymentId := by
  cases op with
  | stopMonitoringPayment other =>
    cases stop
    exact registered.quiet_stop paymentId
  | stopAndDeleteTimeout other =>
    cases stop
    exact ⟨(registered.quiet_stop paymentId).streams, (registered.quiet_stop paymentId).timers⟩
  | _ => cases stop

theorem quiet_act (registered : Registered monitor) {op : MonitorOp}
    (quiet : Quiet monitor paymentId)
    (others : ∀ destinationAddress, op ≠ .stream paymentId destinationAddress) :
    Quiet (monitoring.act op monitor).2 paymentId := by
  have stopped : ∀ other,
      Quiet (monitor.stopMonitoringPayment other) paymentId := fun other =>
    ⟨fun stream member => quiet.streams stream ((Monitor.mem_streams_stop registered).mp member).1,
      fun timer member => quiet.timers timer (Monitor.mem_timers_of_stop registered member).1⟩
  cases op with
  | shop op => exact ⟨quiet.streams, quiet.timers⟩
  | findPendingPayments | hasStream => exact quiet
  | stream other destinationAddress =>
    have differs : other ≠ paymentId := by
      rintro rfl
      exact others destinationAddress rfl
    constructor
    · intro stream member
      rcases List.mem_cons.mp member with rfl | old
      · exact differs
      · exact quiet.streams stream old
    · intro timer member
      rcases List.mem_cons.mp member with rfl | old
      · exact differs
      · exact quiet.timers timer old
  | stopMonitoringPayment other => exact stopped other
  | timerFires timer =>
    exact ⟨quiet.streams, fun other member => quiet.timers other (List.mem_of_mem_filter member)⟩
  | stopAndDeleteTimeout other => exact ⟨(stopped other).streams, (stopped other).timers⟩
  | deleteTimeout other => exact ⟨quiet.streams, quiet.timers⟩
  | onModuleDestroy =>
    exact ⟨fun _ member => absurd member registered.streams_destroy,
      fun _ member => absurd member registered.timers_destroy⟩

end Registered

end

end MarketX.Commerce
