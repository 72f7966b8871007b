/-
Module: MarketX.Proofs.PaymentStreams
Purpose: The payment monitor under any interleaving of its calls and handlers:
  when each payment has at most one stream, the maps record what is open and
  pending, and nothing is left of a payment the monitor has taken out of
  `PENDING`.
Trusted boundary: human-reviewed definition of owes, owing, Overseen and Heeded
Main exports: owes, owing, Overseen, overseen_iff_heeded
-/
import MarketX.Effects.Dialogues
import MarketX.Commerce.PaymentStreams
import MarketX.Commerce.Runs

namespace MarketX.Commerce

open Effects Handler PaymentMonitorService

/-! ### The property -/

/-- After an effect, the payment that a call still has to stop the monitoring
of. -/
def owesAfter (op : MonitorOp) (met : Monitor) (before : Option Id) :
    Option Id :=
  match departing op met with
  | some paymentId => some paymentId
  | none => before.filter fun paymentId => stops op ≠ some paymentId

/-- The payment that a call has taken out of `PENDING` and not yet stopped the
monitoring of. -/
def owes (past : Past monitorSignature Monitor) : Option Id :=
  past.foldr (fun entry before => owesAfter entry.1 entry.2 before) none

abbrev MonitorThread := Thread monitorSignature Monitor HttpException MonitorCall

/-- The call is under way and still has to stop the monitoring. -/
def owesStill (paymentId : Id) (thread : MonitorThread) : Bool :=
  thread.rest.next?.isSome && owes thread.past == some paymentId

/-- How many calls still have to stop the monitoring of the payment. -/
def owing (pool : MonitorPool) (paymentId : Id) : ℕ := pool.threads.countP (owesStill paymentId)

/-- Each payment has at most one stream, the open streams and pending timers
are those of the maps, so that both ways to end the monitoring end it, and of
a payment that the monitor has taken out of `PENDING` nothing is left, unless
the call that did it is still on its way to stop the monitoring. -/
structure Overseen (pool : MonitorPool) : Prop where
  one : ∀ stream ∈ pool.state.streams, ∀ other ∈ pool.state.streams,
    stream.paymentId = other.paymentId → stream = other
  streams : ∀ stream ∈ pool.state.streams, (pool.state.activeStreams.lookup stream.paymentId).map
      StreamingConnection.closeFunction = some stream
  timers : ∀ timer ∈ pool.state.timers,
    pool.state.timeoutIntervals.lookup timer.paymentId = some timer
  stopped : ∀ paymentId, Quiet (pool.state.stopMonitoringPayment paymentId) paymentId
  destroyed : ∀ paymentId, Quiet pool.state.onModuleDestroy paymentId
  departed : ∀ paymentId ∈ pool.state.departed,
    owing pool paymentId = 0 → Quiet pool.state paymentId

/-! ### The condition -/

/-- The payment is read together with its order, and has none. -/
def lacksOrder : MonitorOp → Monitor → Bool
  | .shop (.findPaymentWithOrder id), monitor =>
    (monitor.shop.db.payments.row id).any fun payment =>
      (monitor.shop.db.orders.row payment.orderId).isNone
  | _, _ => false

def confirms : MonitorOp → Bool
  | .shop (.savePayment payment) => payment.status = .confirmed
  | _ => false

def orderless (past : Past monitorSignature Monitor) : Bool :=
  past.any fun entry => lacksOrder entry.1 entry.2

/-- What a turn of the run has to heed. -/
structure Heeded (pool : MonitorPool) (turn : MonitorTurn) : Prop where
  /-- An opening is answered only while no stream of the payment is registered,
  and not after the monitor has taken the payment out of `PENDING`, unless the
  call that did it still has to stop the monitoring. -/
  opens : ∀ thread paymentId destinationAddress,
    pool.mover? turn = some (thread, .stream paymentId destinationAddress) → turn.fault? = none →
        pool.state.activeStreams.lookup paymentId = none ∧
          (paymentId ∈ pool.state.departed → 0 < owing pool paymentId)
  /-- A timer that fires for a payment no longer `PENDING` ends while no other
  timer of the payment is pending. -/
  deletes : ∀ thread paymentId, pool.mover? turn = some (thread, .deleteTimeout paymentId) →
      ∀ timer ∈ pool.state.timers, timer.paymentId ≠ paymentId
  /-- No effect of a call throws that still has to stop a monitoring, as long
  as there is something to stop and nobody else to stop it. -/
  unbroken : ∀ thread op paymentId, pool.mover? turn = some (thread, op) →
    monitoring.acts op turn.fault? = false → owes thread.past = some paymentId →
        Quiet pool.state paymentId ∨ 1 < owing pool paymentId
  /-- Nor is a payment confirmed that has no order. -/
  ordered : ∀ thread op paymentId, pool.mover? turn = some (thread, op) →
    monitoring.acts op turn.fault? = true →
      departing op pool.state = some paymentId → confirms op = true → orderless thread.past = true →
          Quiet pool.state paymentId ∨ 0 < owing pool paymentId

/-! ### What a call still has to do -/

/-- What a call has seen and still has to do: whether it has read a payment
without an order, whose monitoring it has to stop, and whether it breaks
off. -/
structure Standing where
  orderless : Bool := false
  owing : Option Id := none
  ended : Bool := false

def monitorActed (standing : Standing) (op : MonitorOp) (met : Monitor) :
    Standing where
  orderless := lacksOrder op met || standing.orderless
  owing := owesAfter op met standing.owing
  ended := standing.ended || ((departing op met).isSome && confirms op && standing.orderless)

def savesPayment : MonitorOp → Bool
  | .shop (.savePayment _) => true
  | _ => false

/-- A call that has broken off does nothing more, and one that still has to
stop a monitoring saves no payment. -/
structure MonitorAllows (standing : Standing) (op : MonitorOp) : Prop where
  goesOn : standing.ended = false
  saves : savesPayment op = true → standing.owing = none

def monitorDialogue : Dialogue monitorSignature Monitor Standing where
  start := {}
  allows _ := MonitorAllows
  acted := monitorActed
  failed standing _ _ := { standing with ended := true }
  ends standing := standing.owing = none ∨ standing.ended = true

section

variable {α β : Type} {standing : Standing} {missing : Bool} {owed : Option Id}
  {past : Past monitorSignature Monitor} {paymentId : Id}

variable {op : MonitorOp} {met : Monitor}
  {post : Except HttpException α → Past monitorSignature Monitor → Standing → Prop}

theorem departing_of_not_saves (saves : savesPayment op = false) (met : Monitor) :
    departing op met = none := by
  unfold departing
  split
  next => cases saves
  next => rfl

/-- An effect that neither reads nor saves a payment nor stops a
monitoring. -/
theorem monitorActed_aside (saves : departing op met = none) (goesOn : stops op = none)
    (reads : lacksOrder op met = false) :
    monitorActed standing op met = standing := by
  obtain ⟨missing, owed, ended⟩ := standing
  cases owed <;> simp [monitorActed, owesAfter, saves, goesOn, reads]

theorem monitorAllows_aside (aside : savesPayment op = false) :
    MonitorAllows ⟨missing, owed, false⟩ op :=
  ⟨rfl, fun saves => absurd (aside.symm.trans saves) Bool.false_ne_true⟩

theorem ofShop_bind (first : Service α) (rest : α → Service β) :
    ofShop (first >>= rest) = ofShop first >>= fun value => ofShop (rest value) := by
  induction first with
  | pure value => rfl
  | throw error => rfl
  | call op next ih =>
    exact congrArg (Program.call (S := monitorSignature) (MonitorOp.shop op)) (funext ih)

theorem speaks_shop_bind {op : Op} {rest : Reply op → Service α}
    (allowed : MonitorAllows standing (.shop op))
    (acted : ∀ met : Monitor, (ofShop (rest (act op met.shop).1)).Speaks
      monitoring monitorDialogue post ((.shop op, met) :: past)
        (monitorActed standing (.shop op) met)) (failed : mayFail op = true → ∀ met error,
      post (.error error) ((.shop op, met) :: past) { standing with ended := true }) :
    (ofShop (await op >>= rest)).Speaks monitoring monitorDialogue post past
      standing :=
  ⟨allowed, fun met => ⟨acted met, fun fails => failed fails met⟩⟩

theorem speaks_aside {op : Op} {rest : Reply op → Service α}
    (saves : savesPayment (.shop op) = false)
    (reads : ∀ met, lacksOrder (.shop op) met = false)
    (continues : ∀ met : Monitor, (ofShop (rest (act op met.shop).1)).Speaks
      monitoring monitorDialogue post ((.shop op, met) :: past) ⟨missing, owed, false⟩)
    (failed : mayFail op = true → ∀ met error,
      post (.error error) ((.shop op, met) :: past) ⟨missing, owed, true⟩) :
    (ofShop (await op >>= rest)).Speaks monitoring monitorDialogue post past
      ⟨missing, owed, false⟩ := by
  refine speaks_shop_bind (monitorAllows_aside saves) (fun met => ?_) failed
  rw [monitorActed_aside (departing_of_not_saves saves met) rfl (reads met)]
  exact continues met

/-- A method of the payments service comes to its end with nothing but this
payment to stop the monitoring of, or it throws and there is nothing to
stop or nobody to go on. -/
def Concludes (paymentId : Id) :
    Except HttpException α → Past monitorSignature Monitor → Standing → Prop
  | .ok _, _, standing =>
    standing.ended = false ∧ (standing.owing = none ∨ standing.owing = some paymentId)
  | .error _, _, standing => standing.owing = none ∨ standing.ended = true

theorem monitorActed_saves (missing : Bool) (payment : Payment) (met : Monitor)
    (goesOn : missing = false ∨ payment.status ≠ .confirmed) :
    ∃ owed, monitorActed ⟨missing, none, false⟩
        (.shop (.savePayment payment)) met = ⟨missing, owed, false⟩ ∧
      (owed = none ∨ owed = some payment.id) := by
  have unbroken : (confirms (.shop (.savePayment payment)) && missing) =
      false := by rcases goesOn with rfl | other <;> simp_all [confirms]
  grind [owesAfter, monitorActed, lacksOrder, departing]

theorem monitorActed_breaks {payment : Payment} (met : Monitor)
    (confirmed : payment.status = .confirmed) :
    (monitorActed ⟨true, none, false⟩ (.shop (.savePayment payment)) met).owing = none ∨
      (monitorActed ⟨true, none, false⟩ (.shop (.savePayment payment))
        met).ended = true := by grind [monitorActed, owesAfter, confirms]

theorem speaks_handlePaymentTimeout (paymentId : Id) :
    (ofShop (PaymentsService.handlePaymentTimeout paymentId)).Speaks monitoring
      monitorDialogue (Concludes paymentId) past ⟨missing, none, false⟩ := by
  refine speaks_aside rfl (fun _ => rfl) (fun met => ?_) (fun _ _ _ => .inl rfl)
  simp only [act]
  cases found : met.shop.db.payments.row paymentId with
  | none => exact .inl rfl
  | some payment =>
    have keyed : payment.id = paymentId := met.shop.db.payments.keyed found
    dsimp only
    split
    next pending =>
      refine speaks_aside rfl (fun _ => rfl) (fun clock => ?_) (by intros; contradiction)
      refine speaks_shop_bind ⟨rfl, fun _ => rfl⟩ (fun saving => ?_) (fun _ _ _ => .inl rfl)
      obtain ⟨owed, standing, owes⟩ := monitorActed_saves missing
        (PaymentsService.timedOutPayment payment (act .dateNow clock.shop).1) saving
        (.inr (by simp [PaymentsService.timedOutPayment]))
      rw [standing]
      refine speaks_aside rfl (fun _ => rfl) (fun last => ?_) (by intros; contradiction)
      rw [show (PaymentsService.timedOutPayment payment _).id = paymentId from keyed] at owes
      exact ⟨rfl, owes⟩
    next => exact ⟨rfl, .inl rfl⟩

theorem speaks_paidOrder {paid : Date → Order} {event : CommerceEvent}
    {response : α} (owes : owed = none ∨ owed = some paymentId) :
    (ofShop (do
      let now ← dateNow
      ordersRepository.save (paid now)
      emit event
      pure response)).Speaks monitoring monitorDialogue (Concludes paymentId)
      past ⟨missing, owed, false⟩ := by
  refine speaks_aside rfl (fun _ => rfl) (fun clock => ?_) nofun
  refine speaks_aside rfl (fun _ => rfl) (fun saving => ?_) (fun _ _ _ => .inr rfl)
  refine speaks_aside rfl (fun _ => rfl) (fun last => ?_) nofun
  exact ⟨rfl, owes⟩

theorem speaks_verifyAndConfirmPayment (paymentId : Id) (data : TransactionData) :
    (ofShop (PaymentsService.verifyAndConfirmPayment paymentId data)).Speaks
      monitoring monitorDialogue (Concludes paymentId) past ⟨false, none, false⟩ := by
  refine speaks_shop_bind (monitorAllows_aside rfl) (fun met => ?_) (fun _ _ _ => .inl rfl)
  have read : monitorActed ⟨false, none, false⟩ (.shop (.findPaymentWithOrder paymentId)) met =
        ⟨lacksOrder (.shop (.findPaymentWithOrder paymentId)) met, none, false⟩ := by
    simp [monitorActed, owesAfter, departing]
  rw [read]
  simp only [act]
  cases found : met.shop.db.payments.row paymentId with
  | none => exact .inl rfl
  | some payment =>
    have keyed : payment.id = paymentId := met.shop.db.payments.keyed found
    have missing : lacksOrder (.shop (.findPaymentWithOrder paymentId)) met =
        (met.shop.db.orders.row payment.orderId).isNone := by simp [lacksOrder, found]
    rw [missing]
    dsimp only [Option.map_some]
    split
    next => exact .inl rfl
    next =>
    split
    next => exact .inl rfl
    next =>
    rw [ofShop_bind]
    apply speaks_bind
    refine speaks_aside rfl (fun _ => rfl) (fun clock => ?_) (by intros; contradiction)
    simp only [thenSpeaks, ofShop, pure, Program.Speaks]
    split
    next message _ =>
      refine speaks_aside rfl (fun _ => rfl) (fun later => ?_) (by intros; contradiction)
      refine speaks_shop_bind ⟨rfl, fun _ => rfl⟩ (fun saving => ?_) (fun _ _ _ => .inl rfl)
      obtain ⟨owed, standing, owes⟩ := monitorActed_saves _
        (PaymentsService.failedPayment payment message (act .dateNow later.shop).1) saving
        (.inr (by simp [PaymentsService.failedPayment]))
      rw [standing]
      refine speaks_aside rfl (fun _ => rfl) (fun last => ?_) (by intros; contradiction)
      rw [show (PaymentsService.failedPayment payment message _).id = paymentId from keyed] at owes
      exact ⟨rfl, owes⟩
    next =>
      refine speaks_aside rfl (fun _ => rfl) (fun later => ?_) (by intros; contradiction)
      refine speaks_shop_bind ⟨rfl, fun _ => rfl⟩ (fun saving => ?_) (fun _ _ _ => .inl rfl)
      cases met.shop.db.orders.row payment.orderId with
      | none => exact monitorActed_breaks saving rfl
      | some order =>
        obtain ⟨owed, standing, owes⟩ := monitorActed_saves false
          (PaymentsService.confirmedPayment payment data
            (act .dateNow later.shop).1) saving (.inl rfl)
        rw [Option.isNone_some, standing]
        exact speaks_paidOrder (keyed ▸ owes)

def Closes : Except HttpException α → Past monitorSignature Monitor → Standing → Prop :=
  fun _ _ standing => standing.owing = none ∨ standing.ended = true

theorem monitorActed_stops (stop : stops op = some paymentId) (saves : departing op met = none)
    (owes : owed = none ∨ owed = some paymentId) :
    monitorActed ⟨missing, owed, false⟩ op met = ⟨lacksOrder op met || missing, none, false⟩ := by
  rcases owes with rfl | rfl <;> simp [monitorActed, owesAfter, stop, saves]

theorem speaks_findOne {rest : Option Payment → Monitored α}
    (continues : ∀ found past, (rest found).Speaks monitoring monitorDialogue
      Closes past ⟨false, none, false⟩) :
    (ofShop (paymentsRepository.findOne paymentId) >>= rest).Speaks monitoring
      monitorDialogue Closes past ⟨false, none, false⟩ := by
  refine ⟨monitorAllows_aside rfl, fun met => ⟨?_, fun _ _ => .inl rfl⟩⟩
  exact continues _ _

theorem speaks_concluded {method : Service β} {tail : Monitored α}
    (speaks : (ofShop method).Speaks monitoring monitorDialogue (Concludes paymentId) past standing)
    (continues : ∀ past missing owed, owed = none ∨ owed = some paymentId →
      tail.Speaks monitoring monitorDialogue Closes past ⟨missing, owed, false⟩) :
    (ofShop method >>= fun _ => tail).Speaks monitoring monitorDialogue Closes
      past standing := by
  apply speaks_bind
  apply speaks.mono
  intro outcome past later concludes
  cases outcome with
  | error error => exact concludes
  | ok value =>
    obtain ⟨missing, owed, ended⟩ := later
    obtain ⟨goesOn, owes⟩ := concludes
    cases goesOn
    exact continues past missing owed owes

theorem speaks_stop {rest : Unit → Monitored α} (owes : owed = none ∨ owed = some paymentId)
    (continues : ∀ past, (rest ()).Speaks monitoring monitorDialogue Closes past
      ⟨missing, none, false⟩) :
    (awaits (.stopMonitoringPayment paymentId) >>= rest).Speaks monitoring
      monitorDialogue Closes past ⟨missing, owed, false⟩ := by
  refine speaks_perform_bind (monitorAllows_aside rfl) (fun met => ?_) nofun
  rw [show monitorDialogue.acted ⟨missing, owed, false⟩ _ met = _
    from monitorActed_stops rfl rfl owes]
  exact continues _

theorem speaks_confirmOperations (payment : Payment)
    (transaction : StellarTransaction) (destinationAddress : PublicKey)
    (operations : List PaymentOperation) :
    (confirmOperations paymentId payment transaction destinationAddress
      operations).Speaks monitoring monitorDialogue Closes past ⟨false, none, false⟩ := by
  induction operations with
  | nil => exact .inl rfl
  | cons operation operations ih =>
    unfold confirmOperations
    split
    next =>
      refine speaks_concluded (speaks_verifyAndConfirmPayment paymentId _)
        fun past missing owed owes => speaks_stop owes fun past => ?_
      refine ⟨monitorAllows_aside rfl, fun met => ⟨.inl ?_, by intros; contradiction⟩⟩
      rw [show monitorDialogue.acted ⟨missing, none, false⟩ _ met = _
        from monitorActed_aside rfl rfl rfl]
    next => exact ih

theorem speaks_onmessage (paymentId : Id) (transaction : StellarTransaction)
    (destinationAddress : PublicKey) :
    (onmessage paymentId transaction destinationAddress).Speaks monitoring
      monitorDialogue Closes past ⟨false, none, false⟩ := by
  have body : (confirmTransaction paymentId transaction
      destinationAddress).Speaks monitoring monitorDialogue Closes past ⟨false, none, false⟩ := by
    refine speaks_findOne fun found past => ?_
    cases found with
    | none => exact .inl rfl
    | some payment =>
      dsimp only
      split
      next => exact .inl rfl
      next =>
        split
        next => exact .inl rfl
        next operations _ => grind [speaks_confirmOperations]
  apply speaks_bind
  apply speaks_attempt
  apply body.mono
  exact fun _ _ _ closes => closes

theorem speaks_timeoutTriggered (timer : Handle) :
    (timeoutTriggered timer).Speaks monitoring monitorDialogue Closes past
      ⟨false, none, false⟩ := by
  have deletes : ∀ past, (awaits (.deleteTimeout timer.paymentId)).Speaks
      monitoring monitorDialogue Closes past ⟨false, none, false⟩ :=
    fun past => ⟨monitorAllows_aside rfl, fun met => ⟨.inl rfl, nofun⟩⟩
  refine speaks_perform_bind (monitorAllows_aside rfl) (fun met => ?_) nofun
  split
  next =>
    refine speaks_findOne fun found past => ?_
    cases found with
    | none => exact deletes _
    | some payment =>
      dsimp only
      split
      next =>
        refine speaks_concluded (speaks_handlePaymentTimeout timer.paymentId)
          fun past missing owed owes => ?_
        refine ⟨monitorAllows_aside rfl, fun met => ⟨.inl ?_, nofun⟩⟩
        rw [show monitorDialogue.acted ⟨missing, owed, false⟩ _ met = _
          from monitorActed_stops rfl rfl owes]
      next => exact deletes _
  next => exact .inl rfl

theorem speaks_handleExpired (now : Date) (payments : List Payment) :
    (handleExpired now payments).Speaks monitoring monitorDialogue Closes past
      ⟨missing, none, false⟩ := by
  induction payments generalizing missing past with
  | nil => exact .inl rfl
  | cons payment payments ih =>
    unfold handleExpired
    split
    next =>
      exact speaks_concluded (speaks_handlePaymentTimeout payment.id) fun past missing owed owes =>
          speaks_stop owes fun past => ih
    next => exact ih

theorem speaks_monitorCall (call : MonitorCall) :
    call.program.Speaks monitoring monitorDialogue
      (fun _ _ => monitorDialogue.ends) [] monitorDialogue.start := by
  cases call with
  | monitorPayment paymentId destinationAddress =>
    refine speaks_perform_bind (monitorAllows_aside rfl) (fun met => ?_) nofun
    split
    next => exact .inl rfl
    next => exact ⟨monitorAllows_aside rfl, fun met => ⟨.inl rfl, fun _ _ => .inl rfl⟩⟩
  | stopMonitoringPayment paymentId => exact ⟨monitorAllows_aside rfl, fun met => ⟨.inl rfl, nofun⟩⟩
  | onmessage paymentId transaction destinationAddress =>
    exact speaks_onmessage paymentId transaction destinationAddress
  | timeoutTriggered timer => exact speaks_timeoutTriggered timer
  | checkAndHandleExpiredPayments =>
    refine ⟨monitorAllows_aside rfl, fun clock => ⟨?_, nofun⟩⟩
    refine ⟨monitorAllows_aside rfl, fun met => ⟨?_, fun _ _ => .inl rfl⟩⟩
    exact speaks_handleExpired _ _
  | onModuleDestroy => exact ⟨monitorAllows_aside rfl, fun met => ⟨.inl rfl, nofun⟩⟩

end

/-! ### What every turn keeps -/

abbrev MonitorCast := Cast monitorSignature Monitor HttpException MonitorCall Standing

/-- The call still has to stop the monitoring, and goes on. -/
def Standing.owes (paymentId : Id) (standing : Standing) : Bool :=
  !standing.ended && standing.owing == some paymentId

/-- How many roles still have to stop the monitoring of the payment. -/
def debts (paymentId : Id) (cast : MonitorCast) : ℕ := cast.countP fun role => role.2.owes paymentId

/-- The standing of a call that goes on is what its past makes it. -/
def Remembers (role : MonitorThread × Standing) : Prop := role.2.ended = false →
    role.2.orderless = orderless role.1.past ∧ role.2.owing = owes role.1.past

/-- The maps are right, and of every payment that has been taken out of
`PENDING` nothing is left, or a call still has to stop its monitoring. -/
structure Attended (monitor : Monitor) (cast : MonitorCast) : Prop where
  registered : Registered monitor
  remembers : ∀ role ∈ cast, Remembers role
  departed : ∀ role ∈ cast, ∀ paymentId, role.2.owes paymentId = true → paymentId ∈ monitor.departed
  settled : ∀ paymentId ∈ monitor.departed, debts paymentId cast = 0 → Quiet monitor paymentId

section

variable {pool : MonitorPool} {cast front back : MonitorCast}
  {monitor : Monitor} {thread moved : MonitorThread} {standing : Standing}
  {op : MonitorOp} {paymentId : Id}

theorem debts_replaced (role : MonitorThread × Standing) :
    debts paymentId (front ++ role :: back) = debts paymentId (front ++ back) +
        if role.2.owes paymentId = true then 1 else 0 := countP_replaced _ front back role

theorem Standing.owes_iff :
    standing.owes paymentId = true ↔ standing.ended = false ∧ standing.owing = some paymentId := by
  simp [Standing.owes]

theorem owesStill_iff {role : MonitorThread × Standing}
    (speaks : role.1.Speaks monitoring (fun _ => monitorDialogue) role.2)
    (remembers : Remembers role) :
    owesStill paymentId role.1 = true ↔ role.2.owes paymentId = true := by
  obtain ⟨thread, standing⟩ := role
  rw [Standing.owes_iff]
  cases rest : thread.rest with
  | pure value =>
    rw [Thread.Speaks, rest] at speaks
    constructor
    · intro owes
      simp [owesStill, rest, Program.next?] at owes
    · rintro ⟨goesOn, owes⟩
      rcases speaks with none | ended <;> simp_all
  | throw error =>
    rw [Thread.Speaks, rest] at speaks
    constructor
    · intro owes
      simp [owesStill, rest, Program.next?] at owes
    · rintro ⟨goesOn, owes⟩
      rcases speaks with none | ended <;> simp_all
  | call op next =>
    rw [Thread.Speaks, rest] at speaks
    have goesOn : standing.ended = false := speaks.1.goesOn
    have remembered : standing.owing = owes thread.past :=
      (remembers goesOn).2
    simp [owesStill, rest, Program.next?, goesOn, remembered]

theorem owing_eq_debts (spoken : pool.Spoken monitoring (fun _ => monitorDialogue) cast)
    (remembers : ∀ role ∈ cast, Remembers role) (paymentId : Id) :
    owing pool paymentId = debts paymentId cast := by
  unfold owing debts
  rw [spoken.threads, List.countP_map]
  apply List.countP_congr
  intro role member
  exact owesStill_iff (spoken.speaks role member) (remembers role member)

theorem Attended.overseen (spoken : pool.Spoken monitoring (fun _ => monitorDialogue) cast)
    (attended : Attended pool.state cast) : Overseen pool where
  one stream opened other opened' same := by
    have first := attended.registered.streams stream opened
    have second := attended.registered.streams other opened'
    rw [same, second] at first
    exact (Option.some.inj first).symm
  streams := attended.registered.streams
  timers := attended.registered.timers
  stopped := attended.registered.quiet_stop
  destroyed paymentId :=
    ⟨fun _ member => absurd member attended.registered.streams_destroy,
      fun _ member => absurd member attended.registered.timers_destroy⟩
  departed paymentId left closed := by
    rw [owing_eq_debts spoken attended.remembers] at closed
    exact attended.settled paymentId left closed

theorem remembers_acted {rest : Monitored Unit} (remembers : Remembers (thread, standing))
    (goesOn : standing.ended = false) :
    Remembers (thread.answered op monitor rest,
      monitorActed standing op monitor) := by
  intro _
  obtain ⟨missing, owed⟩ := remembers goesOn
  constructor
  · show (lacksOrder op monitor || standing.orderless) = _
    rw [missing]
    rfl
  · show owesAfter op monitor standing.owing = _
    rw [owed]
    rfl

theorem MonitorAllows.free (allowed : MonitorAllows standing op)
    (departs : departing op monitor = some paymentId) :
    standing.owing = none := by grind [saves, departing_of_not_saves]

theorem owes_acted (allowed : MonitorAllows standing op)
    (owes : (monitorActed standing op monitor).owes paymentId = true) :
    departing op monitor = some paymentId ∨ standing.owes paymentId = true := by
  have owing : owesAfter op monitor standing.owing = some paymentId :=
    (Standing.owes_iff.mp owes).2
  unfold owesAfter at owing
  split at owing
  next departs => exact .inl (departs.trans owing)
  next =>
    exact .inr (Standing.owes_iff.mpr ⟨allowed.goesOn, (Option.filter_eq_some_iff.mp owing).1⟩)

theorem stops_of_owes (allowed : MonitorAllows standing op)
    (before : standing.owes paymentId = true)
    (after : ¬ (monitorActed standing op monitor).owes paymentId = true) :
    stops op = some paymentId := by
  have owing : standing.owing = some paymentId :=
    (Standing.owes_iff.mp before).2
  have stays : departing op monitor = none := by
    cases departs : departing op monitor with
    | none => rfl
    | some other => exact nomatch (allowed.free departs).symm.trans owing
  simp_all [Standing.owes_iff, monitorActed, owesAfter]

/-- A call that takes a payment out of `PENDING` owes it from then on, unless
it confirms a payment without an order. -/
theorem breaks_of_departing (allowed : MonitorAllows standing op)
    (departs : departing op monitor = some paymentId)
    (after : ¬ (monitorActed standing op monitor).owes paymentId = true) :
    confirms op = true ∧ standing.orderless = true := by
  rw [Standing.owes_iff] at after
  simpa [monitorActed, owesAfter, departs, allowed.goesOn] using after

theorem attended_acts {rest : Monitored Unit}
    (attended : Attended monitor (front ++ (thread, standing) :: back))
    (allowed : MonitorAllows standing op) (opens : ∀ paymentId destinationAddress,
      op = .stream paymentId destinationAddress → monitor.activeStreams.lookup paymentId = none ∧
          (paymentId ∈ monitor.departed →
            0 < debts paymentId (front ++ (thread, standing) :: back)))
    (deletes : ∀ paymentId, op = .deleteTimeout paymentId →
      ∀ timer ∈ monitor.timers, timer.paymentId ≠ paymentId)
    (ordered : ∀ paymentId, departing op monitor = some paymentId →
      confirms op = true → orderless thread.past = true → Quiet monitor paymentId ∨
          0 < debts paymentId (front ++ (thread, standing) :: back)) :
    Attended (monitoring.act op monitor).2 (front ++ (thread.answered op monitor rest,
        monitorActed standing op monitor) :: back) := by
  have here : (thread, standing) ∈ front ++ (thread, standing) :: back := by simp
  refine ⟨attended.registered.act op (fun _ _ same => (opens _ _ same).1) deletes, ?_, ?_, ?_⟩
  · intro role member
    rcases mem_replaced member with rfl | other
    · exact remembers_acted (attended.remembers _ here) allowed.goesOn
    · exact attended.remembers role (mem_of_others other _)
  · intro role member paymentId owes
    rw [departed_act, List.mem_append, Option.mem_toList]
    rcases mem_replaced member with rfl | other
    · rcases owes_acted allowed owes with departs | owed
      · exact .inl departs
      · exact .inr (attended.departed _ here paymentId owed)
    · exact .inr (attended.departed role (mem_of_others other _) paymentId owes)
  · intro paymentId left none
    rw [debts_replaced] at none
    obtain ⟨others, closed⟩ : debts paymentId (front ++ back) = 0 ∧
        ¬ (monitorActed standing op monitor).owes paymentId = true := by simp_all
    rw [departed_act, List.mem_append, Option.mem_toList] at left
    rcases left with departs | left
    · -- taken out of `PENDING` just now, by a call that breaks off
      obtain ⟨confirmed, missing⟩ := breaks_of_departing allowed departs closed
      have free : ¬ standing.owes paymentId = true := by
        rw [Standing.owes_iff, allowed.free departs]
        exact fun owes => nomatch owes.2
      rw [((attended.remembers _ here) allowed.goesOn).1] at missing
      rcases ordered paymentId departs confirmed missing with quiet | owed
      · apply attended.registered.quiet_act quiet
        rintro destinationAddress rfl
        cases departs
      · rw [debts_replaced, if_neg free] at owed
        omega
    · by_cases owed : standing.owes paymentId = true
      · exact attended.registered.quiet_of_stops (stops_of_owes allowed owed closed)
      · have unowed : debts paymentId (front ++ (thread, standing) :: back) =
            0 := by rw [debts_replaced, if_neg owed, others]
        apply attended.registered.quiet_act (attended.settled paymentId left unowed)
        grind

theorem attended_fails {rest : Monitored Unit}
    (attended : Attended monitor (front ++ (thread, standing) :: back))
    (unbroken : ∀ paymentId, standing.owes paymentId = true → Quiet monitor paymentId ∨
        1 < debts paymentId (front ++ (thread, standing) :: back)) :
    Attended monitor (front ++ (thread.answered op monitor rest,
        { standing with ended := true }) :: back) := by
  have closed : ∀ paymentId, ¬ Standing.owes paymentId { standing with ended := true } = true :=
    fun paymentId => Bool.false_ne_true
  refine ⟨attended.registered, ?_, ?_, ?_⟩
  · intro role member
    rcases mem_replaced member with rfl | other
    · exact nofun
    · exact attended.remembers role (mem_of_others other _)
  · intro role member paymentId owes
    rcases mem_replaced member with rfl | other
    · exact absurd owes (closed paymentId)
    · exact attended.departed role (mem_of_others other _) paymentId owes
  · intro paymentId left none
    rw [debts_replaced, if_neg (closed paymentId)] at none
    by_cases owed : standing.owes paymentId = true
    · rcases unbroken paymentId owed with quiet | shared <;> simp_all [debts_replaced]
    · apply attended.settled paymentId left
      rw [debts_replaced, if_neg owed]
      exact none

theorem attended_race (spoken : pool.Spoken monitoring (fun _ => monitorDialogue) cast)
    (attended : Attended pool.state cast) {turn : MonitorTurn} (heeded : Heeded pool turn) :
    ∃ after, (monitorRace pool turn).Spoken monitoring (fun _ => monitorDialogue) after ∧
      Attended (monitorRace pool turn).state after := by
  have count := owing_eq_debts spoken attended.remembers
  obtain ⟨after, spoke, spokenAfter⟩ : ∃ after, Pool.Spoke monitoring MonitorCall.program elsewhere
          (fun _ => monitorDialogue) pool cast turn (monitorRace pool turn).state after ∧
        (monitorRace pool turn).Spoken monitoring (fun _ => monitorDialogue)
          after := spoken.step speaks_monitorCall turn
  refine ⟨after, spokenAfter, ?_⟩
  generalize (monitorRace pool turn).state = state at spoke
  cases spoke with
  | stays => exact attended
  | @spawns call =>
    refine ⟨attended.registered, ?_, ?_, ?_⟩
    · intro role member
      rcases List.mem_append.mp member with old | new
      · exact attended.remembers role old
      · rw [List.mem_singleton.mp new]
        exact fun _ => ⟨rfl, rfl⟩
    · intro role member paymentId owes
      rcases List.mem_append.mp member with old | new
      · exact attended.departed role old paymentId owes
      · rw [List.mem_singleton.mp new] at owes
        cases owes
    · intro paymentId left none
      apply attended.settled paymentId left
      grind [debts]
  | @changes shop =>
    exact ⟨⟨attended.registered.streams, attended.registered.timers,
        attended.registered.opened, attended.registered.accompanied, attended.registered.fresh⟩,
      attended.remembers, attended.departed, fun paymentId left none =>
        ⟨(attended.settled paymentId left none).streams,
          (attended.settled paymentId left none).timers⟩⟩
  | @acts _ front back thread standing op rest split moves allowed acts =>
    subst split
    refine attended_acts attended allowed ?_ ?_ ?_
    · rintro paymentId destinationAddress rfl
      have unfailing : turn.fault? = none :=
        (Handler.acts_cases acts).resolve_right nofun
      rw [← count]
      exact heeded.opens thread paymentId destinationAddress moves unfailing
    · rintro paymentId rfl
      exact heeded.deletes thread paymentId moves
    · intro paymentId departs confirmed missing
      rw [← count]
      exact heeded.ordered thread op paymentId moves acts departs confirmed missing
  | @fails _ front back thread standing op error rest split moves allowed exposed throws =>
    subst split
    have here : (thread, standing) ∈ front ++ (thread, standing) :: back := by simp
    apply attended_fails attended
    intro paymentId owed
    obtain ⟨goesOn, owing⟩ := Standing.owes_iff.mp owed
    rw [← count]
    apply heeded.unbroken thread op paymentId moves
    · simp [Handler.acts, throws, exposed]
    · rw [← (attended.remembers _ here goesOn).2]
      exact owing

theorem owing_replaced {after : MonitorPool} {old : MonitorThread × Standing} {new : Standing}
    (spoken : after.Spoken monitoring (fun _ => monitorDialogue) (front ++ (moved, new) :: back))
    (remembers : ∀ role ∈ front ++ old :: back, Remembers role)
    (remembersNew : Remembers (moved, new)) (closed : ¬ new.owes paymentId = true) :
    owing after paymentId = debts paymentId (front ++ back) := by
  rw [owing_eq_debts spoken, debts_replaced, if_neg closed, Nat.add_zero]
  grind

theorem monitorRace_moves {turn : MonitorTurn}
    (spoken : pool.Spoken monitoring (fun _ => monitorDialogue) cast)
    (moves : pool.mover? turn = some (thread, op)) :
    ∃ front standing back rest, cast = front ++ (thread, standing) :: back ∧
      MonitorAllows standing op ∧ ((monitoring.acts op turn.fault? = true ∧
            (monitorRace pool turn).state = (monitoring.act op pool.state).2 ∧
            (monitorRace pool turn).Spoken monitoring (fun _ => monitorDialogue)
              (front ++ (thread.answered op pool.state rest,
                monitorActed standing op pool.state) :: back)) ∨
          (monitoring.acts op turn.fault? = false ∧ (monitorRace pool turn).state = pool.state ∧
            (monitorRace pool turn).Spoken monitoring (fun _ => monitorDialogue)
              (front ++ (thread.answered op pool.state rest,
                { standing with ended := true }) :: back))) :=
  spoken.moves MonitorCall.program elsewhere moves

section

variable {turn : MonitorTurn} (spoken : pool.Spoken monitoring (fun _ => monitorDialogue) cast)
  (attended : Attended pool.state cast) (overseen : Overseen (monitorRace pool turn))

include spoken attended overseen

/-- A stream opened beside a registered one would be a second one, and one of a
payment that has left `PENDING` would stay. -/
theorem opens_of_overseen {destinationAddress : PublicKey} (moves : pool.mover? turn =
      some (thread, .stream paymentId destinationAddress)) (unfailing : turn.fault? = none) :
    pool.state.activeStreams.lookup paymentId = none ∧
      (paymentId ∈ pool.state.departed → 0 < owing pool paymentId) := by
  have count := owing_eq_debts spoken attended.remembers
  obtain ⟨front, standing, back, rest, rfl, allowed,
    ⟨acts, state, after⟩ | ⟨throws, _, _⟩⟩ := monitorRace_moves spoken moves
  · have here : (thread, standing) ∈ front ++ (thread, standing) :: back := by simp
    have opened : (monitorRace pool turn).state =
      pool.state.opened paymentId destinationAddress := state
    have fresh : ⟨pool.state.next, paymentId⟩ ∈ (monitorRace pool turn).state.streams := by
      rw [opened]
      exact List.mem_cons_self
    constructor
    · cases found : pool.state.activeStreams.lookup paymentId with
      | none => rfl
      | some connection =>
        obtain ⟨old, owner⟩ := attended.registered.opened paymentId connection found
        have same := overseen.one _ fresh connection.closeFunction
          (by rw [opened]; exact List.mem_cons_of_mem _ old) owner.symm
        have bound := attended.registered.fresh _ old
        grind
    · intro left
      by_contra unowed
      rw [count, debts_replaced] at unowed
      have closed : ¬ (monitorActed standing (.stream paymentId
          destinationAddress) pool.state).owes paymentId = true := by
        intro owes
        rcases owes_acted allowed owes with departs | owed
        · cases departs
        · rw [if_pos owed] at unowed
          omega
      have none : owing (monitorRace pool turn) paymentId = 0 := by
        rw [owing_replaced after attended.remembers (remembers_acted
          (attended.remembers _ here) allowed.goesOn) closed]
        omega
      have quiet := overseen.departed paymentId (by rw [opened]; exact left) none
      exact quiet.streams _ fresh rfl
  · rw [unfailing] at throws
    cases throws

theorem deletes_of_overseen (moves : pool.mover? turn = some (thread, .deleteTimeout paymentId)) :
    ∀ timer ∈ pool.state.timers, timer.paymentId ≠ paymentId := by
  intro timer member same
  obtain ⟨front, standing, back, rest, rfl, allowed,
    ⟨_, state, _⟩ | ⟨throws, _, _⟩⟩ := monitorRace_moves spoken moves
  · have deleted : (monitorRace pool turn).state =
      pool.state.deleteTimeout paymentId := state
    have kept := overseen.timers timer (by rw [deleted]; exact member)
    rw [deleted, same] at kept
    exact nomatch (AList.lookup_erase paymentId pool.state.timeoutIntervals).symm.trans kept
  · simp [Handler.acts, monitoring, monitorMayFail] at throws

theorem unbroken_of_overseen (moves : pool.mover? turn = some (thread, op))
    (failing : monitoring.acts op turn.fault? = false) (owed : owes thread.past = some paymentId) :
    Quiet pool.state paymentId ∨ 1 < owing pool paymentId := by
  have count := owing_eq_debts spoken attended.remembers
  obtain ⟨front, standing, back, rest, rfl, allowed,
    ⟨acts, _, _⟩ | ⟨_, same, after⟩⟩ := monitorRace_moves spoken moves
  · exact nomatch acts.symm.trans failing
  · have here : (thread, standing) ∈ front ++ (thread, standing) :: back := by simp
    have owes : standing.owes paymentId = true := Standing.owes_iff.mpr
      ⟨allowed.goesOn, (attended.remembers _ here allowed.goesOn).2.trans owed⟩
    by_cases shared : 1 < owing pool paymentId
    · exact .inr shared
    · rw [count, debts_replaced, if_pos owes] at shared
      rw [← same]
      refine .inl (overseen.departed paymentId ?_ ?_)
      · rw [same]
        exact attended.departed _ here paymentId owes
      · rw [owing_replaced after attended.remembers nofun Bool.false_ne_true]
        omega

theorem ordered_of_overseen (moves : pool.mover? turn = some (thread, op))
    (acts : monitoring.acts op turn.fault? = true)
    (departs : departing op pool.state = some paymentId)
    (confirmed : confirms op = true) (missing : orderless thread.past = true) :
    Quiet pool.state paymentId ∨ 0 < owing pool paymentId := by
  have count := owing_eq_debts spoken attended.remembers
  obtain ⟨front, standing, back, rest, rfl, allowed,
    ⟨_, saved, after⟩ | ⟨throws, _, _⟩⟩ := monitorRace_moves spoken moves
  · have here : (thread, standing) ∈ front ++ (thread, standing) :: back := by simp
    rw [← (attended.remembers _ here allowed.goesOn).1] at missing
    have closed : ¬ (monitorActed standing op pool.state).owes paymentId =
        true := by
      intro owes
      have goesOn := (Standing.owes_iff.mp owes).1
      simp_all [monitorActed]
    by_cases shared : 0 < owing pool paymentId
    · exact .inr shared
    · rw [count, debts_replaced] at shared
      have quiet : Quiet (monitorRace pool turn).state paymentId := by
        apply overseen.departed paymentId
        · simp_all [departed_act]
        · rw [owing_replaced after attended.remembers (remembers_acted
            (attended.remembers _ here) allowed.goesOn) closed]
          omega
      rw [saved] at quiet
      cases op with
      | shop op => exact .inl ⟨quiet.streams, quiet.timers⟩
      | _ => cases departs
  · exact nomatch acts.symm.trans throws

theorem heeded_of_overseen : Heeded pool turn where
  opens _ _ _ moves unfailing := opens_of_overseen spoken attended overseen moves unfailing
  deletes _ _ moves := deletes_of_overseen spoken attended overseen moves
  unbroken _ _ _ moves failing owed :=
    unbroken_of_overseen spoken attended overseen moves failing owed
  ordered _ _ _ moves acts departs confirmed missing :=
    ordered_of_overseen spoken attended overseen moves acts departs confirmed missing

end

end

/-! ### Whole runs -/

theorem attended_start (shop : World) :
    Attended (Monitor.start shop) [] where
  registered :=
    { streams := nofun
      timers := nofun
      opened := fun _ _ found => nomatch found
      accompanied := nofun
      fresh := nofun }
  remembers := nofun
  departed := nofun
  settled := nofun

/-- In every state that a run comes to, each payment has at most one stream,
the maps record what is open and pending, so that stopping the monitoring and
shutting down end it, and nothing is left of a payment that the monitor has
taken out of `PENDING`, if and only if every turn of the run heeds the
condition. -/
theorem overseen_iff_heeded (shop : World) (turns : List MonitorTurn) :
    (∀ front back, turns = front ++ back →
      Overseen (run monitorRace ⟨Monitor.start shop, []⟩ front)) ↔
      Along monitorRace Heeded ⟨Monitor.start shop, []⟩ turns := by
  let invariant (pool : MonitorPool) : Prop := ∃ cast,
    pool.Spoken monitoring (fun _ => monitorDialogue) cast ∧ Attended pool.state cast
  have initially : invariant ⟨Monitor.start shop, []⟩ :=
    ⟨[], ⟨rfl, nofun⟩, attended_start shop⟩
  refine reached_iff_along_of_invariant ?_ ?_ ?_ initially
  · rintro pool ⟨cast, spoken, attended⟩
    exact attended.overseen spoken
  · rintro pool turn ⟨cast, spoken, attended⟩ overseen
    exact heeded_of_overseen spoken attended overseen
  · rintro pool turn ⟨cast, spoken, attended⟩ heeded
    exact attended_race spoken attended heeded

/-- The payment of two lamps is awaited. -/
def awaitedPayment : World :=
  (openShop.withOrder
      { id := 0, buyerId := 7, totalAmount := 200, currency := .USD
        items := [] }).withPayment
    { id := 0, orderId := 0, amount := 200, currency := .USD
      destinationWalletAddress := 70, buyerId := 7 }

/-- Two calls look for a stream of the payment before either opens one. -/
def monitoredTwice : List MonitorTurn :=
  [.spawn (.monitorPayment 0 70), .spawn (.monitorPayment 0 70),
    .perform 0 none, .perform 1 none, .perform 0 none, .perform 1 none]

/-- The first of the two streams is in neither map, and nothing closes it. -/
theorem two_streams_open :
    ¬ Overseen (run monitorRace ⟨Monitor.start awaitedPayment, []⟩ monitoredTwice) := by
  intro overseen
  have opened : (run monitorRace ⟨Monitor.start awaitedPayment, []⟩
      monitoredTwice).state.streams = [⟨2, 0⟩, ⟨0, 0⟩] := by decide
  have same : (⟨2, 0⟩ : Handle) = ⟨0, 0⟩ :=
    overseen.one _ (by rw [opened]; decide) _ (by rw [opened]; decide) rfl
  exact absurd same (by decide)

end MarketX.Commerce
