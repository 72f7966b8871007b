/-
Module: MarketX.Proofs.PaymentRace
Purpose: Payments of one order being initiated, verified and timed out at
  once, effect by effect in any order: when an order has one payment at a time
  that counts, and a settled payment stays settled.
Trusted boundary: human-reviewed definition of PaymentCall, OneActive,
  SettledStay and Undisturbed
Main exports: PaymentCall, paymentRace, OneActive, undisturbed_payments
-/
import MarketX.Effects.Interleaving
import MarketX.Commerce.Runs

namespace MarketX.Commerce

open Effects

/-! ### The race -/

/-- What takes part. -/
inductive PaymentCall where
  | initiatePayment (dto : InitiatePaymentDto)
  | verifyAndConfirmPayment (paymentId : Id) (data : TransactionData)
  | handlePaymentTimeout (paymentId : Id)
deriving DecidableEq

def PaymentCall.program : PaymentCall → Service Unit
  | .initiatePayment dto => do
      let _ ← PaymentsService.initiatePayment dto
      pure ()
  | .verifyAndConfirmPayment paymentId data => do
      let _ ← PaymentsService.verifyAndConfirmPayment paymentId data
      pure ()
  | .handlePaymentTimeout paymentId => do
      let _ ← PaymentsService.handlePaymentTimeout paymentId
      pure ()

abbrev PaymentPool := Pool signature World HttpException PaymentCall

/-- Besides, everything but the payments may change. -/
abbrev PaymentTurn := Turn HttpException PaymentCall World

def paymentRace (pool : PaymentPool) (turn : PaymentTurn) : PaymentPool :=
  pool.step commerce PaymentCall.program (fun other world =>
      { other with db := { other.db with payments := world.db.payments } })
    turn

/-! ### The property -/

/-- The payment is PENDING or CONFIRMED. -/
def isActive (payment : Payment) : Bool := payment.status = .pending ∨ payment.status = .confirmed

/-- No order has two payments that are PENDING or CONFIRMED. -/
def OneActive (world : World) : Prop :=
  ∀ one ∈ world.db.payments.rows, ∀ two ∈ world.db.payments.rows,
    isActive one = true → isActive two = true → one.orderId = two.orderId → one = two

instance (world : World) : Decidable (OneActive world) :=
  inferInstanceAs (Decidable (∀ one ∈ _, ∀ two ∈ _, _ → _ → _ → _))

/-- A payment that has left PENDING keeps its status in this turn. -/
def SettledStay (pool : PaymentPool) (turn : PaymentTurn) : Prop :=
  ∀ payment ∈ pool.state.db.payments.rows, payment.status ≠ .pending →
    ((paymentRace pool turn).state.db.payments.row payment.id).map
      Payment.status = some payment.status

instance (pool : PaymentPool) (turn : PaymentTurn) :
    Decidable (SettledStay pool turn) := inferInstanceAs (Decidable (∀ payment ∈ _, _ → _))

/-! ### The condition -/

/-- What a call met when it last looked for a PENDING payment of an order. -/
def lookedFor (orderId : Id) : Past signature World → Option World
  | [] => none
  | (.findPendingPayment id, met) :: past =>
    if id = orderId then some met else lookedFor orderId past
  | _ :: past => lookedFor orderId past

/-- What a call met when it last read a payment. -/
def lastRead (paymentId : Id) : Past signature World → Option World
  | [] => none
  | (.findPayment id, met) :: past
  | (.findPaymentWithOrder id, met) :: past =>
    if id = paymentId then some met else lastRead paymentId past
  | _ :: past => lastRead paymentId past

/-- A payment is inserted, and when its call looked for a PENDING one the
order had no CONFIRMED one, and none of those it has got since counts; or a
payment is saved that still has the status its call has read, if it has not
got the same status meanwhile. -/
def calm (past : Past signature World) (world : World) : Op → Bool
  | .insertPayment payment =>
    (lookedFor payment.orderId past).all fun met =>
      (met.db.payments.rows.all fun other =>
        other.orderId ≠ payment.orderId ∨ other.status ≠ .confirmed) &&
      world.db.payments.rows.all fun other =>
        other.orderId ≠ payment.orderId ∨ isActive other = false ∨
          (met.db.payments.row other.id).isSome
  | .savePayment payment =>
    (lastRead payment.id past).all fun met =>
      (world.db.payments.row payment.id).all fun stored =>
        some stored.status = (met.db.payments.row payment.id).map Payment.status ∨
          stored.status = payment.status
  | _ => true

/-- The effect of this turn, if it does not throw, is calm. -/
def Undisturbed (pool : PaymentPool) (turn : PaymentTurn) : Prop :=
  turn.fault? = none → ∀ moves ∈ pool.mover? turn, calm moves.1.past pool.state moves.2 = true

instance (pool : PaymentPool) (turn : PaymentTurn) :
    Decidable (Undisturbed pool turn) :=
  inferInstanceAs (Decidable (_ → ∀ moves ∈ pool.mover? turn, _))

/-! ### The contract of the calls -/

/-- Payments stay, with their orders and, once settled, their status. -/
def KeptPayments (world after : World) : Prop :=
  ∀ id payment, world.db.payments.row id = some payment →
    ∃ later, after.db.payments.row id = some later ∧ later.orderId = payment.orderId ∧
        (payment.status ≠ .pending → later.status = payment.status)

instance : IsPreorder World KeptPayments where
  refl _ _ payment stored := ⟨payment, stored, rfl, fun _ => rfl⟩
  trans _ _ _ first second id payment stored := by
    obtain ⟨middle, between, sameOrder, settled⟩ := first id payment stored
    obtain ⟨later, after, sameOrder', settled'⟩ := second id middle between
    refine ⟨later, after, sameOrder'.trans sameOrder, fun left => ?_⟩
    have same := settled left
    exact (settled' (by rw [same]; exact left)).trans same

/-- What a calm effect promises: a payment is inserted where none counts, and
only a PENDING payment changes its status. -/
def promises (met : World) : Op → Prop
  | .insertPayment payment =>
    ∀ id other, met.db.payments.row id = some other →
      other.orderId = payment.orderId → isActive other = false
  | .savePayment payment =>
    payment.status ≠ .pending ∧ ∃ stored, met.db.payments.row payment.id = some stored ∧
        payment.orderId = stored.orderId ∧
          (stored.status ≠ .pending → payment.status = stored.status)
  | .rollback _ => False
  | _ => True

def paymentContract : Contract signature World where
  rely _ _ := KeptPayments
  presumes past op met := calm past met op = true
  ensures past op met := calm past met op = true → promises met op
  rely_refl _ _ := refl_of KeptPayments
  rely_trans := trans_of KeptPayments

/-- Only the insertion and the save of a payment, or a rollback, change the
payments. -/
theorem payments_act {world : World} {op : Op} (kept : promises world op)
    (inserted : ∀ payment, op ≠ .insertPayment payment)
    (saved : ∀ payment, op ≠ .savePayment payment) :
    (act op world).2.db.payments = world.db.payments := by
  cases op with
  | insertPayment payment => exact absurd rfl (inserted payment)
  | savePayment payment => exact absurd rfl (saved payment)
  | rollback tables => exact kept.elim
  | saveListingEntity listing =>
    rw [act]
    split <;> rfl
  | _ => rfl

theorem keptPayments_act {world : World} {op : Op} (kept : promises world op) :
    KeptPayments world (act op world).2 := by
  by_cases inserted : ∃ payment, op = .insertPayment payment
  · obtain ⟨payment, rfl⟩ := inserted
    intro id other stored
    refine ⟨other, ?_, rfl, fun _ => rfl⟩
    show (world.db.payments.save { payment with id := _ }).row id = some other
    rw [Table.row_save_of_ne]
    · exact stored
    · rintro rfl
      cases (Table.row_next world.db.payments).symm.trans stored
  by_cases saved : ∃ payment, op = .savePayment payment
  · obtain ⟨payment, rfl⟩ := saved
    obtain ⟨_, before, found, sameOrder, settled⟩ := kept
    intro id other stored
    show ∃ later, (world.db.payments.save payment).row id = some later ∧ _
    rw [Table.row_save]
    split
    next same =>
      have here : id = payment.id := same
      simp_all
    next => exact ⟨other, stored, rfl, fun _ => rfl⟩
  · have same := payments_act kept (fun payment same => inserted ⟨payment, same⟩)
      (fun payment same => saved ⟨payment, same⟩)
    intro id other stored
    exact ⟨other, by rw [same]; exact stored, rfl, fun _ => rfl⟩

/-- A payment may be stored that is not active, or that is the only active one
of its order then. -/
theorem oneActive_withPayment {world : World} {payment : Payment}
    (alone : isActive payment = true → ∀ other ∈ world.db.payments.rows,
      other.id ≠ payment.id → isActive other = true → other.orderId ≠ payment.orderId)
    (one : OneActive world) : OneActive (world.withPayment payment) := by
  have listed : ∀ row ∈ (world.withPayment payment).db.payments.rows, row = payment ∨
        row.id ≠ payment.id ∧ row ∈ world.db.payments.rows := by
    intro row member
    have stored : (world.db.payments.save payment).row row.id = some row := Table.mem_rows.mp member
    rw [Table.row_save] at stored
    split at stored
    next => exact .inl (Option.some.inj stored).symm
    next distinct => exact .inr ⟨distinct, Table.mem_rows.mpr stored⟩
  intro first memberFirst second memberSecond activeFirst activeSecond same
  rcases listed first memberFirst with rfl | ⟨distinctFirst, inFirst⟩
  · grind
  · rcases listed second memberSecond with rfl | ⟨_, inSecond⟩
    · simp_all
    · exact one first inFirst second inSecond activeFirst activeSecond same

theorem oneActive_act {world : World} {op : Op} (kept : promises world op)
    (one : OneActive world) : OneActive (act op world).2 := by
  by_cases inserted : ∃ payment, op = .insertPayment payment
  · obtain ⟨payment, rfl⟩ := inserted
    apply oneActive_withPayment _ one
    intro _ other member _ active same
    have idle := kept other.id other (Table.mem_rows.mp member) same
    cases idle.symm.trans active
  by_cases saved : ∃ payment, op = .savePayment payment
  · obtain ⟨payment, rfl⟩ := saved
    obtain ⟨_, before, found, sameOrder, settled⟩ := kept
    apply oneActive_withPayment _ one
    intro active other member distinct activeOther same
    -- the row that is saved was active already
    have wasActive : isActive before = true := by grind [isActive]
    have merged := one other member before (Table.mem_rows_of_row found)
      activeOther wasActive (same.trans sameOrder)
    rw [merged] at distinct
    exact distinct (world.db.payments.keyed found)
  · have same := payments_act kept (fun payment same => inserted ⟨payment, same⟩)
      (fun payment same => saved ⟨payment, same⟩)
    rw [OneActive, same]
    exact one

/-! ### The calls keep the contract -/

theorem rg_idle (op : Op) (idle : ∀ met, promises met op) {α : Type}
    {rest : Reply op → Service α} {past : Past signature World} {world : World}
    (continues : ∀ met, KeptPayments world met →
      rg commerce paymentContract (rest (act op met).1) (fun _ _ _ => True)
        ((op, met) :: past) (act op met).2) :
    rg commerce paymentContract (await op >>= rest) (fun _ _ _ => True) past
      world := by
  rw [rg_bind]
  apply rg_perform
  exact fun met relied =>
    ⟨fun _ => idle met, fun _ => continues met relied, fun _ => trivial⟩

theorem rg_keptPayments {α : Type} {program : Service α}
    {post : Except HttpException α → Past signature World → World → Prop}
    {past : Past signature World} {world : World}
    (holds : rg commerce paymentContract program post past world) :
    rg commerce paymentContract program (fun result past after => post result past after ∧
        KeptPayments world after) past world := by
  have relied : ∀ {past : Past signature World} {op state met},
      paymentContract.rely past op state met → KeptPayments state met := id
  have acted : ∀ {past op met}, paymentContract.ensures past op met →
      paymentContract.presumes past op met →
        KeptPayments met (act op met).2 :=
    fun ensured presumed => keptPayments_act (ensured presumed)
  exact rg_within relied acted holds

theorem rg_savePayment (later : Payment) {payment : Payment}
    {read world : World} {α : Type} {rest : Unit → Service α}
    {past : Past signature World} (pending : payment.status = .pending)
    (settles : later.status ≠ .pending) (sameOrder : later.orderId = payment.orderId)
    (seen : lastRead later.id past = some read)
    (found : read.db.payments.row later.id = some payment) (kept : KeptPayments read world)
    (continues : ∀ past met, rg commerce paymentContract (rest ()) (fun _ _ _ => True) past met) :
    rg commerce paymentContract (paymentsRepository.save later >>= rest)
      (fun _ _ _ => True) past world := by
  rw [rg_bind]
  apply rg_perform
  refine fun met relied => ⟨fun undisturbed => ⟨settles, ?_⟩,
    fun _ => continues _ _, fun _ => trivial⟩
  obtain ⟨stored, here, order, _⟩ := trans_of KeptPayments kept relied later.id payment found
  refine ⟨stored, here, sameOrder.trans order.symm, fun left => ?_⟩
  simp only [calm, seen, here, found, pending, Option.all_some,
    Option.map_some, decide_eq_true_eq, Option.some.injEq] at undisturbed
  simp_all

theorem rg_insertPayment (payment : Payment) {read world : World} {α : Type}
    {rest : Payment → Service α} {past : Past signature World}
    (seen : lookedFor payment.orderId past = some read) (missing : ∀ other ∈ read.db.payments.rows,
      other.orderId = payment.orderId → other.status ≠ .pending) (kept : KeptPayments read world)
    (continues : ∀ stored past met,
      rg commerce paymentContract (rest stored) (fun _ _ _ => True) past met) :
    rg commerce paymentContract (paymentsRepository.insert payment >>= rest)
      (fun _ _ _ => True) past world := by
  rw [rg_bind]
  apply rg_perform
  refine fun met relied => ⟨fun undisturbed id other stored about => ?_,
    fun _ => continues _ _ _, fun _ => trivial⟩
  simp only [calm, seen, Option.all_some, Bool.and_eq_true, List.all_eq_true,
    decide_eq_true_eq] at undisturbed
  obtain ⟨unconfirmed, overtaken⟩ := undisturbed
  have keyed : other.id = id := met.db.payments.keyed stored
  subst keyed
  rcases overtaken other (Table.mem_rows.mpr stored) with elsewhere | settled | known
  · exact absurd about elsewhere
  · exact settled
  · -- the payment was there when the call looked, and not PENDING
    obtain ⟨before, found⟩ := Option.isSome_iff_exists.mp known
    obtain ⟨later, here, sameOrder, same⟩ := trans_of KeptPayments kept relied other.id before found
    grind [Table.mem_rows_of_row, isActive]

/-- The effects that the reward points of a payment take. -/
def ofRewards : Op → Prop
  | .sumPoints _ | .insertReward _ => True
  | _ => False

theorem payableAmount_uses (order : Order) (pointsToUse : Option ℚ) :
    (PaymentsService.payableAmount order pointsToUse).Uses ofRewards := by
  have created : ∀ dto, (RewardsService.createReward dto).Uses ofRewards := by
    intro dto
    apply (Program.uses_perform trivial).bind
    intro currentBalance
    apply Program.Uses.guard
    exact (Program.uses_perform trivial).bind fun _ => trivial
  cases pointsToUse with
  | none => trivial
  | some points =>
    apply Program.Uses.branch (points > 0)
    case skipped => trivial
    apply Program.Uses.bind
    · apply Program.Uses.attempt
      apply (Program.uses_perform trivial).bind
      intro currentBalance
      apply Program.Uses.guard
      apply (created _).bind
      intro reward
      exact (Program.uses_perform trivial).bind fun _ => trivial
    · rintro (error | result) <;> trivial

theorem payableAmount_keeps (order : Order) (pointsToUse : Option ℚ)
    (past : Past signature World) (world : World) :
    rg commerce paymentContract (PaymentsService.payableAmount order pointsToUse)
      (fun _ later after => (∀ orderId, lookedFor orderId later = lookedFor orderId past) ∧
          KeptPayments world after) past world := by
  have asked : ∀ past op met, ofRewards op →
      paymentContract.ensures past op met := by
    intro past op met rewards _
    cases op with
    | sumPoints | insertReward => trivial
    | _ => cases rewards
  apply rg_mono (rg_keptPayments
    (rg_of_uses asked (payableAmount_uses order pointsToUse) past world))
  rintro _ _ after ⟨⟨added, rfl, each⟩, kept⟩
  refine ⟨fun orderId => ?_, kept⟩
  induction added with
  | nil => rfl
  | cons entry added ih =>
    rw [List.forall_mem_cons] at each
    obtain ⟨op, met⟩ := entry
    have rewards : ofRewards op := each.1
    rw [← ih each.2]
    cases op with
    | sumPoints | insertReward => rfl
    | _ => cases rewards

theorem initiatePayment_keeps (dto : InitiatePaymentDto)
    (past : Past signature World) (world : World) :
    rg commerce paymentContract (PaymentsService.initiatePayment dto)
      (fun _ _ _ => True) past world := by
  apply rg_idle (.findOrder dto.orderId) fun _ => trivial
  intro met _
  simp only [act]
  cases met.db.orders.row dto.orderId with
  | none => trivial
  | some order =>
    dsimp only
    split
    next => trivial
    split
    next => trivial
    split
    next => trivial
    apply rg_idle (.findPendingPayment dto.orderId) fun _ => trivial
    intro looked _
    simp only [act]
    cases found : looked.db.payments.rows.find? _ with
    | some existingPayment => trivial
    | none =>
      rw [rg_bind]
      apply rg_mono (payableAmount_keeps order dto.pointsToUse _ looked)
      rintro (error | finalAmount) past' after ⟨sameLook, kept⟩
      · trivial
      apply rg_idle (.findWallet order.buyerId) fun _ => trivial
      intro later relied
      simp only [act]
      cases later.db.wallets.rows.find? _ with
      | none => trivial
      | some wallet =>
        apply rg_idle .dateNow fun _ => trivial
        intro last relied'
        apply rg_insertPayment
        · show lookedFor dto.orderId _ = some looked
          simp [lookedFor, sameLook]
        · simp_all
        · exact trans_of KeptPayments kept (trans_of KeptPayments relied relied')
        · intro stored past after
          exact rg_idle (.emit _) (fun _ => trivial) fun _ _ => trivial

theorem handlePaymentTimeout_keeps (paymentId : Id) (past : Past signature World) (world : World) :
    rg commerce paymentContract (PaymentsService.handlePaymentTimeout paymentId) (fun _ _ _ => True)
      past world := by
  apply rg_idle (.findPayment paymentId) fun _ => trivial
  intro met _
  simp only [act]
  cases found : met.db.payments.row paymentId with
  | none => trivial
  | some payment =>
    have keyed : payment.id = paymentId := met.db.payments.keyed found
    dsimp only
    split
    next pending =>
      apply rg_idle .dateNow fun _ => trivial
      intro later relied
      apply rg_savePayment (PaymentsService.timedOutPayment payment _) pending (by rintro ⟨⟩) rfl
      · show lastRead payment.id _ = some met
        simp [lastRead, keyed]
      · show met.db.payments.row payment.id = some payment
        rw [keyed, found]
      · exact relied
      · intro past after
        exact rg_idle (.emit _) (fun _ => trivial) fun _ _ => trivial
    next => trivial

theorem verifyAndConfirmPayment_keeps (paymentId : Id)
    (data : TransactionData) (past : Past signature World) (world : World) :
    rg commerce paymentContract (PaymentsService.verifyAndConfirmPayment paymentId data)
      (fun _ _ _ => True) past world := by
  apply rg_idle (.findPaymentWithOrder paymentId) fun _ => trivial
  intro met _
  simp only [act]
  cases found : met.db.payments.row paymentId with
  | none => trivial
  | some payment =>
    have keyed : payment.id = paymentId := met.db.payments.keyed found
    have stored : met.db.payments.row payment.id = some payment := by rw [keyed, found]
    dsimp only [Option.map_some]
    split
    next => trivial
    next notLeft =>
    have pending : payment.status = .pending := not_not.mp notLeft
    split
    next => trivial
    rw [rg_bind, PaymentsService.validateTransaction, rg_bind]
    apply rg_perform
    refine fun middle relied =>
      ⟨fun _ => trivial, fun _ => ?_, fun _ => trivial⟩
    rw [andThenAt_ok, rg_pure, andThenAt_ok]
    split
    next message _ =>
      apply rg_idle .dateNow fun _ => trivial
      intro later relied'
      apply rg_savePayment (PaymentsService.failedPayment payment _ _) pending (by rintro ⟨⟩) rfl
      · show lastRead payment.id _ = some met
        simp [lastRead, keyed]
      · exact stored
      · exact trans_of KeptPayments relied relied'
      · intro past after
        exact rg_idle (.emit _) (fun _ => trivial) fun _ _ => trivial
    next =>
      apply rg_idle .dateNow fun _ => trivial
      intro later relied'
      apply rg_savePayment (PaymentsService.confirmedPayment payment _ _) pending (by rintro ⟨⟩) rfl
      · show lastRead payment.id _ = some met
        simp [lastRead, keyed]
      · exact stored
      · exact trans_of KeptPayments relied relied'
      · intro past after
        split
        next => trivial
        next order _ =>
          apply rg_idle .dateNow fun _ => trivial
          intro _ _
          apply rg_idle (.saveOrder _) fun _ => trivial
          intro _ _
          exact rg_idle (.emit _) (fun _ => trivial) fun _ _ => trivial

theorem call_keeps (call : PaymentCall) (world : World) :
    rg commerce paymentContract call.program (fun _ _ _ => True) [] world := by
  cases call with
  | initiatePayment dto => exact rg_discard (initiatePayment_keeps dto [] world)
  | verifyAndConfirmPayment paymentId data =>
    exact rg_discard (verifyAndConfirmPayment_keeps paymentId data [] world)
  | handlePaymentTimeout paymentId =>
    exact rg_discard (handlePaymentTimeout_keeps paymentId [] world)

/-! ### Undisturbed payments -/

/-- What holds of the pool as long as nothing disturbs the calls. -/
structure Ordered (pool : PaymentPool) : Prop where
  one : OneActive pool.state
  sound : pool.Sound commerce fun _ => paymentContract

/-- An effect that acts in an undisturbed turn is calm: those that need not
be can throw. -/
theorem Undisturbed.calm {pool : PaymentPool} {index : ℕ} {fault : Fault}
    (undisturbed : Undisturbed pool (.perform index fault))
    {thread : Thread signature World HttpException PaymentCall} {op : Op}
    (moves : pool.mover? (.perform index fault : PaymentTurn) = some (thread, op))
    (acts : commerce.acts op fault = true) :
    calm thread.past pool.state op = true := by
  rcases Handler.acts_cases acts with rfl | total
  · exact undisturbed rfl _ moves
  · cases op <;> first | rfl | cases total

theorem paymentRace_state_cases {pool : PaymentPool} {turn : PaymentTurn}
    (ordered : Ordered pool) (undisturbed : Undisturbed pool turn) :
    (paymentRace pool turn).state.db.payments = pool.state.db.payments ∨
      ∃ op, promises pool.state op ∧ (paymentRace pool turn).state = (act op pool.state).2 := by
  rcases Pool.step_state_cases commerce PaymentCall.program _ pool turn with
    same | ⟨other, _, changed⟩ |
    ⟨index, fault, thread, op, rfl, moves, acts, acted⟩
  · exact .inl (congrArg (fun world => world.db.payments) same)
  · exact .inl (congrArg (fun world => world.db.payments) changed)
  · exact .inr ⟨op, ordered.sound.ensures moves (undisturbed.calm moves acts), acted⟩

theorem keptPayments_race {pool : PaymentPool} {turn : PaymentTurn}
    (ordered : Ordered pool) (undisturbed : Undisturbed pool turn) :
    KeptPayments pool.state (paymentRace pool turn).state := by
  rcases paymentRace_state_cases ordered undisturbed with
    same | ⟨op, kept, acted⟩
  · intro id payment stored
    exact ⟨payment, by rw [same]; exact stored, rfl, fun _ => rfl⟩
  · rw [acted]
    exact keptPayments_act kept

theorem ordered_race (pool : PaymentPool) (turn : PaymentTurn)
    (ordered : Ordered pool) (undisturbed : Undisturbed pool turn) :
    Ordered (paymentRace pool turn) := by
  constructor
  · rcases paymentRace_state_cases ordered undisturbed with
      same | ⟨op, kept, acted⟩
    · rw [OneActive, same]
      exact ordered.one
    · rw [acted]
      exact oneActive_act kept ordered.one
  · apply ordered.sound.step turn
    · exact fun call => call_keeps call pool.state
    · rintro index fault thread op rfl moves acts
      exact undisturbed.calm moves acts
    · intro other thread found _ awaited awaits
      exact keptPayments_race ordered undisturbed

/-- In every interleaving in which no payment is inserted or saved over what
has happened since its call looked: no order ever has two payments that are
PENDING or CONFIRMED, and a payment that has left PENDING keeps its status,
whatever fails. -/
theorem undisturbed_payments {start : World} (one : OneActive start) {turns : List PaymentTurn}
    (undisturbed : Along paymentRace Undisturbed ⟨start, []⟩ turns) :
    OneActive (run paymentRace ⟨start, []⟩ turns).state ∧
      Along paymentRace SettledStay ⟨start, []⟩ turns := by
  have initially : Ordered ⟨start, []⟩ :=
    ⟨one, fun _ none => absurd none List.not_mem_nil⟩
  constructor
  · exact (run_invariant ordered_race initially undisturbed).one
  · apply along_of_invariant ordered_race _ initially undisturbed
    intro pool turn ordered undisturbed payment member left
    obtain ⟨later, stored, _, settled⟩ := keptPayments_race ordered undisturbed payment.id payment
        (Table.mem_rows.mp member)
    rw [stored, Option.map_some, settled left]

/-- User 7 has ordered two lamps. -/
def orderedLamps : World := openShop.withOrder
    { id := 0, buyerId := 7, totalAmount := 200, currency := .USD
      items := [] }

def payLamps : PaymentCall := .initiatePayment { orderId := 0, currency := .USD }

/-- So many effects of one call, none failing. -/
def paymentTurns (index count : ℕ) : List PaymentTurn := List.replicate count (.perform index none)

/-- The lamps are paid before the timeout strikes, and somebody comes to pay
once more. -/
def paidInTime : List PaymentTurn := [.spawn payLamps] ++ paymentTurns 0 6 ++
    [.spawn (.verifyAndConfirmPayment 0 lampTransfer), .spawn (.handlePaymentTimeout 0)] ++
    paymentTurns 1 7 ++ paymentTurns 2 1 ++ [.spawn payLamps] ++ paymentTurns 3 1

theorem lamps_paid_in_time :
    OneActive orderedLamps ∧ OneActive (run paymentRace ⟨orderedLamps, []⟩ paidInTime).state ∧
      Along paymentRace SettledStay ⟨orderedLamps, []⟩ paidInTime :=
  ⟨by decide +kernel, undisturbed_payments (by decide +kernel) (by decide +kernel)⟩

/-- Two calls look for a PENDING payment before either inserts its own; and a
payment times out between the check of a transfer and its confirmation. -/
theorem payments_race :
    OneActive orderedLamps ∧ ¬ OneActive (run paymentRace ⟨orderedLamps, []⟩
        ([.spawn payLamps, .spawn payLamps] ++ paymentTurns 0 2 ++
          paymentTurns 1 2 ++ paymentTurns 0 4 ++ paymentTurns 1 4)).state ∧
      ¬ Along paymentRace SettledStay ⟨orderedLamps, []⟩ ([.spawn payLamps] ++ paymentTurns 0 6 ++
          [.spawn (.verifyAndConfirmPayment 0 lampTransfer),
            .spawn (.handlePaymentTimeout 0)] ++ paymentTurns 1 3 ++
          paymentTurns 2 4 ++ paymentTurns 1 4) := by
  refine ⟨by decide, ?_, ?_⟩
  · decide
  · decide +kernel

end MarketX.Commerce
