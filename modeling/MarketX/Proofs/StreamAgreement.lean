/-
Module: MarketX.Proofs.StreamAgreement
Purpose: The filter of the stream against the verification of a payment: when
  an operation that passes the one passes the other, so that the stream fails
  no payment and announces CONFIRMED ones only.
Trusted boundary: human-reviewed definition of StreamAgrees and Verifiable
Main exports: StreamAgrees, Verifiable, checked_of_relevant, stream_agrees_iff
-/
import MarketX.Commerce.PaymentStreams
import MarketX.Commerce.Runs

namespace MarketX.Commerce

open Effects Handler PaymentMonitorService

/-! ### The property -/

/-- The operations the stream gets to see. -/
def StellarTransaction.records (transaction : StellarTransaction) :
    List PaymentOperation :=
  match transaction.operations with
  | .ok records => records
  | .error _ => []

/-- The transaction is older than the payment's timeout. -/
def tooOld (payment : Payment) (createdAt : Option Date) (now : Date) : Bool :=
  createdAt.any fun createdAt =>
    ((now - createdAt : ℤ) : ℚ) / (1000 * 60) > payment.timeoutMinutes

abbrev paymentStatus (world : World) (paymentId : Id) :
    Option PaymentStatus :=
  (world.db.payments.row paymentId).map Payment.status

/-- The stream of a payment hands the transaction on, whatever fails. -/
abbrev streamed (world : World) (monitoring : Monitoring) (payment : Payment)
    (transaction : StellarTransaction) (faults : List Fault) : World :=
  (commerce.exec (handleIncomingTransaction monitoring payment.id transaction
    payment.destinationWalletAddress) faults world).2

/-- The filter agrees with the verification on the transaction. -/
structure StreamAgrees (world : World) (payment : Payment)
    (transaction : StellarTransaction) : Prop where
  /-- What passes the filter and is not too old is confirmed. -/
  confirms : ∀ operation ∈ transaction.records,
    isRelevantPayment payment payment.destinationWalletAddress operation = true →
      tooOld payment transaction.createdAt world.now = false → paymentStatus
          (commerce.exec (PaymentsService.verifyAndConfirmPayment payment.id
            (transactionData transaction operation)) [] world).2 payment.id = some .confirmed
  neverFails : ∀ monitoring faults,
    paymentStatus (streamed world monitoring payment transaction faults) payment.id ≠ some .failed
  /-- `payment.stream.confirmed` is emitted for CONFIRMED payments only. -/
  announces : ∀ monitoring faults, .paymentStreamConfirmed payment.id transaction.id ∈
        (streamed world monitoring payment transaction faults).events.drop world.events.length →
      paymentStatus (streamed world monitoring payment transaction faults)
        payment.id = some .confirmed

/-! ### The condition -/

/-- The order of the payment is held back for review. -/
def underReview (world : World) (payment : Payment) : Bool :=
  (world.db.orders.row payment.orderId).any fun order => order.status = .manualReview

/-- The asset that is handed on: the operation's, or XLM for none. -/
def assetCodeOf (operation : PaymentOperation) : String :=
  (operation.assetCode.filter (· ≠ "")).getD "XLM"

def nativeAsset (operation : PaymentOperation) : Bool :=
  (assetCodeOf operation).toUpper = "XLM"

/-- Whatever passes the filter: while the transaction is recent, the order is
not under review, and a payment in XLM is paid in XLM; and when it is too
old, the payment is in USD, which has no age, or the order under review. -/
def Verifiable (world : World) (payment : Payment) (transaction : StellarTransaction) : Prop :=
  ∀ operation ∈ transaction.records,
    isRelevantPayment payment payment.destinationWalletAddress operation = true →
      if tooOld payment transaction.createdAt world.now then
        payment.currency = .USD ∨ underReview world payment = true
      else
        underReview world payment = false ∧ (payment.currency = .XLM → nativeAsset operation = true)

instance (world : World) (payment : Payment) (transaction : StellarTransaction) :
    Decidable (Verifiable world payment transaction) :=
  inferInstanceAs (Decidable (∀ operation ∈ _, _ → _))

/-! ### Filter and verification -/

theorem assetCodeOf_ne (operation : PaymentOperation) :
    assetCodeOf operation ≠ "" := by
  unfold assetCodeOf
  cases operation.assetCode <;> grind

theorem assetCodeOf_toUpper {operation : PaymentOperation} {currency : String}
    (foreign : currency ≠ "XLM") (named : ((operation.assetCode.map String.toUpper).filter
      (· ≠ "")).getD "XLM" = currency) :
    (assetCodeOf operation).toUpper = currency := by
  unfold assetCodeOf
  cases code : operation.assetCode with
  | none =>
    rw [code] at named
    exact absurd named.symm foreign
  | some code' =>
    by_cases empty : code'.toUpper = ""
    · simp_all [Option.filter]
    · have given : code' ≠ "" := by
        rintro rfl
        exact empty (by decide +kernel)
      simp_all [Option.filter]

/-- What passes the filter passes the verification, or fails it for its asset
or its age. -/
theorem checked_of_relevant {payment : Payment} {operation : PaymentOperation}
    {transaction : StellarTransaction} {now : Date}
    (relevant : isRelevantPayment payment payment.destinationWalletAddress operation = true) :
    PaymentsService.checkTransaction payment (transactionData transaction operation) now = none ↔
      payment.currency = .USD ∨ (payment.currency = .XLM → nativeAsset operation = true) ∧
          tooOld payment transaction.createdAt now = false := by
  simp only [isRelevantPayment, checkPaymentOperation, Bool.and_eq_true] at relevant
  replace relevant := relevant.2
  split at relevant
  · cases relevant
  next destination =>
  split at relevant
  · cases relevant
  next amount =>
  have sent : (transactionData transaction operation).to =
      some payment.destinationWalletAddress := not_not.mp destination
  have named : (transactionData transaction operation).assetCode =
      some (assetCodeOf operation) := rfl
  have enough : ¬ ((transactionData transaction operation).amount.any
      fun amount => |amount - payment.amount| > 1 / 10000) = true := amount
  simp only [PaymentsService.checkTransaction, sent, enough, named]
  by_cases dollars : payment.currency = .USD
  · simp [dollars]
  rw [if_neg dollars, if_neg (assetCodeOf_ne operation)]
  have asset : (assetCodeOf operation).toUpper = toString payment.currency ↔
      (payment.currency = .XLM → nativeAsset operation = true) := by
    cases currency : payment.currency with
    | XLM => simp [nativeAsset, toString]
    | USDC =>
      rw [currency] at relevant
      have same := assetCodeOf_toUpper (by decide) (of_decide_eq_true relevant)
      exact ⟨fun _ => nofun, fun _ => same⟩
    | USD => exact absurd currency dollars
  rw [← asset]
  by_cases same : (assetCodeOf operation).toUpper = toString payment.currency
  · have age : (transactionData transaction operation).createdAt =
        transaction.createdAt := rfl
    grind [tooOld]
  · rw [if_pos same]
    simp [dollars, same]

/-! ### One verification -/

section

variable {spared : Spared} {world : World} {payment : Payment}

/-- What the verification of a PENDING payment comes to. -/
inductive Judged (spared : Spared) (world : World) (payment : Payment)
    (data : TransactionData) : Bool → World → Prop where
  | untouched (why : underReview world payment = true ∨ ∃ op, spared op = false) :
      Judged spared world payment data false world
  | refused {message : String} {after : World} (unheld : underReview world payment = false)
      (invalid : PaymentsService.checkTransaction payment data world.now = some message)
      (settled : paymentStatus after payment.id = some .failed) :
      Judged spared world payment data true after
  | confirmed {returns : Bool} {after : World} (unheld : underReview world payment = false)
      (valid : PaymentsService.checkTransaction payment data world.now = none)
      (settled : paymentStatus after payment.id = some .confirmed) :
      Judged spared world payment data returns after

theorem paymentStatus_save (world : World) (payment : Payment) :
    paymentStatus (world.withPayment payment) payment.id =
      some payment.status := by
  have stored := Table.row_save_self world.db.payments payment
  exact congrArg (Option.map Payment.status) stored

theorem judged_verify (spared : Spared) (found : world.db.payments.row payment.id = some payment)
    (pending : payment.status = .pending) (data : TransactionData) :
    (commerce.shield spared).wp (PaymentsService.verifyAndConfirmPayment payment.id data)
      (fun result after => Judged spared world payment data result.isOk after)
      world := by
  apply wp_await_bind _ _ fun exposed _ => .untouched (.inr ⟨_, exposed⟩)
  simp only [act, found, Option.map_some]
  apply wp_guard
  · exact fun left => absurd pending left
  intro _
  apply wp_guard
  · exact fun held => .untouched (.inl held)
  intro held
  have unheld : underReview world payment = false := Bool.eq_false_iff.mpr held
  rw [wp_bind]
  apply wp_total_bind _ rfl
  simp only [act, wp_pure, andThen_ok]
  cases valid : PaymentsService.checkTransaction payment data world.now with
  | some message =>
    apply wp_total_bind _ rfl
    apply wp_await_bind _ _ fun exposed _ => .untouched (.inr ⟨_, exposed⟩)
    apply wp_total_bind _ rfl
    exact .refused unheld valid (paymentStatus_save world _)
  | none =>
    have settled := paymentStatus_save world
      (PaymentsService.confirmedPayment payment data world.now)
    apply wp_total_bind _ rfl
    apply wp_await_bind _ _ fun exposed _ => .untouched (.inr ⟨_, exposed⟩)
    cases world.db.orders.row payment.orderId with
    | none => exact .confirmed unheld valid settled
    | some order =>
      apply wp_total_bind _ rfl
      apply wp_await_bind
      · apply wp_total_bind _ rfl
        exact .confirmed unheld valid settled
      · exact fun _ _ => .confirmed unheld valid settled

variable {after : World} {transaction : StellarTransaction} {operation : PaymentOperation}

/-- Where nothing fails, a payment is confirmed that is not held back and
passes the checks. -/
theorem Judged.confirmed_iff {data : TransactionData} {returns : Bool}
    (judged : Judged (fun _ => true) world payment data returns after)
    (before : paymentStatus world payment.id = some .pending) :
    paymentStatus after payment.id = some .confirmed ↔ underReview world payment = false ∧
        PaymentsService.checkTransaction payment data world.now = none := by cases judged <;> grind

/-! ### One transaction -/

inductive Handled (spared : Spared) (world : World) (payment : Payment)
    (transaction : StellarTransaction) : World → Prop where
  | untouched (why : (∀ operation ∈ transaction.records, isRelevantPayment payment
          payment.destinationWalletAddress operation = false) ∨
        underReview world payment = true ∨ ∃ op, spared op = false) :
      Handled spared world payment transaction world
  | judged {operation : PaymentOperation} {returns : Bool}
      {after later : World} (member : operation ∈ transaction.records)
      (relevant : isRelevantPayment payment payment.destinationWalletAddress operation = true)
      (judged : Judged spared world payment (transactionData transaction operation) returns after)
      (same : paymentStatus later payment.id = paymentStatus after payment.id)
      (silent : returns = false → later = after) :
      Handled spared world payment transaction later

theorem handled_operations (found : world.db.payments.row payment.id = some payment)
    (pending : payment.status = .pending) (monitoring : Monitoring)
    {skipped records : List PaymentOperation}
    (all : transaction.records = skipped ++ records)
    (irrelevant : ∀ operation ∈ skipped, isRelevantPayment payment
      payment.destinationWalletAddress operation = false) :
    (commerce.shield spared).wp (processOperations monitoring payment.id payment transaction
        payment.destinationWalletAddress records)
      (fun _ after => Handled spared world payment transaction after)
      world := by
  induction records generalizing skipped with
  | nil =>
    rw [List.append_nil] at all
    exact .untouched (.inl (all ▸ irrelevant))
  | cons operation records ih =>
    have member : operation ∈ transaction.records := by simp [all]
    apply wp_branch
    · intro relevant
      rw [wp_bind]
      apply wp_mono _ (judged_verify spared found pending _)
      intro result after judged
      cases result with
      | error error => exact .judged member relevant judged rfl fun _ => rfl
      | ok response => exact ⟨.judged member relevant judged rfl nofun, nofun⟩
    · intro other
      have appended :
          transaction.records = (skipped ++ [operation]) ++ records := by simp [all]
      grind

theorem handled_transaction (spared : Spared)
    (found : world.db.payments.row payment.id = some payment)
    (pending : payment.status = .pending) (monitoring : Monitoring)
    (transaction : StellarTransaction) :
    (commerce.shield spared).wp (handleIncomingTransaction monitoring payment.id transaction
        payment.destinationWalletAddress)
      (fun _ after => Handled spared world payment transaction after)
      world := by
  have processed : (commerce.shield spared).wp (processTransaction monitoring payment.id transaction
        payment.destinationWalletAddress)
      (fun _ after => Handled spared world payment transaction after)
      world := by
    apply wp_await_bind _ _ fun exposed _ => .untouched (.inr (.inr ⟨_, exposed⟩))
    simp only [act, found, pending]
    cases answered : transaction.operations with
    | error error =>
      apply Handled.untouched (.inl _)
      simp [StellarTransaction.records, answered]
    | ok records =>
      have all : transaction.records = [] ++ records := by
        simp [StellarTransaction.records, answered]
      exact handled_operations found pending monitoring all (by intros; contradiction)
  unfold handleIncomingTransaction
  rw [wp_bind, wp_attempt]
  apply wp_mono _ processed
  intro result after handled
  cases result <;> exact handled

theorem handled_streamed (found : world.db.payments.row payment.id = some payment)
    (pending : payment.status = .pending) (monitoring : Monitoring)
    (transaction : StellarTransaction) (faults : List Fault) :
    Handled (fun _ => false) world payment transaction
      (streamed world monitoring payment transaction faults) := by
  have holds := handled_transaction (fun _ => false) found pending monitoring transaction
  rw [shield_none] at holds
  exact commerce.wp_sound holds faults

/-- Where nothing fails, a relevant operation that cannot be verified fails the
payment. -/
theorem Handled.failed
    (handled : Handled (fun _ => true) world payment transaction after)
    (member : operation ∈ transaction.records)
    (relevant : isRelevantPayment payment payment.destinationWalletAddress operation = true)
    (unheld : underReview world payment = false) (invalid : ∀ operation, isRelevantPayment payment
        payment.destinationWalletAddress operation = true → PaymentsService.checkTransaction payment
        (transactionData transaction operation) world.now ≠ none) :
    paymentStatus after payment.id = some .failed := by
  cases handled with
  | untouched why => simp_all
  | judged _ relevant' judged same _ =>
    rw [same]
    cases judged <;> simp_all

/-- The age and the asset decide what is relevant, unless the order is under
review. -/
theorem Verifiable.checked
    (verifiable : Verifiable world payment transaction) (member : operation ∈ transaction.records)
    (relevant : isRelevantPayment payment payment.destinationWalletAddress operation = true)
    (unheld : underReview world payment = false) :
    PaymentsService.checkTransaction payment
      (transactionData transaction operation) world.now = none := by
  rw [checked_of_relevant relevant]
  have meets := verifiable operation member relevant
  grind

/-- In a transaction that can be verified nothing happens, or the payment is
confirmed. -/
theorem Handled.confirmed (handled : Handled spared world payment transaction after)
    (verifiable : Verifiable world payment transaction) :
    after = world ∨ paymentStatus after payment.id = some .confirmed := by
  cases handled with
  | untouched why => exact .inl rfl
  | judged member relevant judged same silent =>
    cases judged with
    | untouched why => exact .inl (silent rfl)
    | refused unheld invalid settled =>
      cases invalid.symm.trans (verifiable.checked member relevant unheld)
    | confirmed unheld valid settled => exact .inr (same.trans settled)

end

/-- For a PENDING payment and any transaction: what passes the filter of the
stream is confirmed unless it is too old, the stream never makes the payment
FAILED, and `payment.stream.confirmed` is emitted for a CONFIRMED payment
only, if and only if what passes the filter can be verified. -/
theorem stream_agrees_iff {world : World} {payment : Payment}
    (found : world.db.payments.row payment.id = some payment)
    (pending : payment.status = .pending) (transaction : StellarTransaction) :
    StreamAgrees world payment transaction ↔
      Verifiable world payment transaction := by
  have before : paymentStatus world payment.id = some .pending := by
    rw [paymentStatus, found, Option.map_some, pending]
  have confirms : ∀ data, paymentStatus
      (commerce.exec (PaymentsService.verifyAndConfirmPayment payment.id data)
        [] world).2 payment.id = some .confirmed ↔ underReview world payment = false ∧
            PaymentsService.checkTransaction payment data world.now = none := by
    intro data
    have judged := commerce.wp_sound_spared (judged_verify (fun _ => true) found pending data)
      (commerce.spares_nil _ _ _)
    exact judged.confirmed_iff before
  constructor
  · intro agrees operation member relevant
    split
    next old =>
      by_contra neither
      rw [not_or, Bool.not_eq_true] at neither
      obtain ⟨foreign, unheld⟩ := neither
      have handled := commerce.wp_sound_spared
        (handled_transaction (fun _ => true) found pending {} transaction)
        (commerce.spares_nil _ _ _)
      apply agrees.neverFails {} []
      apply handled.failed member relevant unheld
      intro other relevant'
      rw [Ne, checked_of_relevant relevant']
      simp [foreign, old]
    next recent =>
      obtain ⟨unheld, valid⟩ := (confirms _).mp (agrees.confirms operation member relevant
          (Bool.eq_false_iff.mpr recent))
      refine ⟨unheld, fun lumens => ?_⟩
      rcases (checked_of_relevant relevant).mp valid with dollars | ⟨asset, _⟩
      · cases lumens.symm.trans dollars
      · exact asset lumens
  · intro verifiable
    have outcome := fun monitoring faults =>
      (handled_streamed found pending monitoring transaction faults).confirmed verifiable
    constructor
    · intro operation member relevant recent
      have meets := verifiable operation member relevant
      rw [if_neg (Bool.eq_false_iff.mp recent)] at meets
      exact (confirms _).mpr ⟨meets.1, verifiable.checked member relevant meets.1⟩
    · intro monitoring faults failed
      rcases outcome monitoring faults with same | confirmed
      · rw [same, before] at failed
        cases failed
      · cases confirmed.symm.trans failed
    · intro monitoring faults emitted
      rcases outcome monitoring faults with same | confirmed
      · rw [same, List.drop_length] at emitted
        cases emitted
      · exact confirmed

/-- A payment of 200 XLM to the wallet of user 7. -/
def lumenPayment : Payment where
  id := 0
  orderId := 0
  amount := 200
  currency := .XLM
  destinationWalletAddress := 70
  buyerId := 7

def lumenShop : World :=
  (openShop.withOrder
    { id := 0, buyerId := 7, totalAmount := 200, currency := .XLM
      items := [] }).withPayment lumenPayment

/-- Somebody sends 200 of an asset. -/
def transferOf (assetCode : Option String) : StellarTransaction where
  id := "transfer"
  createdAt := some 0
  operations := .ok
    [{ type := "payment", «from» := some 71, «to» := some 70
       amount := some 200, assetCode }]

theorem lumens_agree :
    StreamAgrees lumenShop lumenPayment (transferOf none) :=
  (stream_agrees_iff rfl rfl (transferOf none)).mpr (by decide +kernel)

/-- 200 of another asset pass the filter of the payment in XLM: the
verification turns the payment FAILED, and the stream announces it as
confirmed. -/
theorem foreign_asset_fails_payment :
    lumenShop.db.payments.row 0 = some lumenPayment ∧ lumenPayment.status = .pending ∧
      tooOld lumenPayment (some 0) lumenShop.now = false ∧
      (streamed lumenShop {} lumenPayment (transferOf (some "SCAM"))
        []).events.contains (.paymentStreamConfirmed 0 "transfer") = true ∧
      paymentStatus (streamed lumenShop {} lumenPayment
        (transferOf (some "SCAM")) []) 0 = some .failed ∧
      ¬ StreamAgrees lumenShop lumenPayment (transferOf (some "SCAM")) := by
  have failed : paymentStatus (streamed lumenShop {} lumenPayment
      (transferOf (some "SCAM")) []) 0 = some .failed := by decide +kernel
  refine ⟨rfl, rfl, by decide +kernel, by decide +kernel, failed, ?_⟩
  exact fun agrees => agrees.neverFails {} [] failed

end MarketX.Commerce
