/-
Module: MarketX.Proofs.ManualVerification
Purpose: Payments that are verified by hand, over whole sequences of calls
  with any bodies: when a confirmed payment has been paid by a transfer of the
  ledger.
Trusted boundary: human-reviewed definition of Transfer, PaidFor, ManualCall,
  manualStep and Truthful
Main exports: Transfer, PaidFor, Truthful, confirmed_payments_paid
-/
import MarketX.Commerce.PaymentsController
import MarketX.Commerce.Runs

namespace MarketX.Commerce

open Effects Handler Numerals PaymentsService

/-! ### The property and the condition -/

/-- A transfer on the Stellar ledger. -/
structure Transfer where
  id : String
  destination : PublicKey
  amount : Amount
  asset : String

/-- The ledger has a transfer with the id on the payment, to its wallet, in
its asset, of its amount. -/
def PaidFor (ledger : Set Transfer) (payment : Payment) : Prop :=
  ∃ transfer ∈ ledger, payment.stellarTransactionId = some transfer.id ∧
    transfer.destination = payment.destinationWalletAddress ∧
    transfer.asset = toString payment.currency ∧
    |transfer.amount - payment.amount| ≤ 1 / 10000

/-- A call of the endpoint, the failures of its effects, and the clock. -/
structure ManualCall where
  paymentId : Id
  body : Json
  faults : List Fault := []
  now : Date

section

variable (columns : Columns) (ledger : Set Transfer)

def manualStep (world : World) (call : ManualCall) : World :=
  (commerce.exec (PaymentsController.manualVerifyPayment columns call.paymentId call.body)
    call.faults { world with now := call.now }).2

/-- The body says what the transfer is: its id, where it went, how much it
was, and in which asset, if that matters for the payment. -/
structure Describes (payment : Payment) (body : Json) (transfer : Transfer) :
    Prop where
  id : (body.member "id").map columns.text = some transfer.id
  destination : ∀ text, body.member "to" = some (.string text) →
    columns.key text = transfer.destination
  amount : (body.member "amount").map parseFloat = some (.finite transfer.amount)
  asset : if payment.currency = .USD then transfer.asset = "USD"
    else ∀ code, body.member "asset_code" = some (.string code) → code.toUpper = transfer.asset

/-- If the payment is pending and the body passes its checks, then what the
body says is true. -/
def Truthful (world : World) (call : ManualCall) : Prop :=
  ∀ payment, world.db.payments.row call.paymentId = some payment → payment.status = .pending →
      checkBody columns payment call.body call.now = .ok none →
        ∃ transfer ∈ ledger, Describes columns payment call.body transfer

end

/-! ### One call -/

/-- What a verification makes of the payments: nothing; or the pending payment
has failed; or it has passed the check, and is confirmed. -/
inductive VerifyOutcome (world : World) (id : Id)
    (check : Payment → Date → Except HttpException (Option String))
    (confirm : Payment → Date → Except HttpException Payment) :
    World → Prop where
  | kept {after : World} (same : after.db.payments = world.db.payments) :
      VerifyOutcome world id check confirm after
  | failed {after : World} {payment : Payment} {message : String}
      (found : world.db.payments.row id = some payment)
      (same : after.db.payments = world.db.payments.save
        (failedPayment payment message world.now)) :
      VerifyOutcome world id check confirm after
  | confirmed {after : World} {payment confirmed : Payment}
      (found : world.db.payments.row id = some payment) (pending : payment.status = .pending)
      (checked : check payment world.now = .ok none)
      (made : confirm payment world.now = .ok confirmed)
      (same : after.db.payments = world.db.payments.save confirmed) :
      VerifyOutcome world id check confirm after

theorem verifyWith_outcome (world : World) (id : Id)
    (check : Payment → Date → Except HttpException (Option String))
    (confirm : Payment → Date → Except HttpException Payment) :
    (commerce.shield noneSpared).wp (verifyWith id check confirm)
      (fun _ after => VerifyOutcome world id check confirm after) world := by
  apply wp_await_bind _ _ fun _ _ => .kept rfl
  simp only [act]
  cases found : world.db.payments.row id with
  | none => exact .kept rfl
  | some payment =>
    apply wp_guard
    · exact fun _ => .kept rfl
    intro isPending
    apply wp_guard
    · exact fun _ => .kept rfl
    intro _
    apply wp_total_bind _ rfl
    simp only [act]
    cases checked : check payment world.now with
    | error error => exact .kept rfl
    | ok verdict =>
      cases verdict with
      | some message =>
        apply wp_total_bind _ rfl
        apply wp_await_bind _ _ fun _ _ => .kept rfl
        apply wp_total_bind _ rfl
        exact .failed found rfl
      | none =>
        apply wp_total_bind _ rfl
        simp only [act]
        cases made : confirm payment world.now with
        | error error => exact .kept rfl
        | ok confirmed =>
          have outcome : ∀ {after : World}, after.db.payments = world.db.payments.save confirmed →
                VerifyOutcome world id check confirm after :=
            .confirmed found (not_not.mp isPending) checked made
          apply wp_await_bind _ _ fun _ _ => .kept rfl
          cases world.db.orders.row payment.orderId with
          | none => exact outcome rfl
          | some order =>
            apply wp_total_bind _ rfl
            apply wp_await_bind _ _ fun _ _ => outcome rfl
            apply wp_total_bind _ rfl
            exact outcome rfl

/-! ### Bodies that pass the checks -/

section

variable {columns : Columns} {ledger : Set Transfer} {payment : Payment} {body : Json} {now : Date}

structure FitsBody (columns : Columns) (payment : Payment) (body : Json) :
    Prop where
  destination : ∃ text, body.member "to" = some (.string text) ∧
    columns.key text = payment.destinationWalletAddress
  amount : ∀ amount, (body.member "amount").map parseFloat = some (.finite amount) →
      |amount - payment.amount| ≤ 1 / 10000
  asset : payment.currency ≠ .USD → ∃ code, body.member "asset_code" = some (.string code) ∧
      code.toUpper = toString payment.currency

theorem fits_of_checkBody (checked : checkBody columns payment body now = .ok none) :
    FitsBody columns payment body := by
  unfold checkBody at checked
  split at checked
  · cases checked
  next arrived =>
    split at checked
    · cases checked
    next close =>
      refine ⟨?_, ?_, ?_⟩
      · grind [destinationMatches]
      · grind [amountDiffers, transactionAmount]
      · grind

/-- A confirmation writes the body's id, and nothing on which the payment
waits. -/
theorem confirmedByBody_ok {confirmed : Payment}
    (made : confirmedByBody columns payment body now = .ok confirmed) :
    confirmed.id = payment.id ∧ confirmed.stellarTransactionId =
        (body.member "id").map columns.text ∧
      confirmed.destinationWalletAddress = payment.destinationWalletAddress ∧
      confirmed.currency = payment.currency ∧ confirmed.amount = payment.amount := by
  unfold confirmedByBody at made
  cases counted : confirmationCountOf columns body with
  | error error =>
    rw [counted] at made
    cases made
  | ok count =>
    rw [counted] at made
    cases made
    exact ⟨rfl, rfl, rfl, rfl, rfl⟩

theorem paidFor_of_checked {confirmed : Payment} {transfer : Transfer}
    (checked : checkBody columns payment body now = .ok none)
    (made : confirmedByBody columns payment body now = .ok confirmed) (listed : transfer ∈ ledger)
    (describes : Describes columns payment body transfer) :
    PaidFor ledger confirmed := by
  have fits := fits_of_checkBody checked
  obtain ⟨_, id, destination, currency, amount⟩ := confirmedByBody_ok made
  refine ⟨transfer, listed, id.trans describes.id, ?_, ?_, ?_⟩
  · obtain ⟨text, found, key⟩ := fits.destination
    rw [destination, ← describes.destination text found, key]
  · have asset := describes.asset
    rw [currency]
    split at asset
    next usd => rw [asset, usd]; rfl
    next notUsd =>
      obtain ⟨code, found, same⟩ := fits.asset notUsd
      rw [← asset code found, same]
  · rw [amount]
    exact fits.amount _ describes.amount

end

/-! ### Sequences of calls -/

section

variable {columns : Columns} {ledger : Set Transfer}

/-- Every payment that is CONFIRMED was so from the start, or has been paid. -/
def PaidSince (ledger : Set Transfer) (start world : World) : Prop :=
  ∀ id payment, world.db.payments.row id = some payment → payment.status = .confirmed →
      start.db.payments.row id = some payment ∨ PaidFor ledger payment

theorem paidSince_step {start world : World} {call : ManualCall}
    (paid : PaidSince ledger start world) (truthful : Truthful columns ledger world call) :
    PaidSince ledger start (manualStep columns world call) := by
  have outcome : VerifyOutcome { world with now := call.now } call.paymentId
      (checkBody columns · call.body) (confirmedByBody columns · call.body)
      (manualStep columns world call) := by
    rw [manualStep, PaymentsController.manualVerifyPayment]
    split
    · exact .kept rfl
    · have holds := verifyWith_outcome { world with now := call.now }
        call.paymentId (checkBody columns · call.body) (confirmedByBody columns · call.body)
      rw [commerce.shield_none] at holds
      exact commerce.wp_sound holds call.faults
  intro id later stored confirmed
  cases outcome with
  | kept same =>
    rw [same] at stored
    exact paid id later stored confirmed
  | @failed payment message found same =>
    rw [same, Table.row_save] at stored
    split at stored
    next =>
      cases stored
      cases confirmed
    next => exact paid id later stored confirmed
  | @confirmed payment _ found pending checked made same =>
    rw [same, Table.row_save] at stored
    split at stored
    next =>
      cases stored
      obtain ⟨transfer, listed, describes⟩ := truthful payment found pending checked
      exact .inr (paidFor_of_checked checked made listed describes)
    next => exact paid id later stored confirmed

/-- In every sequence of calls whose bodies are true wherever they pass the
checks, a payment becomes CONFIRMED only if the ledger has paid it. -/
theorem confirmed_payments_paid (columns : Columns) (ledger : Set Transfer)
    (start : World) (calls : List ManualCall)
    (truthful : Along (manualStep columns) (Truthful columns ledger) start calls) :
    PaidSince ledger start (run (manualStep columns) start calls) := by
  have preserved : ∀ world call, PaidSince ledger start world → Truthful columns ledger world call →
        PaidSince ledger start (manualStep columns world call) :=
    fun _ _ => paidSince_step
  exact run_invariant preserved (fun _ _ found _ => .inl found) truthful

end

/-- Columns that keep texts as they are. -/
def plainColumns : Columns where
  text
    | .string text => text
    | _ => ""
  key text := text.length
  count _ := .error (.error "invalid input syntax for type integer")
  time _ := none

/-- A payment of 20 XLM to the wallet under the key 6 waits for its
transfer. -/
def waitingShop : World :=
  ({ openShop with
    db := { Database.empty with
      orders := .save .empty
        { id := 0, items := [], totalAmount := 20, buyerId := 7
          currency := .XLM } } }).withPayment
    { id := 0, orderId := 0, amount := 20, currency := .XLM
      destinationWalletAddress := 6, buyerId := 7 }

/-- What a client writes who has made the transfer, or says so. -/
def transferBody : Json := .object [("id", .string "transfer"), ("to", .string "GWALLT"),
    ("amount", .string "20.0"), ("asset_code", .string "xlm")]

def transferCall : ManualCall where
  paymentId := 0
  body := transferBody
  now := 1000

/-- The transfer that was made. -/
def waitedTransfer : Transfer where
  id := "transfer"
  destination := 6
  amount := 20
  asset := "XLM"

theorem waiting_currency {payment : Payment}
    (found : waitingShop.db.payments.row 0 = some payment) :
    payment.currency = .XLM := by
  cases found
  rfl

theorem transferBody_describes {payment : Payment} (currency : payment.currency = .XLM) :
    Describes plainColumns payment transferBody waitedTransfer where
  id := by decide
  destination := by
    have written : transferBody.member "to" = some (.string "GWALLT") := rfl
    rintro text found
    cases written.symm.trans found
    decide
  amount := by decide +kernel
  asset := by
    have written : transferBody.member "asset_code" = some (.string "xlm") := rfl
    rw [currency, if_neg (by decide)]
    rintro code found
    cases written.symm.trans found
    decide +kernel

theorem true_body_confirms :
    PaidSince {waitedTransfer} waitingShop
      (run (manualStep plainColumns) waitingShop [transferCall]) :=
  confirmed_payments_paid plainColumns {waitedTransfer} waitingShop [transferCall]
    ⟨fun _ found _ _ => ⟨waitedTransfer, rfl,
      transferBody_describes (waiting_currency found)⟩, trivial⟩

/-- Nothing has been transferred, and the payment is CONFIRMED by what the
client writes. -/
theorem invented_transfer_confirms :
    ¬ PaidSince ∅ waitingShop (run (manualStep plainColumns) waitingShop [transferCall]) := by
  have confirmed : ((run (manualStep plainColumns) waitingShop
      [transferCall]).db.payments.row 0).map Payment.status =
      some .confirmed := by decide +kernel
  have waiting : (waitingShop.db.payments.row 0).map Payment.status ≠
      some .confirmed := by decide
  obtain ⟨payment, stored, status⟩ := Option.map_eq_some_iff.mp confirmed
  intro paid
  rcases paid 0 payment stored status with before | ⟨_, listed, _⟩
  · exact waiting (Option.map_eq_some_iff.mpr ⟨payment, before, status⟩)
  · exact listed

end MarketX.Commerce
