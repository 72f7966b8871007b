/-
Module: MarketX.Commerce.PaymentsController
Purpose: The manual verification of a payment
  (`payments/payments.controller.ts`, `manualVerifyPayment`): what the checks
  of the payments service make of a body that a client has written.
Trusted boundary: human-reviewed model of the source; what a column keeps of
  a JSON value is a parameter
Main exports: Columns, checkBody, confirmedByBody, verifyWith
-/
import MarketX.Commerce.PaymentsService
import MarketX.Numerals.Json

namespace MarketX.Commerce

open Effects Numerals

/-- What the database and the language make of a JSON value: the text a text
column keeps, the key a text is, the integer an integer column keeps, and the
date `new Date` reads. -/
structure Columns where
  text : Json → String
  key : String → PublicKey
  count : Json → Except HttpException ℕ
  time : Json → Option Date

namespace PaymentsService

/-- `transactionData.to === payment.destinationWalletAddress`. -/
def destinationMatches (columns : Columns) (payment : Payment) (body : Json) : Bool :=
  match body.member "to" with
  | some (.string text) => columns.key text = payment.destinationWalletAddress
  | _ => false

/-- `parseFloat(transactionData.amount)`. -/
def transactionAmount (body : Json) : Number :=
  ((body.member "amount").map parseFloat).getD .nan

/-- Off by more than the tolerance; a comparison with `NaN` is false. -/
def amountDiffers (payment : Payment) (body : Json) : Bool :=
  match transactionAmount body with
  | .finite amount => |amount - payment.amount| > 1 / 10000
  | .infinity _ => true
  | .nan => false

/-- The checks of `validateTransaction` on a body. -/
def checkBody (columns : Columns) (payment : Payment) (body : Json)
    (now : Date) : Except HttpException (Option String) :=
  let destination : String :=
    ((body.member "to").map Json.toText).getD "undefined"
  if !destinationMatches columns payment body then
    .ok (some (s!"Transaction destination {destination} does " ++
      s!"not match payment destination {payment.destinationWalletAddress}"))
  else
    if amountDiffers payment body then
      .ok (some (s!"Transaction amount {(transactionAmount body).toText} does " ++
        s!"not match expected amount {payment.amount}"))
    else if payment.currency = .USD then
      .ok none
    else if !truthy (body.member "asset_code") then
      .ok (some s!"Transaction asset is required for {payment.currency} payments")
    else
      match body.member "asset_code" with
      | some (.string code) =>
        let assetCode := code.toUpper
        if assetCode ≠ toString payment.currency then
          .ok (some (s!"Transaction asset {assetCode} does not match " ++
            s!"payment currency {payment.currency}"))
        else
          match (body.member "created_at").bind columns.time with
          | none => .ok none
          | some createdAt =>
            let ageMinutes := ((now - createdAt : ℤ) : ℚ) / (1000 * 60)
            if ageMinutes > payment.timeoutMinutes then
              .ok (some s!"Transaction is too old ({ageMinutes} minutes)")
            else
              .ok none
      | _ => .error (.error "transactionData.asset_code.toUpperCase is not a function")

/-- What is read of a body later on. -/
def dataOf (columns : Columns) (body : Json) : TransactionData where
  id := (body.member "id").map columns.text
  «to» := (body.member "to").map fun value => columns.key (columns.text value)
  sourceAccount := (body.member "source_account").map fun value => columns.key (columns.text value)
  amount := match (body.member "amount").map parseFloat with
    | some (.finite amount) => some amount
    | _ => none
  assetCode := (body.member "asset_code").map columns.text
  createdAt := (body.member "created_at").bind columns.time
  confirmations := (body.member "confirmations").bind fun value =>
    (columns.count value).toOption

/-- `transactionData.confirmations || 1`, as far as the column takes it. -/
def confirmationCountOf (columns : Columns) (body : Json) :
    Except HttpException ℕ :=
  match body.member "confirmations" with
  | none => .ok 1
  | some confirmations =>
    if truthy (some confirmations) then columns.count confirmations
    else .ok 1

/-- The payment as a confirmation by a body leaves it. -/
def confirmedByBody (columns : Columns) (payment : Payment) (body : Json)
    (now : Date) : Except HttpException Payment :=
  (confirmationCountOf columns body).map fun confirmationCount =>
    { confirmedPayment payment (dataOf columns body) now with
      confirmationCount }

/-- `verifyAndConfirmPayment`, with the checks on the transaction and the
confirmed payment left open. -/
def verifyWith (paymentId : Id) (check : Payment → Date → Except HttpException (Option String))
    (confirm : Payment → Date → Except HttpException Payment) :
    Service PaymentResponseDto := do
  match ← paymentsRepository.findWithOrder paymentId with
  | none => throw (.notFound s!"Payment with ID \"{paymentId}\" not found")
  | some (payment, order?) =>
    if payment.status ≠ .pending then
      throw (.badRequest "Payment is no longer in PENDING status")
    if order?.any fun order => order.status = .manualReview then
      throw (.badRequest (s!"Payment for order {payment.orderId} is blocked: order is " ++
          "under MANUAL_REVIEW"))
    let now ← dateNow
    match ← ofExcept (check payment now) with
    | some errorMessage =>
      let now ← dateNow
      let payment := failedPayment payment errorMessage now
      paymentsRepository.save payment
      emit (.paymentFailed paymentId payment.buyerId payment.orderId payment.amount errorMessage)
      pure (mapToResponseDto payment)
    | none =>
      let now ← dateNow
      let payment ← ofExcept (confirm payment now)
      paymentsRepository.save payment
      match order? with
      | none => throw (.error "Cannot set properties of null (setting 'status')")
      | some order =>
        let now ← dateNow
        ordersRepository.save (paidOrder order now)
        emit (.paymentConfirmed paymentId payment.buyerId
          payment.orderId payment.amount payment.currency (payment.stellarTransactionId.getD ""))
        pure (mapToResponseDto payment)

theorem verifyAndConfirmPayment_eq (paymentId : Id) (transactionData : TransactionData) :
    verifyAndConfirmPayment paymentId transactionData = verifyWith paymentId
        (fun payment now => .ok (checkTransaction payment transactionData now)) (fun payment now =>
          .ok (confirmedPayment payment transactionData now)) := by
  refine congrArg (await (.findPaymentWithOrder paymentId) >>= ·) (funext fun found => ?_)
  cases found with
  | none => rfl
  | some found =>
    obtain ⟨payment, order?⟩ := found
    dsimp only
    split
    · rfl
    · split
      · rfl
      · rw [validateTransaction, Program.bind_assoc]
        refine congrArg (await .dateNow >>= ·) (funext fun now => ?_)
        cases checkTransaction payment transactionData now <;> rfl

end PaymentsService

namespace PaymentsController

def manualVerifyPayment (columns : Columns) (paymentId : Id) (body : Json) :
    Service PaymentResponseDto :=
  if !truthy (body.member "id") || !truthy (body.member "amount") then
    throw (.badRequest "Transaction data must include id and amount")
  else
    PaymentsService.verifyWith paymentId (PaymentsService.checkBody columns · body)
      (PaymentsService.confirmedByBody columns · body)

end PaymentsController

end MarketX.Commerce
