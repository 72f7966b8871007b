/-
Module: MarketX.Commerce.PaymentsService
Purpose: The payments service (`payments/payments.service.ts`) with the part
  of the rewards service (`rewards/rewards.service.ts`) it calls.
Trusted boundary: human-reviewed model of the source
Main exports: RewardsService.applyPointsToCheckout, initiatePayment
-/
import Mathlib.Data.Rat.Floor
import MarketX.Commerce.World

namespace MarketX.Commerce

open Effects

/-! ### Reward points -/

namespace RewardsService

/-- 100 points are one dollar. -/
def pointsToDollarConversion : ℚ := 100

def getUserBalance (userId : Id) : Service ℤ := await (.sumPoints userId)

structure CreateRewardDto where
  userId : Id
  points : ℤ
  transactionType : Option PointsTransactionType := none
  description : Option String := none
  referenceId : Option Id := none
  referenceType : Option String := none

def createReward (dto : CreateRewardDto) : Service RewardPoints := do
  let currentBalance ← getUserBalance dto.userId
  let newBalance := currentBalance + dto.points
  if dto.transactionType = some .redeemed ∧ currentBalance < dto.points then
    throw (.badRequest "Insufficient reward points balance")
  let reward : RewardPoints :=
    { userId := dto.userId
      points := dto.points
      transactionType := dto.transactionType.getD .earned
      description := dto.description
      referenceId := dto.referenceId
      referenceType := dto.referenceType
      balanceAfter := newBalance }
  rewardsRepository.insert reward
  pure reward

structure PointsResult where
  discountAmount : Amount
  pointsUsed : ℤ
  remainingBalance : ℤ

def applyPointsToCheckout (userId : Id) (pointsToUse : ℚ)
    (orderTotal : Amount) : Service PointsResult := do
  let currentBalance ← getUserBalance userId
  if (currentBalance : ℚ) < pointsToUse then
    throw (.badRequest "Insufficient reward points balance")
  let maxDiscountFromPoints := pointsToUse / pointsToDollarConversion
  let discountAmount := min maxDiscountFromPoints orderTotal
  let actualPointsUsed := ⌊discountAmount * pointsToDollarConversion⌋
  let _ ← createReward
    { userId
      points := -actualPointsUsed
      transactionType := some .redeemed
      description := some s!"Applied {actualPointsUsed} points to checkout"
      referenceType := some "checkout" }
  let remainingBalance ← getUserBalance userId
  pure { discountAmount, pointsUsed := actualPointsUsed, remainingBalance }

end RewardsService

/-! ### Payments -/

structure InitiatePaymentDto where
  orderId : Id
  currency : Currency
  timeoutMinutes : Option ℤ := none
  pointsToUse : Option ℚ := none
deriving DecidableEq

structure PaymentResponseDto where
  id : Id
  orderId : Id
  amount : Amount
  currency : Currency
  status : PaymentStatus
  stellarTransactionId : Option String
  destinationWalletAddress : PublicKey
  sourceWalletAddress : Option PublicKey
  confirmationCount : ℕ
  confirmedAt : Option Date
  expiresAt : Option Date
deriving DecidableEq

namespace PaymentsService

def mapToResponseDto (payment : Payment) : PaymentResponseDto where
  id := payment.id
  orderId := payment.orderId
  amount := payment.amount
  currency := payment.currency
  status := payment.status
  stellarTransactionId := payment.stellarTransactionId
  destinationWalletAddress := payment.destinationWalletAddress
  sourceWalletAddress := payment.sourceWalletAddress
  confirmationCount := payment.confirmationCount
  confirmedAt := payment.confirmedAt
  expiresAt := payment.expiresAt

/-- What is left to pay after the reward points.  Points that cannot be
redeemed are not used. -/
def payableAmount (order : Order) (pointsToUse : Option ℚ) :
    Service Amount := do
  let finalAmount := order.totalAmount
  match pointsToUse with
  | none => pure finalAmount
  | some points =>
    if points > 0 then
      match ← (RewardsService.applyPointsToCheckout order.buyerId points finalAmount).attempt with
      | .ok result => pure (finalAmount - result.discountAmount)
      | .error _ => pure finalAmount
    else
      pure finalAmount

def initiatePayment (dto : InitiatePaymentDto) :
    Service PaymentResponseDto := do
  match ← ordersRepository.findOne dto.orderId with
  | none => throw (.notFound s!"Order with ID \"{dto.orderId}\" not found")
  | some order =>
    if order.status = .manualReview then
      throw (.badRequest (s!"Order {order.id} is under MANUAL_REVIEW due to fraud risk; " ++
          "payment is halted"))
    if order.status ≠ .pending then
      throw (.badRequest "Order must be in PENDING status to initiate payment")
    if order.currency ≠ dto.currency then
      throw (.badRequest (s!"Payment currency {dto.currency} must match order currency " ++
          s!"{order.currency}"))
    match ← paymentsRepository.findPending dto.orderId with
    | some existingPayment => pure (mapToResponseDto existingPayment)
    | none =>
      let finalAmount ← payableAmount order dto.pointsToUse
      match ← walletsRepository.findOne order.buyerId with
      | none => throw (.notFound "Wallet not found for buyer")
      | some wallet =>
        -- `|| 30`: zero counts as missing
        let timeoutMinutes :=
          (dto.timeoutMinutes.filter (· ≠ 0)).getD 30
        let now ← dateNow
        let savedPayment ← paymentsRepository.insert
          { id := 0
            orderId := dto.orderId
            amount := finalAmount
            currency := dto.currency
            status := .pending
            destinationWalletAddress := wallet.publicKey
            timeoutMinutes
            expiresAt := some (now + timeoutMinutes * (60 * 1000))
            buyerId := order.buyerId }
        emit (.paymentInitiated savedPayment.id dto.orderId
          wallet.publicKey savedPayment.amount dto.currency)
        pure (mapToResponseDto savedPayment)

/-- The error message of a transaction that does not fit, or `none`.  A
comparison with `NaN` is false, so an unreadable amount or date passes. -/
def checkTransaction (payment : Payment) (transactionData : TransactionData)
    (now : Date) : Option String :=
  let tolerance : ℚ := 1 / 10000
  let shown {α : Type} [ToString α] (value : Option α) : String :=
    (value.map toString).getD "undefined"
  if transactionData.to ≠ some payment.destinationWalletAddress then
    some (s!"Transaction destination {shown transactionData.to} does not " ++
      s!"match payment destination {payment.destinationWalletAddress}")
  else if transactionData.amount.any fun amount =>
      |amount - payment.amount| > tolerance then
    some (s!"Transaction amount {shown transactionData.amount} does not " ++
      s!"match expected amount {payment.amount}")
  else if payment.currency = .USD then
    none
  else
    match transactionData.assetCode with
    | none => some s!"Transaction asset is required for {payment.currency} payments"
    | some code =>
      if code = "" then
        some s!"Transaction asset is required for {payment.currency} payments"
      else
        -- asset codes are ASCII
        let assetCode := code.toUpper
        if assetCode ≠ toString payment.currency then
          some (s!"Transaction asset {assetCode} does not match payment " ++
            s!"currency {payment.currency}")
        else
          match transactionData.createdAt with
          | none => none
          | some createdAt =>
            let ageMinutes := ((now - createdAt : ℤ) : ℚ) / (1000 * 60)
            if ageMinutes > payment.timeoutMinutes then
              some s!"Transaction is too old ({ageMinutes} minutes)"
            else
              none

def validateTransaction (payment : Payment)
    (transactionData : TransactionData) : Service (Option String) := do
  let now ← dateNow
  pure (checkTransaction payment transactionData now)

/-- The payment as a failed validation leaves it. -/
def failedPayment (payment : Payment) (errorMessage : String) (now : Date) :
    Payment :=
  { payment with
    status := .failed
    failureReason := some errorMessage
    failedAt := some now }

/-- The payment as a confirmation leaves it. -/
def confirmedPayment (payment : Payment) (transactionData : TransactionData)
    (now : Date) : Payment :=
  { payment with
    status := .confirmed
    confirmedAt := some now
    stellarTransactionId := transactionData.id
    sourceWalletAddress := transactionData.sourceAccount
    stellarTransactionData := some transactionData
    confirmationCount := (transactionData.confirmations.filter (· ≠ 0)).getD 1 }

/-- The order as a confirmation leaves it. -/
def paidOrder (order : Order) (now : Date) : Order :=
  { order with
    status := .paid
    paymentStatus := .paid
    confirmedAt := some now }

def verifyAndConfirmPayment (paymentId : Id)
    (transactionData : TransactionData) : Service PaymentResponseDto := do
  match ← paymentsRepository.findWithOrder paymentId with
  | none => throw (.notFound s!"Payment with ID \"{paymentId}\" not found")
  | some (payment, order?) =>
    if payment.status ≠ .pending then
      throw (.badRequest "Payment is no longer in PENDING status")
    if order?.any fun order => order.status = .manualReview then
      throw (.badRequest (s!"Payment for order {payment.orderId} is blocked: order is " ++
          "under MANUAL_REVIEW"))
    match ← validateTransaction payment transactionData with
    | some errorMessage =>
      let now ← dateNow
      let payment := failedPayment payment errorMessage now
      paymentsRepository.save payment
      emit (.paymentFailed paymentId payment.buyerId payment.orderId payment.amount errorMessage)
      pure (mapToResponseDto payment)
    | none =>
      let now ← dateNow
      let payment := confirmedPayment payment transactionData now
      paymentsRepository.save payment
      match order? with
      | none => throw (.error "Cannot set properties of null (setting 'status')")
      | some order =>
        let now ← dateNow
        ordersRepository.save (paidOrder order now)
        emit (.paymentConfirmed paymentId payment.buyerId
          payment.orderId payment.amount payment.currency (payment.stellarTransactionId.getD ""))
        pure (mapToResponseDto payment)

/-- The payment as a timeout leaves it. -/
def timedOutPayment (payment : Payment) (now : Date) : Payment :=
  { payment with
    status := .timeout
    failureReason := some
      "Payment timeout - no confirmation received within expected time"
    failedAt := some now }

def handlePaymentTimeout (paymentId : Id) : Service PaymentResponseDto := do
  match ← paymentsRepository.findOne paymentId with
  | none => throw (.notFound s!"Payment with ID \"{paymentId}\" not found")
  | some payment =>
    if payment.status = .pending then
      let now ← dateNow
      let timedOut := timedOutPayment payment now
      paymentsRepository.save timedOut
      emit (.paymentTimeout paymentId timedOut.orderId)
      pure (mapToResponseDto timedOut)
    else
      pure (mapToResponseDto payment)

end PaymentsService

end MarketX.Commerce
