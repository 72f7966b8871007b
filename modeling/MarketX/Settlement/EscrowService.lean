/-
Module: MarketX.Settlement.EscrowService
Purpose: The escrow service (`escrowes/escrow.service.ts`), and the daily job
  that releases escrows whose order was delivered seven days ago
  (`scheduler/escrow-auto-release.task.ts`).
Trusted boundary: human-reviewed model of the source
Main exports: escrowTransitionValidator, createEscrow, releaseFunds, releasePartial
-/
import MarketX.Settlement.World

namespace MarketX.Settlement

open Effects

def escrowTransitionValidator : StatusTransitionValidator EscrowStatus where
  validTransitions
    | .pending => [.locked, .cancelled]
    | .locked => [.released, .refunded, .frozen, .partiallyReleased]
    | .released => []
    | .refunded => []
    | .cancelled => []
    | .frozen => [.locked, .refunded]
    | .partiallyReleased => [.released, .refunded]
  entityName := "Escrow"

structure CreateEscrowDto where
  orderId : Id
  buyerPublicKey : PublicKey
  sellerPublicKey : PublicKey
  amount : Amount
deriving DecidableEq

structure ReleaseEscrowDto where
  escrowId : Id
  deliveryProof : String
deriving DecidableEq

structure RefundEscrowDto where
  escrowId : Id
  reason : String
deriving DecidableEq

/-- The two shares of `adminReleaseFunds`. -/
structure Distribution where
  toSeller : Amount
  toBuyer : Amount
deriving DecidableEq

structure EscrowResponseDto where
  id : Id
  orderId : Id
  buyerPublicKey : PublicKey
  sellerPublicKey : PublicKey
  amount : Amount
  escrowAccountPublicKey : PublicKey
  status : EscrowStatus
  lockTransactionHash : Option TxHash
  releaseTransactionHash : Option TxHash
  refundTransactionHash : Option TxHash
deriving DecidableEq

def mapToResponse (escrow : EscrowEntity) : EscrowResponseDto where
  id := escrow.id
  orderId := escrow.orderId
  buyerPublicKey := escrow.buyerPublicKey
  sellerPublicKey := escrow.sellerPublicKey
  amount := escrow.amount
  escrowAccountPublicKey := escrow.escrowAccountPublicKey
  status := escrow.status
  lockTransactionHash := escrow.lockTransactionHash
  releaseTransactionHash := escrow.releaseTransactionHash
  refundTransactionHash := escrow.refundTransactionHash

def findEscrowOrFail (id : Id) : Service EscrowEntity := do
  match ← escrowRepository.findOne id with
  | none => throw (.notFound s!"Escrow not found: {id}")
  | some escrow => pure escrow

/-- The source account is loaded before the payment is put together. -/
def buildTransaction (source destination : PublicKey) (amount : Amount) :
    Service Transaction := do
  stellarServer.loadAccount source
  pure { source, destination, amount }

def submitTransaction (tx : Transaction) : Service TxHash := stellarServer.submitTransaction tx

def createEscrow (dto : CreateEscrowDto) : Service EscrowResponseDto := do
  if dto.amount ≤ 0 then
    throw (.badRequest "Amount must be positive")
  if dto.buyerPublicKey = dto.sellerPublicKey then
    throw (.badRequest "Buyer and seller cannot be the same")
  let escrowKeypair ←
    keypairRandom [dto.buyerPublicKey, dto.sellerPublicKey]
  let savedEscrow ← escrowRepository.insert
    { id := 0
      orderId := dto.orderId
      buyerPublicKey := dto.buyerPublicKey
      sellerPublicKey := dto.sellerPublicKey
      amount := dto.amount
      escrowAccountPublicKey := escrowKeypair
      status := .pending }
  let lockTx ← buildTransaction dto.buyerPublicKey escrowKeypair dto.amount
  let txHash ← submitTransaction lockTx
  let locked :=
    { savedEscrow with lockTransactionHash := some txHash, status := .locked }
  escrowRepository.save locked
  pure (mapToResponse locked)

def releaseFunds (dto : ReleaseEscrowDto) : Service EscrowResponseDto := do
  let escrow ← findEscrowOrFail dto.escrowId
  ofExcept (escrowTransitionValidator.validate escrow.status .released)
  let tx ← buildTransaction escrow.escrowAccountPublicKey escrow.sellerPublicKey escrow.amount
  let hash ← submitTransaction tx
  let now ← dateNow
  let released :=
    { escrow with
      releaseTransactionHash := some hash
      status := .released
      deliveryConfirmedAt := some now }
  escrowRepository.save released
  pure (mapToResponse released)

/-- One leg of a two-leg payout: nothing is sent unless the share is
positive. -/
def payShare (escrow : EscrowEntity) (destination : PublicKey)
    (share : Amount) : Service (Option TxHash) := do
  if share > 0 then
    let tx ←
      buildTransaction escrow.escrowAccountPublicKey destination share
    let hash ← submitTransaction tx
    pure (some hash)
  else
    pure none

/-- The `catch` block of a two-leg payout.  It stores the entity as the `try`
block left it, so a failed final save is tried again with the settled
entity. -/
def payoutFailed (heading : String) (escrow : EscrowEntity)
    (error : HttpException) : Service EscrowResponseDto := do
  escrowRepository.save { escrow with errorMessage := some error.message }
  throw (.badRequest s!"{heading}: {error.message}")

/-- The `try`/`catch` of the two-leg payouts: seller's leg, buyer's leg, one
save of the settled entity. -/
def payBoth (heading : String) (escrow : EscrowEntity) (toSeller toBuyer : Amount)
    (settled : Option TxHash → Option TxHash → Date → EscrowEntity) :
    Service EscrowResponseDto := do
  let legs : Service (Option TxHash × Option TxHash) := do
    let releaseHash ← payShare escrow escrow.sellerPublicKey toSeller
    let refundHash ← payShare escrow escrow.buyerPublicKey toBuyer
    pure (releaseHash, refundHash)
  match ← legs.attempt with
  | .error error => payoutFailed heading escrow error
  | .ok (releaseHash, refundHash) =>
    let now ← dateNow
    let escrow := settled releaseHash refundHash now
    match ← (escrowRepository.save escrow).attempt with
    | .error error => payoutFailed heading escrow error
    | .ok _ => pure (mapToResponse escrow)

def releasePartial (escrowId : Id) (releasedAmount : Amount) :
    Service EscrowResponseDto := do
  let escrow ← findEscrowOrFail escrowId
  ofExcept (escrowTransitionValidator.validate escrow.status .partiallyReleased)
  if releasedAmount ≤ 0 then
    throw (.badRequest "Released amount must be positive")
  if releasedAmount > escrow.amount then
    throw (.badRequest "Released amount exceeds escrow balance")
  let refundAmount := escrow.amount - releasedAmount
  payBoth "Failed partial release" escrow releasedAmount refundAmount
    fun releaseHash refundHash _ =>
      { escrow with
        releaseTransactionHash := releaseHash
        refundTransactionHash := refundHash
        releasedAmount := releasedAmount
        refundedAmount := refundAmount
        status :=
          if refundAmount > 0 then .partiallyReleased else .released }

def freezeEscrow (escrowId : Id) : Service EscrowResponseDto := do
  let escrow ← findEscrowOrFail escrowId
  ofExcept (escrowTransitionValidator.validate escrow.status .frozen)
  let frozen := { escrow with status := .frozen }
  escrowRepository.save frozen
  pure (mapToResponse frozen)

def adminReleaseFunds (escrowId : Id) (distribution : Distribution) :
    Service EscrowResponseDto := do
  let escrow ← findEscrowOrFail escrowId
  if escrow.status ≠ .frozen then
    throw (.badRequest ("Can only release frozen escrow, " ++ s!"current status: {escrow.status}"))
  let totalAmount := escrow.amount
  if distribution.toSeller + distribution.toBuyer ≠ totalAmount then
    throw (.badRequest "Distribution must equal total escrow amount")
  payBoth "Failed to release frozen escrow" escrow distribution.toSeller
    distribution.toBuyer fun releaseHash refundHash now =>
      { escrow with
        releaseTransactionHash := releaseHash
        refundTransactionHash := refundHash
        status := .released
        deliveryConfirmedAt := some now }

def refundBuyer (dto : RefundEscrowDto) : Service EscrowResponseDto := do
  let escrow ← findEscrowOrFail dto.escrowId
  ofExcept (escrowTransitionValidator.validate escrow.status .refunded)
  let tx ← buildTransaction escrow.escrowAccountPublicKey escrow.buyerPublicKey escrow.amount
  let hash ← submitTransaction tx
  let now ← dateNow
  let refunded :=
    { escrow with
      refundTransactionHash := some hash
      refundedAmount := escrow.amount
      releasedAmount := 0
      status := .refunded
      cancelledAt := some now }
  escrowRepository.save refunded
  pure (mapToResponse refunded)

def getEscrow (escrowId : Id) : Service EscrowResponseDto := do
  let escrow ← findEscrowOrFail escrowId
  pure (mapToResponse escrow)

/-- A call of the escrow service that can write. -/
inductive EscrowCall where
  | createEscrow (dto : CreateEscrowDto)
  | releaseFunds (dto : ReleaseEscrowDto)
  | releasePartial (escrowId : Id) (releasedAmount : Amount)
  | freezeEscrow (escrowId : Id)
  | adminReleaseFunds (escrowId : Id) (distribution : Distribution)
  | refundBuyer (dto : RefundEscrowDto)
deriving DecidableEq

def EscrowCall.program : EscrowCall → Service EscrowResponseDto
  | .createEscrow dto => Settlement.createEscrow dto
  | .releaseFunds dto => Settlement.releaseFunds dto
  | .releasePartial escrowId amount => Settlement.releasePartial escrowId amount
  | .freezeEscrow escrowId => Settlement.freezeEscrow escrowId
  | .adminReleaseFunds escrowId distribution => Settlement.adminReleaseFunds escrowId distribution
  | .refundBuyer dto => Settlement.refundBuyer dto

/-- The escrow a call names; creation names none. -/
def EscrowCall.escrowId? : EscrowCall → Option Id
  | .createEscrow _ => none
  | .releaseFunds dto => some dto.escrowId
  | .releasePartial escrowId _ | .freezeEscrow escrowId
  | .adminReleaseFunds escrowId _ => some escrowId
  | .refundBuyer dto => some dto.escrowId

/-- One turn of the loop of `findEligibleEscrows`.  The clock is read again
for each escrow. -/
def checkEligible (eligibleEscrows : List EscrowEntity)
    (escrow : EscrowEntity) : Service (List EscrowEntity) := do
  match ← orderRepository.findOne escrow.orderId with
  | none => pure eligibleEscrows
  | some order =>
    if order.status ≠ .delivered then
      pure eligibleEscrows
    else
      match order.deliveredAt with
      | none => pure eligibleEscrows
      | some deliveredAt =>
        let now ← dateNow
        -- `Math.floor` of the quotient
        let daysSinceDelivery :=
          (now - deliveredAt) / (24 * 60 * 60 * 1000)
        if daysSinceDelivery ≥ 7 then
          pure (eligibleEscrows ++ [escrow])
        else
          pure eligibleEscrows

def findEligibleEscrows : Service (List EscrowEntity) := do
  let lockedEscrows ← escrowRepository.findLocked
  lockedEscrows.foldlM checkEligible []

/-- The escrow is the one the snapshot of `findEligibleEscrows` holds; with
an active dispute the whole of it is saved back. -/
def processAutoRelease (escrow : EscrowEntity) : Service Unit := do
  match ← disputeRepo.findActive escrow.id with
  | some _ => escrowRepository.save { escrow with disputeFlag := true }
  | none =>
    let releasedEscrow ← releaseFunds
      { escrowId := escrow.id
        deliveryProof :=
          "auto-release: 7-day grace period elapsed without dispute" }
    let releasedAt ← dateNow
    emitPaymentReleased
      { escrowId := escrow.id
        orderId := escrow.orderId
        sellerPublicKey := escrow.sellerPublicKey
        amount := escrow.amount
        transactionHash := releasedEscrow.releaseTransactionHash
        releasedAt
        autoReleased := true }

/-- One turn of the loop over the eligible escrows: a failure is counted and
the loop goes on. -/
def releaseOne (counts : ℕ × ℕ) (escrow : EscrowEntity) :
    Service (ℕ × ℕ) := do
  match ← (processAutoRelease escrow).attempt with
  | .ok _ => pure (counts.1 + 1, counts.2)
  | .error _ => pure (counts.1, counts.2 + 1)

/-- Released and failed. -/
def triggerManualRelease : Service (ℕ × ℕ) := do
  let eligibleEscrows ← findEligibleEscrows
  eligibleEscrows.foldlM releaseOne (0, 0)

/-- The cron job counts in the same way, for its log, and throws nothing. -/
def handleEscrowAutoRelease : Service Unit := do
  match ← triggerManualRelease.attempt with
  | .ok _ => pure ()
  | .error _ => pure ()

end MarketX.Settlement
