/-
Module: MarketX.Settlement.DisputesService
Purpose: The dispute service (`disputes/disputes.service.ts`) and its state
  machine (`disputes/state-machine/dispute.state-machine.ts`).
Trusted boundary: human-reviewed model of the source
Main exports: DisputeStateMachine.canTransition, DisputeStateMachine.shouldAutoResolve
-/
import MarketX.Settlement.EscrowService

namespace MarketX.Settlement

open Effects

/-! ### The state machine -/

namespace DisputeStateMachine

def allowedTransitions : DisputeStatus → List DisputeStatus
  | .open => [.escalated, .autoResolved, .resolved, .rejected]
  | .escalated => [.resolved, .rejected]
  | .resolved => []
  | .rejected => []
  | .autoResolved => []

def canTransition (source target : DisputeStatus) : Bool := target ∈ allowedTransitions source

/-- Open for some days without evidence from the respondent.  The default of
`autoResolveDays` is 3. -/
def shouldAutoResolve (dispute : Dispute) (evidences : List Evidence)
    (now : Date) (autoResolveDays : ℚ := 3) : Bool :=
  if dispute.status ≠ .open then
    false
  else
    let msSinceCreated := now - dispute.createdAt
    let daysSinceCreated := (msSinceCreated : ℚ) / (1000 * 60 * 60 * 24)
    let respondentEvidence := evidences.any fun e => e.submittedBy = dispute.respondentId
    daysSinceCreated ≥ autoResolveDays && !respondentEvidence

end DisputeStateMachine

/-! ### The service -/

structure CreateDisputeDto where
  transactionId : Id
  complainantId : Id
  respondentId : Id
  reason : String
  escrowId : Option Id := none
  description : Option String := none
  imageUrls : Option String := none
deriving DecidableEq

structure SubmitEvidenceDto where
  disputeId : Id
  submittedBy : Id
  fileUrl : String
  description : Option String := none
deriving DecidableEq

structure EscalateDisputeDto where
  disputeId : Id
  reason : String
deriving DecidableEq

/-- Without the note, which is no column of the table. -/
structure UpdateDisputeDto where
  disputeId : Id
  status : Option DisputeStatus := none
deriving DecidableEq

inductive DisputeResolutionType where
  | fullToBuyer
  | fullToSeller
  | split5050
  | customSplit
deriving DecidableEq, Inhabited

/-- The service does not read the resolution type. -/
structure ResolveDisputeDto where
  adminDecision : String
  refundAmount : Option Amount := none
  resolutionType : Option DisputeResolutionType := none
deriving DecidableEq

/-- `@Min(0)` on the refund, if there is one; the other decorators are in the
types. -/
def ResolveDisputeDto.valid (dto : ResolveDisputeDto) : Bool :=
  dto.refundAmount.all fun refundAmount => 0 ≤ refundAmount

/-- The row is saved before the escrow is frozen, and stays when freezing
fails. -/
def createDispute (dto : CreateDisputeDto) : Service Dispute := do
  let savedDispute ← disputeRepo.insert
    { id := 0
      transactionId := dto.transactionId
      complainantId := dto.complainantId
      respondentId := dto.respondentId
      reason := dto.reason
      status := .open
      createdAt := 0
      escrowId := dto.escrowId
      description := dto.description
      imageUrls := dto.imageUrls }
  match dto.escrowId with
  | none => pure savedDispute
  | some escrowId =>
    let freeze : Service Unit := do
      let _ ← freezeEscrow escrowId
      escrowRepository.updateDisputeFlag escrowId true
    match ← freeze.attempt with
    | .ok _ => pure savedDispute
    | .error error => throw (.badRequest s!"Failed to freeze escrow: {error.message}")

def getDisputeById (id : Id) : Service Dispute := do
  match ← disputeRepo.findOne id with
  | none => throw (.notFound "Dispute not found")
  | some dispute => pure dispute

def submitEvidence (dto : SubmitEvidenceDto) : Service Unit := do
  let dispute ← getDisputeById dto.disputeId
  if dispute.status = .resolved ∨ dispute.status = .rejected then
    throw (.badRequest "Cannot submit evidence to a closed dispute")
  evidenceRepo.insert
    { disputeId := dto.disputeId
      submittedBy := dto.submittedBy
      fileUrl := dto.fileUrl
      description := dto.description }

def escalateDispute (dto : EscalateDisputeDto) (userId : Id) :
    Service Dispute := do
  let dispute ← getDisputeById dto.disputeId
  if dispute.complainantId ≠ userId then
    throw (.forbidden "Only the complainant can escalate the dispute")
  if !DisputeStateMachine.canTransition dispute.status .escalated then
    throw (.badRequest "Cannot escalate dispute from current status")
  let escalated := { dispute with status := .escalated }
  disputeRepo.save escalated
  pure escalated

def adminUpdateDispute (dto : UpdateDisputeDto) : Service Dispute := do
  let dispute ← getDisputeById dto.disputeId
  match dto.status with
  | none =>
    disputeRepo.save dispute
    pure dispute
  | some status =>
    if !DisputeStateMachine.canTransition dispute.status status then
      throw (.badRequest "Invalid status transition")
    let updated := { dispute with status }
    disputeRepo.save updated
    pure updated

/-- One turn of the loop of `autoResolveDisputes`. -/
def autoResolveOne (resolvedCount : ℕ) (item : Dispute × List Evidence) :
    Service ℕ := do
  let now ← dateNow
  if DisputeStateMachine.shouldAutoResolve item.1 item.2 now then
    disputeRepo.save { item.1 with status := .autoResolved }
    pure (resolvedCount + 1)
  else
    pure resolvedCount

def autoResolveDisputes : Service ℕ := do
  let openDisputes ← disputeRepo.findOpen
  openDisputes.foldlM autoResolveOne 0

def adminResolveDispute (dto : ResolveDisputeDto) (disputeId : Id) :
    Service Dispute := do
  let dispute ← getDisputeById disputeId
  if !DisputeStateMachine.canTransition dispute.status .resolved then
    throw (.badRequest "Cannot resolve dispute from current status")
  let resolved := { dispute with status := .resolved }
  match dispute.escrowId with
  | none =>
    disputeRepo.save resolved
    pure resolved
  | some escrowId =>
    let distribute : Service EscrowResponseDto := do
      let escrow ← findEscrowOrFail escrowId
      let totalAmount := escrow.amount
      let refundAmount := dto.refundAmount.getD 0
      adminReleaseFunds escrowId { toSeller := totalAmount - refundAmount, toBuyer := refundAmount }
    match ← distribute.attempt with
    | .error error => throw (.badRequest s!"Failed to distribute funds: {error.message}")
    | .ok _ =>
      disputeRepo.save resolved
      pure resolved

end MarketX.Settlement
