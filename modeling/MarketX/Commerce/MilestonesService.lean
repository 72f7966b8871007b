/-
Module: MarketX.Commerce.MilestonesService
Purpose: The milestones service (`milestones/milestones.service.ts`): the
  parts in which the money of an order is released, and the runs of its calls.
Trusted boundary: human-reviewed model of the source
Main exports: CreateMilestoneDto, ReleaseMilestoneDto, UpdateMilestoneStatusDto
-/
import Mathlib.Algebra.Ring.Rat
import MarketX.Effects.Runs
import MarketX.Commerce.World

namespace MarketX.Commerce

open Effects

/-- An interface: nothing checks the amounts at run time. -/
structure CreateMilestoneDto where
  title : String
  description : String
  amount : Amount
  percentage : Amount
  type : MilestoneType
  trigger : MilestoneTrigger
  autoRelease : Bool
  releaseConditions : Option (List String) := none
  requiredDocuments : Option (List String) := none
  sortOrder : ℕ
deriving DecidableEq

structure ReleaseDocument where
  id : String
  name : String
  url : String
deriving DecidableEq

structure ReleaseMilestoneDto where
  milestoneId : Id
  approvedBy : String
  notes : Option String := none
  documents : Option (List ReleaseDocument) := none
deriving DecidableEq

structure DisputeDetailsDto where
  reason : String
  description : String
  evidence : List String
  raisedBy : Option String := none
deriving DecidableEq

structure UpdateMilestoneStatusDto where
  milestoneId : Id
  status : MilestoneStatus
  adminNotes : Option String := none
  rejectionReason : Option String := none
  disputeDetails : Option DisputeDetailsDto := none
deriving DecidableEq

namespace MilestonesService

/-- A text that is there and not empty. -/
def given (text : Option String) : Option String := text.filter (· ≠ "")

def newMilestone (orderId : Id) (milestoneData : CreateMilestoneDto) (index : ℕ) : Milestone where
  id := 0
  orderId
  title := milestoneData.title
  description := milestoneData.description
  amount := milestoneData.amount
  percentage := milestoneData.percentage
  status := .pending
  type := milestoneData.type
  trigger := milestoneData.trigger
  autoRelease := milestoneData.autoRelease
  requiredDocuments := milestoneData.requiredDocuments
  releaseConditions := milestoneData.releaseConditions
  sortOrder :=
    if milestoneData.sortOrder = 0 then index else milestoneData.sortOrder

def createMilestones (orderId : Id) (milestones : List CreateMilestoneDto) :
    Service (List Milestone) := do
  match ← ordersRepository.findOne orderId with
  | none => throw (.notFound "Order not found")
  | some order =>
    let totalMilestoneAmount :=
      (milestones.map CreateMilestoneDto.amount).sum
    if totalMilestoneAmount > order.totalAmount then
      throw (.badRequest "Total milestone amounts cannot exceed order total")
    milestoneRepo.insert (milestones.mapIdx fun index milestoneData =>
      newMilestone orderId milestoneData index)

def getMilestoneById (milestoneId : Id) :
    Service (Milestone × Option Order) := do
  match ← milestoneRepo.findOne milestoneId with
  | none => throw (.notFound "Milestone not found")
  | some milestone => pure milestone

/-- The milestone and its order are related by a foreign key; reading the
buyer of a missing one throws. -/
def createMilestoneTransaction (milestone : Milestone) (order : Option Order) : Service Unit :=
  match order with
  | none => throw (.error "Cannot read properties of null")
  | some order =>
    transactionRepository.insert
      { amount := milestone.amount
        description := s!"Milestone release: {milestone.title}"
        senderId := order.buyerId
        receiverId := order.sellerId.getD 0
        type := .transfer
        status := .pending
        metadata :=
          some
            { milestoneId := milestone.id
              orderId := order.id
              milestoneTitle := milestone.title
              releaseType := "milestone" } }

/-- The order with so much released. -/
def releasedOrder (order : Order) (releasedAmount : Amount) : Order :=
  { order with
    releasedAmount
    remainingAmount := order.totalAmount - releasedAmount }

/-- The milestone as its release leaves it. -/
def releasedMilestone (milestone : Milestone)
    (releaseData : ReleaseMilestoneDto) (releasedAt uploadedAt : Date) :
    Milestone :=
  { milestone with
    status := .released
    releasedAt := some releasedAt
    adminNotes := some (releaseData.notes.getD "")
    uploadedDocuments :=
      match releaseData.documents with
      | none => milestone.uploadedDocuments
      | some documents =>
        some (documents.map fun doc =>
          { id := doc.id, name := doc.name, url := doc.url, uploadedAt }) }

section

-- `Number(order.releasedAmount) + amount`, where `amount` is a decimal column
-- as the driver hands it out: a number, or a text, and then the two texts are
-- joined and the column takes the number this reads as
variable (plus : Amount → Amount → Amount)

def updateOrderReleasedAmount (orderId : Id) (amount : Amount) :
    Service Unit := do
  match ← ordersRepository.findOne orderId with
  | none => pure ()
  | some order => ordersRepository.save (releasedOrder order (plus order.releasedAmount amount))

def releaseMilestone (milestoneId : Id) (releaseData : ReleaseMilestoneDto) :
    Service Milestone := do
  let (milestone, order) ← getMilestoneById milestoneId
  if milestone.status ≠ .pending ∧ milestone.status ≠ .approved then
    throw (.badRequest "Milestone cannot be released in current status")
  let releasedAt ← dateNow
  let uploadedAt ← dateNow
  let milestone := releasedMilestone milestone releaseData releasedAt uploadedAt
  milestoneRepo.save milestone
  createMilestoneTransaction milestone order
  updateOrderReleasedAmount plus milestone.orderId milestone.amount
  pure milestone

/-- What throws is logged, and the loop goes on. -/
def processAutomaticReleases : Service Unit := do
  let now ← dateNow
  let pendingMilestones ← milestoneRepo.findDue now
  pendingMilestones.forM fun milestone => do
    let _ ← (releaseMilestone plus milestone.id
      { milestoneId := milestone.id
        approvedBy := "system"
        notes := some
          "Automatic release based on trigger conditions" }).attempt
    pure ()

end

def approveMilestone (milestoneId : Id) (_approvedBy : String)
    (notes : Option String) : Service Milestone := do
  let (milestone, _) ← getMilestoneById milestoneId
  if milestone.status ≠ .pending then
    throw (.badRequest "Milestone cannot be approved in current status")
  let milestone :=
    { milestone with
      status := .approved
      adminNotes := some (notes.getD "") }
  milestoneRepo.save milestone
  pure milestone

def rejectMilestone (milestoneId : Id)
    (rejectionData : UpdateMilestoneStatusDto) : Service Milestone := do
  let (milestone, _) ← getMilestoneById milestoneId
  if milestone.status ≠ .pending ∧ milestone.status ≠ .approved then
    throw (.badRequest "Milestone cannot be rejected in current status")
  let milestone :=
    { milestone with
      status := .rejected
      rejectionReason := some (rejectionData.rejectionReason.getD "")
      adminNotes := some (rejectionData.adminNotes.getD "") }
  milestoneRepo.save milestone
  pure milestone

/-- The status that an update sets: details of a dispute decide it. -/
def updatedStatus (updateData : UpdateMilestoneStatusDto) :
    MilestoneStatus :=
  if updateData.disputeDetails.isSome then .disputed else updateData.status

def updatedMilestone (milestone : Milestone)
    (updateData : UpdateMilestoneStatusDto) (raisedAt : Date) : Milestone :=
  { milestone with
    status := updatedStatus updateData
    adminNotes := (given updateData.adminNotes).or milestone.adminNotes
    rejectionReason :=
      (given updateData.rejectionReason).or milestone.rejectionReason
    disputeDetails :=
      match updateData.disputeDetails with
      | none => milestone.disputeDetails
      | some details =>
        some
          { reason := details.reason
            description := details.description
            evidence := details.evidence
            raisedBy := (given details.raisedBy).getD "system"
            raisedAt } }

def updateMilestoneStatus (milestoneId : Id)
    (updateData : UpdateMilestoneStatusDto) : Service Milestone := do
  let (milestone, _) ← getMilestoneById milestoneId
  let raisedAt ← dateNow
  let milestone := updatedMilestone milestone updateData raisedAt
  milestoneRepo.save milestone
  pure milestone

end MilestonesService

/-! ### Runs -/

/-- A call of the milestones service that writes. -/
inductive MilestoneCall where
  | createMilestones (orderId : Id) (milestones : List CreateMilestoneDto)
  | approveMilestone (milestoneId : Id) (approvedBy : String) (notes : Option String)
  | rejectMilestone (milestoneId : Id) (rejectionData : UpdateMilestoneStatusDto)
  | releaseMilestone (milestoneId : Id) (releaseData : ReleaseMilestoneDto)
  | updateMilestoneStatus (milestoneId : Id) (updateData : UpdateMilestoneStatusDto)
  | processAutomaticReleases
deriving DecidableEq

section

variable (plus : Amount → Amount → Amount)

def MilestoneCall.program : MilestoneCall → Service Unit
  | .createMilestones orderId milestones => do
      let _ ← MilestonesService.createMilestones orderId milestones
      pure ()
  | .approveMilestone milestoneId approvedBy notes => do
      let _ ← MilestonesService.approveMilestone milestoneId approvedBy notes
      pure ()
  | .rejectMilestone milestoneId rejectionData => do
      let _ ← MilestonesService.rejectMilestone milestoneId rejectionData
      pure ()
  | .releaseMilestone milestoneId releaseData => do
      let _ ← MilestonesService.releaseMilestone plus milestoneId releaseData
      pure ()
  | .updateMilestoneStatus milestoneId updateData => do
      let _ ← MilestonesService.updateMilestoneStatus milestoneId updateData
      pure ()
  | .processAutomaticReleases => MilestonesService.processAutomaticReleases plus

/-- One call, in which nothing fails; or time passing, an order being placed
(`OrdersService.create` lets it cost something and has nothing released), and
the release of a milestone being scheduled, which no service does. -/
inductive MilestoneEvent where
  | call (call : MilestoneCall)
  | elapsed (now : Date)
  | placed (order : Order) (positive : 0 < order.totalAmount)
  | scheduled (milestoneId : Id) (releaseAt : Date)

/-- The world, and which milestones are or were RELEASED after a call. -/
structure MilestoneRun where
  world : World
  everReleased : Id → Bool

def handleMilestone (world : World) : MilestoneEvent → World
  | .call call => (commerce.exec (call.program plus) [] world).2
  | .elapsed now => { world with now }
  | .placed order _ =>
    world.withOrder
      { order with
        id := world.db.orders.next
        releasedAmount := 0
        remainingAmount := order.totalAmount }
  | .scheduled milestoneId releaseAt =>
    match world.db.milestones.row milestoneId with
    | none => world
    | some milestone => world.withMilestone { milestone with releaseAt := some releaseAt }

def isReleased (world : World) (id : Id) : Bool :=
  (world.db.milestones.row id).any fun milestone => milestone.status = .released

/-- The run with another world. -/
def MilestoneRun.mark (current : MilestoneRun) (world : World) :
    MilestoneRun where
  world
  everReleased id := current.everReleased id || isReleased world id

def progress (current : MilestoneRun) (event : MilestoneEvent) :
    MilestoneRun := current.mark (handleMilestone plus current.world event)

end

end MarketX.Commerce
