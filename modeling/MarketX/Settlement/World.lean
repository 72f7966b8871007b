/-
Module: MarketX.Settlement.World
Purpose: The escrow and dispute rows, the Stellar ledger, and the effects
  through which the escrow service, the dispute service and the auto-release
  job touch them.
Trusted boundary: human-reviewed model of the source
Main exports: EscrowStatus, EscrowEntity, Dispute, Transaction
-/
import MarketX.Entities.Order

namespace MarketX

open Effects

abbrev TxHash := ℕ

inductive EscrowStatus where
  | pending
  | locked
  | released
  | refunded
  | cancelled
  | frozen
  | partiallyReleased
deriving DecidableEq, Inhabited

instance : ToString EscrowStatus where
  toString
    | .pending => "pending"
    | .locked => "locked"
    | .released => "released"
    | .refunded => "refunded"
    | .cancelled => "cancelled"
    | .frozen => "frozen"
    | .partiallyReleased => "partially_released"

/-- A row of `escrow_transactions`, with the defaults of its columns. -/
structure EscrowEntity where
  id : Id
  orderId : Id
  buyerPublicKey : PublicKey
  sellerPublicKey : PublicKey
  amount : Amount
  releasedAmount : Amount := 0
  refundedAmount : Amount := 0
  escrowAccountPublicKey : PublicKey
  lockTransactionHash : Option TxHash := none
  releaseTransactionHash : Option TxHash := none
  refundTransactionHash : Option TxHash := none
  status : EscrowStatus := .pending
  deliveryConfirmedAt : Option Date := none
  cancelledAt : Option Date := none
  errorMessage : Option String := none
  disputeFlag : Bool := false
deriving DecidableEq

instance : Keyed EscrowEntity := ⟨EscrowEntity.id⟩

inductive DisputeStatus where
  | open
  | escalated
  | resolved
  | rejected
  | autoResolved
deriving DecidableEq, Inhabited

instance : ToString DisputeStatus where
  toString
    | .open => "OPEN"
    | .escalated => "ESCALATED"
    | .resolved => "RESOLVED"
    | .rejected => "REJECTED"
    | .autoResolved => "AUTO_RESOLVED"

/-- A row of `disputes`. -/
structure Dispute where
  id : Id
  transactionId : Id
  complainantId : Id
  respondentId : Id
  reason : String
  status : DisputeStatus := .open
  createdAt : Date
  escrowId : Option Id := none
  description : Option String := none
  imageUrls : Option String := none
deriving DecidableEq

instance : Keyed Dispute := ⟨Dispute.id⟩

/-- A row of `evidence`. -/
structure Evidence where
  disputeId : Id
  submittedBy : Id
  fileUrl : String
  description : Option String := none
deriving DecidableEq

/-- A Stellar payment of the native asset. -/
structure Transaction where
  source : PublicKey
  destination : PublicKey
  amount : Amount
deriving DecidableEq

/-- `PaymentReleasedEvent` as the auto-release job emits it. -/
structure PaymentReleasedEvent where
  escrowId : Id
  orderId : Id
  sellerPublicKey : PublicKey
  amount : Amount
  transactionHash : Option TxHash
  releasedAt : Date
  autoReleased : Bool
deriving DecidableEq

namespace Settlement

/-- The database tables the settlement services use, the transactions the
network has accepted (oldest first), the events emitted, and the clock. -/
structure World where
  escrows : Table EscrowEntity
  disputes : Table Dispute
  evidences : List Evidence
  orders : Table Order
  ledger : List Transaction
  events : List PaymentReleasedEvent
  now : Date

/-- A database without rows, and nothing submitted yet. -/
def World.empty : World where
  escrows := .empty
  disputes := .empty
  evidences := []
  orders := .empty
  ledger := []
  events := []
  now := 0

/-- Every key that occurs in a row or in a transaction. -/
def World.knownKeys (world : World) : List PublicKey :=
  (world.escrows.rows.flatMap fun escrow =>
      [escrow.buyerPublicKey, escrow.sellerPublicKey, escrow.escrowAccountPublicKey]) ++
    world.ledger.flatMap fun tx => [tx.source, tx.destination]

/-- A key that is not in the list. -/
def freshKey (known : List ℕ) : ℕ := known.foldr max 0 + 1

theorem lt_freshKey {known : List ℕ} {key : ℕ} (member : key ∈ known) :
    key < freshKey known := by induction known <;> grind [freshKey]

/-- The awaited calls of the settlement services.  An inserted entity has no
key and no creation date yet: those fields are ignored and generated.  `keypairRandom` gives a
key pair nobody holds; the keys the caller already has are passed along,
since they need not be stored anywhere yet. -/
inductive Op where
  | findEscrow (id : Id)
  | insertEscrow (escrow : EscrowEntity)
  | saveEscrow (escrow : EscrowEntity)
  | updateDisputeFlag (escrowId : Id) (disputeFlag : Bool)
  | findLockedEscrows
  | keypairRandom (held : List PublicKey)
  | loadAccount (key : PublicKey)
  | submitTransaction (tx : Transaction)
  | insertDispute (dispute : Dispute)
  | findDispute (id : Id)
  | saveDispute (dispute : Dispute)
  | findOpenDisputes
  | findActiveDispute (escrowId : Id)
  | insertEvidence (evidence : Evidence)
  | findOrder (id : Id)
  | dateNow
  | emitPaymentReleased (event : PaymentReleasedEvent)
deriving DecidableEq

/-- The answer to each call. -/
@[reducible] def Reply : Op → Type
  | .findEscrow _ => Option EscrowEntity
  | .insertEscrow _ => EscrowEntity
  | .findLockedEscrows => List EscrowEntity
  | .keypairRandom _ => PublicKey
  | .submitTransaction _ => TxHash
  | .insertDispute _ => Dispute
  | .findDispute _ => Option Dispute
  | .findOpenDisputes => List (Dispute × List Evidence)
  | .findActiveDispute _ => Option Dispute
  | .findOrder _ => Option Order
  | .dateNow => Date
  | _ => Unit

/-- Not one of the three closed statuses. -/
def active (dispute : Dispute) : Bool := dispute.status ∉ [.resolved, .rejected, .autoResolved]

/-- What each call does when it does not throw.  `saveEscrow` and
`saveDispute` store the entity as the caller has it, over whatever the row
holds by then. -/
def act : (op : Op) → World → Reply op × World
  | .findEscrow id, world => (world.escrows.row id, world)
  | .insertEscrow escrow, world =>
    ({ escrow with id := world.escrows.next },
      { world with
        escrows := world.escrows.insert fun id => { escrow with id } })
  | .saveEscrow escrow, world =>
    ((), { world with escrows := world.escrows.save escrow })
  | .updateDisputeFlag escrowId disputeFlag, world =>
    match world.escrows.row escrowId with
    | none => ((), world)
    | some escrow =>
      ((), { world with
        escrows := world.escrows.save { escrow with disputeFlag } })
  | .findLockedEscrows, world =>
    (world.escrows.rows.filter fun escrow => escrow.status = .locked ∧ escrow.disputeFlag = false,
      world)
  | .keypairRandom held, world =>
    (freshKey (held ++ world.knownKeys), world)
  | .loadAccount _, world => ((), world)
  | .submitTransaction tx, world =>
    (world.ledger.length, { world with ledger := world.ledger ++ [tx] })
  | .insertDispute dispute, world =>
    ({ dispute with id := world.disputes.next, createdAt := world.now },
      { world with
        disputes := world.disputes.insert fun id =>
          { dispute with id, createdAt := world.now } })
  | .findDispute id, world => (world.disputes.row id, world)
  | .saveDispute dispute, world =>
    ((), { world with disputes := world.disputes.save dispute })
  | .findOpenDisputes, world =>
    ((world.disputes.rows.filter fun dispute => dispute.status = .open).map fun dispute =>
          (dispute, world.evidences.filter fun evidence => evidence.disputeId = dispute.id),
      world)
  | .findActiveDispute escrowId, world =>
    (world.disputes.rows.find? fun dispute => dispute.escrowId = some escrowId ∧ active dispute,
      world)
  | .insertEvidence evidence, world =>
    ((), { world with evidences := world.evidences ++ [evidence] })
  | .findOrder id, world => (world.orders.row id, world)
  | .dateNow, world => (world.now, world)
  | .emitPaymentReleased event, world =>
    ((), { world with events := world.events ++ [event] })

/-- Key generation, the clock and the event emitter stay inside the
process; everything else may throw. -/
def mayFail : Op → Bool
  | .keypairRandom _ | .dateNow | .emitPaymentReleased _ => false
  | _ => true

abbrev signature : Signature := ⟨Op, Reply⟩

/-- The settlement side of the backend. -/
def handler : Handler signature World := ⟨act, mayFail⟩

/-- An `async` method of the settlement services. -/
abbrev Service (α : Type) := Program signature HttpException α

/-- One awaited call. -/
def await (op : Op) : Service (Reply op) := Program.perform (S := signature) op

theorem wp_await (spared : Op → Bool) (op : Op) (fallible : mayFail op = true)
    (post : Except HttpException (Reply op) → World → Prop) (world : World) :
    (handler.shield spared).wp (await op) post world ↔
      post (.ok (act op world).1) (act op world).2 ∧
        (spared op = false → ∀ error, post (.error error) world) := by
  refine (handler.wp_shield_perform spared op post world).trans ?_
  exact and_congr_right fun _ =>
    ⟨fun failed => failed fallible, fun failed _ => failed⟩

theorem wp_await_total (spared : Op → Bool) (op : Op) (total : mayFail op = false)
    (post : Except HttpException (Reply op) → World → Prop) (world : World) :
    (handler.shield spared).wp (await op) post world ↔
      post (.ok (act op world).1) (act op world).2 := by
  refine (handler.wp_shield_perform spared op post world).trans ?_
  refine and_iff_left fun fallible => ?_
  rw [show handler.mayFail op = mayFail op from rfl, total] at fallible
  cases fallible

/-! ### The calls under the names the services give them -/

def escrowRepository.findOne (id : Id) : Service (Option EscrowEntity) := await (.findEscrow id)

/-- `save` of an entity that `create` just made. -/
def escrowRepository.insert (escrow : EscrowEntity) : Service EscrowEntity :=
  await (.insertEscrow escrow)

def escrowRepository.save (escrow : EscrowEntity) : Service Unit := await (.saveEscrow escrow)

def escrowRepository.updateDisputeFlag (escrowId : Id) (disputeFlag : Bool) : Service Unit :=
  await (.updateDisputeFlag escrowId disputeFlag)

def escrowRepository.findLocked : Service (List EscrowEntity) := await .findLockedEscrows

def keypairRandom (held : List PublicKey) : Service PublicKey := await (.keypairRandom held)

def stellarServer.loadAccount (key : PublicKey) : Service Unit := await (.loadAccount key)

def stellarServer.submitTransaction (tx : Transaction) : Service TxHash :=
  await (.submitTransaction tx)

def disputeRepo.insert (dispute : Dispute) : Service Dispute := await (.insertDispute dispute)

def disputeRepo.findOne (id : Id) : Service (Option Dispute) := await (.findDispute id)

def disputeRepo.save (dispute : Dispute) : Service Unit := await (.saveDispute dispute)

def disputeRepo.findOpen : Service (List (Dispute × List Evidence)) := await .findOpenDisputes

def disputeRepo.findActive (escrowId : Id) : Service (Option Dispute) :=
  await (.findActiveDispute escrowId)

def evidenceRepo.insert (evidence : Evidence) : Service Unit := await (.insertEvidence evidence)

def orderRepository.findOne (id : Id) : Service (Option Order) := await (.findOrder id)

def dateNow : Service Date := await .dateNow

def emitPaymentReleased (event : PaymentReleasedEvent) : Service Unit :=
  await (.emitPaymentReleased event)

end Settlement

end MarketX
