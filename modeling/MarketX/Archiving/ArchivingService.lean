/-
Module: MarketX.Archiving.ArchivingService
Purpose: The archiving of old orders and transactions
  (`archiving/archiving.service.ts`): batches that are copied to the archive
  and deleted, each in a transaction, and the rows of the four tables.
Trusted boundary: human-reviewed model of the source
Main exports: OrderRow, ArchivedOrder, TransactionRow, ArchivedTransaction
-/
import MarketX.Entities.Order

namespace MarketX.Archiving

open Effects

/-! ### The rows -/

/-- All columns of `orders`; a JSON column is kept as its text. -/
structure OrderRow where
  id : Id
  totalAmount : Amount
  taxAmount : Amount := 0
  shippingCost : Amount := 0
  discountAmount : Amount := 0
  status : OrderStatus := .pending
  paymentStatus : PaymentStatus := .unpaid
  items : String
  shippingAddress : Option String := none
  trackingNumber : Option String := none
  notes : Option String := none
  cancellationReason : Option String := none
  expectedDeliveryDate : Option Date := none
  currency : Currency := .USD
  escrowType : Option EscrowType := none
  milestones : Option String := none
  releasedAmount : Amount := 0
  remainingAmount : Amount := 0
  createdAt : Date
  updatedAt : Date
  deletedAt : Option Date := none
  confirmedAt : Option Date := none
  shippedAt : Option Date := none
  deliveredAt : Option Date := none
  completedAt : Option Date := none
  cancelledAt : Option Date := none
  refundedAt : Option Date := none
  buyerId : Id
  sellerId : Option Id := none
deriving DecidableEq

instance : Keyed OrderRow := ⟨OrderRow.id⟩

structure ArchivedOrder where
  id : Id
  totalAmount : Amount
  currency : Currency := .USD
  status : OrderStatus := .pending
  trackingNumber : Option String := none
  items : String
  buyerId : Id
  sellerId : Option Id := none
  createdAt : Date
  updatedAt : Date
  cancelledAt : Option Date := none
  shippedAt : Option Date := none
  deliveredAt : Option Date := none
deriving DecidableEq

instance : Keyed ArchivedOrder := ⟨ArchivedOrder.id⟩

inductive TransactionStatus where
  | pending
  | completed
  | failed
  | cancelled
deriving DecidableEq

inductive TransactionType where
  | transfer
  | payment
  | refund
  | purchase
deriving DecidableEq

/-- The columns of `transactions`, and those of `archived_transactions`, which
are the same. -/
structure TransactionRow where
  id : Id
  amount : Amount
  currency : String := "USD"
  description : Option String := none
  status : TransactionStatus := .pending
  type : TransactionType := .transfer
  senderId : Id
  receiverId : Id
  listingId : Option String := none
  metadata : Option String := none
  externalReference : Option String := none
  stellarHash : Option String := none
  createdAt : Date
  updatedAt : Date
deriving DecidableEq

instance : Keyed TransactionRow := ⟨TransactionRow.id⟩

abbrev ArchivedTransaction := TransactionRow

/-! ### The two jobs -/

/-- What the archiving of orders and that of transactions differ in: the rows
they ask for; the rows that a query sees at all; what is stored of a copy made
by `Object.assign`; and what a second storing changes besides. -/
structure Job (Live Archived : Type) [Keyed Live] [Keyed Archived] where
  isDue : Date → Live → Bool
  isVisible : Live → Bool
  archive : Live → Archived
  touch : Date → Archived → Archived
  archive_key : ∀ row, Keyed.key (archive row) = Keyed.key row
  touch_key : ∀ now row, Keyed.key (touch now row) = Keyed.key row

/-- Only the columns that the archive declares are stored. -/
def archiveOrder (order : OrderRow) : ArchivedOrder where
  id := order.id
  totalAmount := order.totalAmount
  currency := order.currency
  status := order.status
  trackingNumber := order.trackingNumber
  items := order.items
  buyerId := order.buyerId
  sellerId := order.sellerId
  createdAt := order.createdAt
  updatedAt := order.updatedAt
  cancelledAt := order.cancelledAt
  shippedAt := order.shippedAt
  deliveredAt := order.deliveredAt

/-- The queries do not see an order that is marked as deleted. -/
def orderJob : Job OrderRow ArchivedOrder where
  isDue threshold order := order.status = .completed ∧ order.updatedAt < threshold
  isVisible order := order.deletedAt.isNone
  archive := archiveOrder
  touch now archived := { archived with updatedAt := now }
  archive_key _ := rfl
  touch_key _ _ := rfl

/-- There is no mark of deletion on a transaction. -/
def transactionJob : Job TransactionRow ArchivedTransaction where
  isDue threshold transaction := transaction.status = .completed ∧ transaction.updatedAt < threshold
  isVisible _ := true
  archive := id
  touch now archived := { archived with updatedAt := now }
  archive_key _ := rfl
  touch_key _ _ := rfl

/-! ### The tables -/

section

variable {Live Archived : Type} [Keyed Live] [Keyed Archived]

/-- The live table and its archive, and the time. -/
structure Shelves (Live Archived : Type) [Keyed Live] [Keyed Archived] where
  live : Table Live
  archived : Table Archived
  now : Date

/-- The order in which the database comes to the rows of a table. -/
structure Scan (Live : Type) [Keyed Live] where
  order : Table Live → List Live
  perm : ∀ table, (order table).Perm table.rows

/-- `save`: an entity whose key is in the table replaces the row there, unless
nothing has changed. -/
def Job.store [DecidableEq Archived] (job : Job Live Archived) (now : Date)
    (archive : Table Archived) (copy : Archived) : Table Archived :=
  match archive.row (Keyed.key copy) with
  | none => archive.save copy
  | some old => if old = copy then archive else archive.save (job.touch now copy)

inductive Op (Live Archived : Type) [Keyed Live] [Keyed Archived] where
  | begin
  | commit
  | rollback (live : Table Live) (archived : Table Archived)
  | findDue (threshold : Date) (take : ℕ)
  | findByIds (ids : List Id)
  | saveArchived (copies : List Archived)
  | deleteLive (ids : List Id)

@[reducible] def Reply : Op Live Archived → Type
  | .begin => Table Live × Table Archived
  | .findDue _ _ => List Id
  | .findByIds _ => List Live
  | _ => Unit

/-- The rows that the job is to move, in the order of the scan. -/
def dueRows (job : Job Live Archived) (scan : Scan Live) (threshold : Date)
    (live : Table Live) : List Live :=
  (scan.order live).filter fun row => job.isVisible row && job.isDue threshold row

variable [DecidableEq Archived]

def act (job : Job Live Archived) (scan : Scan Live) :
    (op : Op Live Archived) → Shelves Live Archived → Reply op × Shelves Live Archived
  | .begin, shelves => ((shelves.live, shelves.archived), shelves)
  | .commit, shelves => ((), shelves)
  | .rollback live archived, shelves => ((), { shelves with live, archived })
  | .findDue threshold take, shelves =>
    (((dueRows job scan threshold shelves.live).take take).map Keyed.key, shelves)
  | .findByIds ids, shelves =>
    ((scan.order shelves.live).filter fun row =>
      job.isVisible row && decide (Keyed.key row ∈ ids), shelves)
  | .saveArchived copies, shelves =>
    ((), { shelves with
      archived := copies.foldl (job.store shelves.now) shelves.archived })
  | .deleteLive ids, shelves =>
    ((), { shelves with live := ids.foldl Table.delete shelves.live })

/-- The tables go back by themselves where a rollback fails. -/
def mayFail : Op Live Archived → Bool
  | .rollback _ _ => false
  | _ => true

end

abbrev signature (Live Archived : Type) [Keyed Live] [Keyed Archived] :
    Signature :=
  ⟨Op Live Archived, Reply⟩

section

variable {Live Archived : Type} [Keyed Live] [Keyed Archived]

def shelving [DecidableEq Archived] (job : Job Live Archived) (scan : Scan Live) :
    Handler (signature Live Archived) (Shelves Live Archived) :=
  ⟨act job scan, mayFail⟩

abbrev Service (Live Archived α : Type) [Keyed Live] [Keyed Archived] :=
  Program (signature Live Archived) HttpException α

def await (op : Op Live Archived) : Service Live Archived (Reply op) :=
  Program.perform (S := signature Live Archived) op

/-- `dataSource.transaction`. -/
def transaction {α : Type} (body : Service Live Archived α) :
    Service Live Archived α := do
  let before ← await .begin
  match ← (do let value ← body; await .commit; pure value :
    Service Live Archived α).attempt with
  | .ok value => pure value
  | .error error =>
    await (.rollback before.1 before.2)
    throw error

end

/-! ### The service -/

namespace ArchivingService

def BATCH_SIZE : ℕ := 1000

section

variable {Live Archived : Type} [Keyed Live] [Keyed Archived]
  (job : Job Live Archived) (threshold : Date)

/-- The body of the transaction: the number of rows that are moved. -/
def moveBatch : Service Live Archived ℕ := do
  let ids ← await (.findDue threshold BATCH_SIZE)
  if ids.length = 0 then
    pure 0
  else
    let fullData ← await (.findByIds ids)
    await (.saveArchived (fullData.map job.archive))
    await (.deleteLive ids)
    pure ids.length

/-- The `while` loop, for so many turns at most: how many rows were moved, if
it ends. -/
def moveBatches : ℕ → ℕ → Service Live Archived (Option ℕ)
  | 0, _ => pure none
  | turns + 1, totalMoved => do
      let moved ← transaction (moveBatch job threshold)
      if moved = BATCH_SIZE then
        moveBatches turns (totalMoved + moved)
      else
        pure (some (totalMoved + moved))

end

def archiveOrders (threshold : Date) (turns : ℕ) :
    Service OrderRow ArchivedOrder (Option ℕ) := moveBatches orderJob threshold turns 0

def archiveTransactions (threshold : Date) (turns : ℕ) :
    Service TransactionRow ArchivedTransaction (Option ℕ) :=
  moveBatches transactionJob threshold turns 0

end ArchivingService

end MarketX.Archiving
