/-
Module: MarketX.Proofs.ArchivedRows
Purpose: What a run of the archiving moves, batch by batch, and which columns
  of an order its row in the archive carries.
Trusted boundary: human-reviewed definition of IsDue, Job.stored, Moved,
  OrderColumn, OrderRow.value, ArchivedOrder.value and Carries
Main exports: IsDue, Job.stored, Moved, exactly_due_rows_archived, orders_lose_columns
-/
import MarketX.Archiving.ArchivingService

namespace MarketX.Archiving

open Effects ArchivingService

section

variable {Live Archived : Type} [Keyed Live] [Keyed Archived]
  [DecidableEq Archived] {job : Job Live Archived} {scan : Scan Live} {threshold : Date}

/-! ### The rows that are due -/

variable (job threshold) in
/-- The row under a key is seen and due. -/
def IsDue (live : Table Live) (id : Id) : Prop :=
  ∃ row, live.row id = some row ∧ job.isVisible row = true ∧ job.isDue threshold row = true

variable (job scan threshold) in
def dueIds (live : Table Live) : List Id :=
  (dueRows job scan threshold live).map Keyed.key

theorem mem_scan {live : Table Live} {row : Live} :
    row ∈ scan.order live ↔ live.row (Keyed.key row) = some row := by
  rw [(scan.perm live).mem_iff, Table.mem_rows]

omit [DecidableEq Archived] in
variable (scan) in
theorem mem_dueIds {live : Table Live} {id : Id} :
    id ∈ dueIds job scan threshold live ↔ IsDue job threshold live id := by
  simp only [dueIds, dueRows, List.mem_map, List.mem_filter, mem_scan, Bool.and_eq_true]
  constructor
  · rintro ⟨row, ⟨stored, visible, due⟩, rfl⟩
    exact ⟨row, stored, visible, due⟩
  · rintro ⟨row, stored, visible, due⟩
    have key := live.keyed stored
    exact ⟨row, ⟨key ▸ stored, visible, due⟩, key⟩

theorem nodup_scan (scan : Scan Live) (live : Table Live) :
    ((scan.order live).map Keyed.key).Nodup := by
  rw [((scan.perm live).map Keyed.key).nodup_iff, List.Nodup, List.pairwise_map]
  exact live.rows_pairwise

omit [DecidableEq Archived] in
variable (job scan threshold) in
theorem nodup_dueIds (live : Table Live) :
    (dueIds job scan threshold live).Nodup :=
  (nodup_scan scan live).sublist (List.filter_sublist.map Keyed.key)

/-! ### What is moved -/

/-- What the archive has under the key of a copy once this is stored. -/
def Job.stored (job : Job Live Archived) (now : Date) (old : Option Archived)
    (copy : Archived) : Archived :=
  match old with
  | none => copy
  | some old => if old = copy then old else job.touch now copy

variable (job threshold) in
/-- Some rows, all of them due, have gone from the live table to the archive,
and nothing else has changed. -/
structure Moved (ids : List Id) (before after : Shelves Live Archived) :
    Prop where
  now : after.now = before.now
  due : ∀ id ∈ ids, IsDue job threshold before.live id
  live : ∀ id, after.live.row id = if id ∈ ids then none else before.live.row id
  archived : ∀ id, after.archived.row id = if id ∈ ids then
      (before.live.row id).map fun row =>
        job.stored before.now (before.archived.row id) (job.archive row)
    else before.archived.row id

theorem Moved.nothing (shelves : Shelves Live Archived) :
    Moved job threshold [] shelves shelves :=
  ⟨rfl, List.forall_mem_nil _, fun _ => rfl, fun _ => rfl⟩

theorem Moved.append {first second : List Id} {before middle after : Shelves Live Archived}
    (front : Moved job threshold first before middle)
    (back : Moved job threshold second middle after) :
    Moved job threshold (first ++ second) before after := by
  have apart {id : Id} (moved : id ∈ second) : id ∉ first ∧
      middle.live.row id = before.live.row id := by
    have row := front.live id
    obtain ⟨due, stored, -⟩ := back.due id moved
    simp_all
  constructor
  · exact back.now.trans front.now
  · intro id member
    rcases List.mem_append.mp member with early | late
    · exact front.due id early
    · obtain ⟨row, stored, due⟩ := back.due id late
      exact ⟨row, (apart late).2 ▸ stored, due⟩
  · intro id
    rw [back.live, front.live]
    by_cases late : id ∈ second
    · simp [late]
    · simp [late]
  · intro id
    rw [back.archived, front.archived, front.now]
    by_cases late : id ∈ second
    · simp_all
    · simp [late]

/-! ### One batch -/

theorem row_store (now : Date) (archive : Table Archived) (copy : Archived) (id : Id) :
    (job.store now archive copy).row id = if id = Keyed.key copy then
        some (job.stored now (archive.row id) copy)
      else archive.row id := by
  rw [Job.store]
  by_cases same : id = Keyed.key copy
  · rw [if_pos same, same]
    cases stored : archive.row (Keyed.key copy) with
    | none => exact Table.row_save_self archive copy
    | some old =>
      rw [Job.stored]
      dsimp only
      split
      · exact stored
      · rw [← job.touch_key now copy]
        exact Table.row_save_self archive _
  · rw [if_neg same]
    cases archive.row (Keyed.key copy) with
    | none => exact Table.row_save_of_ne archive copy same
    | some old =>
      dsimp only
      split
      · rfl
      · exact Table.row_save_of_ne archive _ (by rwa [job.touch_key])

variable (job) in
theorem row_foldl_store {rows : List Live} (distinct : (rows.map Keyed.key).Nodup) (now : Date)
    (archive : Table Archived) :
    (∀ row ∈ rows, ((rows.map job.archive).foldl (job.store now) archive).row (Keyed.key row) =
          some (job.stored now (archive.row (Keyed.key row)) (job.archive row))) ∧
      ∀ id, id ∉ rows.map Keyed.key →
        ((rows.map job.archive).foldl (job.store now) archive).row id =
          archive.row id := by
  induction rows generalizing archive with
  | nil => exact ⟨List.forall_mem_nil _, fun _ _ => rfl⟩
  | cons head tail ih =>
    rw [List.map_cons, List.nodup_cons] at distinct
    obtain ⟨listed, others⟩ := ih distinct.2 (job.store now archive (job.archive head))
    rw [List.map_cons, List.foldl_cons]
    refine ⟨List.forall_mem_cons.mpr ⟨?_, fun row member => ?_⟩, fun id absent => ?_⟩
    · rw [others _ distinct.1, row_store, job.archive_key, if_pos rfl]
    · have apart : Keyed.key row ≠ Keyed.key head := fun same =>
        distinct.1 (same ▸ List.mem_map_of_mem member)
      rw [listed row member, row_store, job.archive_key, if_neg apart]
    · rw [List.map_cons, List.mem_cons, not_or] at absent
      rw [others id absent.2, row_store, job.archive_key, if_neg absent.1]

def nextBatch (job : Job Live Archived) (scan : Scan Live) (threshold : Date)
    (live : Table Live) : List Id :=
  (dueIds job scan threshold live).take BATCH_SIZE

theorem moved_nextBatch (shelves : Shelves Live Archived) :
    Moved job threshold (nextBatch job scan threshold shelves.live) shelves
      { shelves with
        archived := (((scan.order shelves.live).filter fun row =>
          job.isVisible row && decide (Keyed.key row ∈
            nextBatch job scan threshold shelves.live)).map job.archive).foldl
          (job.store shelves.now) shelves.archived
        live := (nextBatch job scan threshold shelves.live).foldl Table.delete
          shelves.live } := by
  generalize batch : nextBatch job scan threshold shelves.live = ids
  have due {id : Id} (member : id ∈ ids) :
      IsDue job threshold shelves.live id := by
    rw [← batch] at member
    exact (mem_dueIds scan).mp (List.mem_of_mem_take member)
  have distinct := (nodup_scan scan shelves.live).sublist ((List.filter_sublist (p := fun row =>
      job.isVisible row && decide (Keyed.key row ∈ ids))).map Keyed.key)
  obtain ⟨listed, others⟩ := row_foldl_store job distinct shelves.now shelves.archived
  refine ⟨rfl, fun id => due, fun id => Table.row_foldl_delete ids _ id, fun id => ?_⟩
  by_cases member : id ∈ ids
  · obtain ⟨row, stored, visible, -⟩ := due member
    have key : Keyed.key row = id := shelves.live.keyed stored
    have copied := listed row (List.mem_filter.mpr
      ⟨mem_scan.mpr (key ▸ stored), by simp [visible, key, member]⟩)
    rw [key] at copied
    rw [copied, if_pos member, stored]
    rfl
  · grind

theorem wp_moveBatch (before : Shelves Live Archived) :
    (shelving job scan).wp (moveBatch job threshold) (fun result after => after.now = before.now ∧
        ∀ moved, result = .ok moved →
          Moved job threshold (nextBatch job scan threshold before.live) before after ∧
            moved = (nextBatch job scan threshold before.live).length)
      before := by
  have asked :
      ((shelving job scan).act (.findDue threshold BATCH_SIZE) before).1 =
        nextBatch job scan threshold before.live := by
    rw [nextBatch, dueIds, ← List.map_take]
    rfl
  rw [moveBatch, Handler.wp_bind, await, Handler.wp_perform]
  refine ⟨?_, fun _ _ => ⟨rfl, nofun⟩⟩
  rw [Handler.andThen_ok, asked]
  apply Handler.wp_branch
  · intro empty
    refine ⟨rfl, fun moved returned => ?_⟩
    cases returned
    rw [List.length_eq_zero_iff.mp empty]
    exact ⟨.nothing before, rfl⟩
  · intro some
    refine ⟨⟨⟨⟨rfl, fun moved returned => ?_⟩, ?_⟩, ?_⟩, ?_⟩
    · cases returned
      exact ⟨moved_nextBatch before, rfl⟩
    all_goals exact fun _ _ => ⟨rfl, nofun⟩

/-! ### The loop -/

/-- A transaction that returns has its body's effect, and one that throws has
none. -/
theorem wp_transaction {α : Type} {body : Service Live Archived α}
    {post : α → Shelves Live Archived → Prop} {before : Shelves Live Archived}
    (holds : (shelving job scan).wp body (fun result after =>
      after.now = before.now ∧ ∀ value, result = .ok value → post value after)
      before) :
    (shelving job scan).wp (transaction body)
      (fun result after => (∃ value, result = .ok value ∧ post value after) ∨
        (∃ error, result = .error error) ∧ after = before) before := by
  rw [transaction, Handler.wp_bind, await, Handler.wp_perform]
  refine ⟨?_, fun _ error => .inr ⟨⟨error, rfl⟩, rfl⟩⟩
  rw [Handler.andThen_ok, Handler.wp_bind, Handler.wp_attempt, Handler.wp_bind]
  apply Handler.wp_mono _ holds
  rintro result after ⟨now, reached⟩
  have back : { after with live := before.live, archived := before.archived } =
      before := by rw [now]
  have rolledBack (error : HttpException) :
      (shelving job scan).wp (do await (.rollback before.live before.archived); throw error :
          Service Live Archived α)
        (fun result after => (∃ value, result = .ok value ∧ post value after) ∨
          (∃ error, result = .error error) ∧ after = before) after :=
    ⟨.inr ⟨⟨error, rfl⟩, back⟩, nofun⟩
  cases result with
  | error error => exact rolledBack error
  | ok value => exact ⟨.inl ⟨value, rfl, reached value rfl⟩, fun _ error => rolledBack error⟩

theorem Moved.isDue_iff {ids : List Id} {before after : Shelves Live Archived}
    (moved : Moved job threshold ids before after) {id : Id} :
    IsDue job threshold after.live id ↔ IsDue job threshold before.live id ∧ id ∉ ids := by
  rw [IsDue, moved.live]
  by_cases member : id ∈ ids
  · simp [member]
  · simp only [member, if_false, not_false_eq_true, and_true]
    rfl

theorem length_dueIds_of_moved {before after : Shelves Live Archived}
    (moved : Moved job threshold (nextBatch job scan threshold before.live) before after) :
    (dueIds job scan threshold after.live).length =
      (dueIds job scan threshold before.live).length - BATCH_SIZE := by
  have distinct := nodup_dueIds job scan threshold before.live
  have split := List.take_append_drop BATCH_SIZE (dueIds job scan threshold before.live)
  rw [← split, List.nodup_append] at distinct
  have same : (dueIds job scan threshold after.live).Perm
      ((dueIds job scan threshold before.live).drop BATCH_SIZE) := by
    rw [List.perm_ext_iff_of_nodup (nodup_dueIds job scan threshold after.live) distinct.2.1]
    intro id
    rw [mem_dueIds, moved.isDue_iff, ← mem_dueIds scan, ← split, List.mem_append, split, nextBatch]
    constructor <;> grind
  rw [same.length_eq, List.length_drop]

variable (job threshold) in
/-- Whole batches have been moved; if the run throws, full ones, and if it
returns, all that was due, of which it gives the number. -/
def Archives (totalMoved : ℕ) (before : Shelves Live Archived)
    (result : Except HttpException (Option ℕ)) (after : Shelves Live Archived) : Prop :=
  ∃ batches : List (List Id), Moved job threshold batches.flatten before after ∧
      ((∃ error, result = .error error) ∧ (∀ batch ∈ batches, batch.length = BATCH_SIZE) ∨
        result = .ok (some (totalMoved + batches.flatten.length)) ∧
          ∀ id, IsDue job threshold before.live id → id ∈ batches.flatten)

theorem wp_moveBatches (turns totalMoved : ℕ) (before : Shelves Live Archived)
    (enough : (dueIds job scan threshold before.live).length < turns * BATCH_SIZE) :
    (shelving job scan).wp (moveBatches job threshold turns totalMoved)
      (Archives job threshold totalMoved before) before := by
  induction turns generalizing totalMoved before with
  | zero => simp at enough
  | succ turns ih =>
    rw [moveBatches, Handler.wp_bind]
    apply Handler.wp_mono _ (wp_transaction (wp_moveBatch before))
    rintro result middle (⟨moved, rfl, front, rfl⟩ | ⟨⟨error, rfl⟩, rfl⟩)
    · have left := length_dueIds_of_moved front
      have length : (nextBatch job scan threshold before.live).length =
          min BATCH_SIZE (dueIds job scan threshold before.live).length := List.length_take
      apply Handler.wp_branch
      · intro full
        have fewer : (dueIds job scan threshold middle.live).length < turns * BATCH_SIZE := by
          rw [Nat.add_one_mul] at enough
          omega
        apply Handler.wp_mono _ (ih _ middle fewer)
        rintro result after ⟨batches, back, outcome⟩
        refine ⟨nextBatch job scan threshold before.live :: batches, front.append back, ?_⟩
        rcases outcome with ⟨throws, sizes⟩ | ⟨rfl, all⟩
        · exact .inl ⟨throws, List.forall_mem_cons.mpr ⟨full, sizes⟩⟩
        · refine .inr ⟨?_, fun id due => ?_⟩
          · rw [List.flatten_cons, List.length_append, Nat.add_assoc]
          · rw [List.flatten_cons, List.mem_append]
            by_cases early : id ∈ nextBatch job scan threshold before.live
            · exact .inl early
            · exact .inr (all id (front.isDue_iff.mpr ⟨due, early⟩))
      · intro short
        refine ⟨[nextBatch job scan threshold before.live], ?_, .inr ⟨?_, fun id due => ?_⟩⟩
        · rw [List.flatten_singleton]
          exact front
        · rw [List.flatten_singleton]
        · by_contra missed
          rw [List.flatten_singleton] at missed
          have still := (mem_dueIds scan).mpr (front.isDue_iff.mpr ⟨due, missed⟩)
          grind
    · exact ⟨[], .nothing middle, .inl ⟨⟨error, rfl⟩, List.forall_mem_nil _⟩⟩

theorem exec_moveBatches (job : Job Live Archived) (scan : Scan Live)
    (threshold : Date) (extra : ℕ) (faults : List Fault) (before : Shelves Live Archived) :
    Archives job threshold 0 before ((shelving job scan).exec (moveBatches job threshold
        ((dueIds job scan threshold before.live).length / BATCH_SIZE + 1 +
          extra) 0) faults before).1 ((shelving job scan).exec (moveBatches job threshold
        ((dueIds job scan threshold before.live).length / BATCH_SIZE + 1 +
          extra) 0) faults before).2 := by
  apply (shelving job scan).wp_sound
  apply wp_moveBatches
  exact Nat.lt_mul_of_div_lt (by omega) (by decide)

end

/-- Whatever fails, and in whatever order the database comes to the rows, the
archiving of orders and that of transactions end, and have moved whole batches
of rows that are due: full ones if they throw, and if they return, all that
was due. -/
theorem exactly_due_rows_archived (threshold : Date) (extra : ℕ) (faults : List Fault) :
    (∀ (scan : Scan OrderRow) (before : Shelves OrderRow ArchivedOrder),
      let turns :=
        (dueIds orderJob scan threshold before.live).length / BATCH_SIZE + 1 + extra
      let done := (shelving orderJob scan).exec (archiveOrders threshold turns) faults before
      Archives orderJob threshold 0 before done.1 done.2) ∧
    ∀ (scan : Scan TransactionRow) (before : Shelves TransactionRow ArchivedTransaction),
      let turns :=
        (dueIds transactionJob scan threshold before.live).length / BATCH_SIZE + 1 + extra
      let done := (shelving transactionJob scan).exec
        (archiveTransactions threshold turns) faults before
      Archives transactionJob threshold 0 before done.1 done.2 :=
  ⟨fun scan before => exec_moveBatches orderJob scan threshold extra faults before,
    fun scan before => exec_moveBatches transactionJob scan threshold extra faults before⟩

/-! ### One order -/

def inOrder {Live : Type} [Keyed Live] : Scan Live := ⟨Table.rows, fun _ => .rfl⟩

def completedOrder : OrderRow where
  id := 0
  totalAmount := 100
  status := .completed
  paymentStatus := .confirmed
  items := "[]"
  shippingAddress := some "1 Main Street"
  createdAt := 0
  updatedAt := 0
  buyerId := 7

def oneOrder (order : OrderRow) : Shelves OrderRow ArchivedOrder where
  live := .save .empty order
  archived := .empty
  now := 1

/-- An order that has been completed before the threshold and is marked as
deleted stays where it is. -/
theorem deleted_order_left :
    let order := { completedOrder with deletedAt := some 0 }
    let done := (shelving orderJob inOrder).exec (archiveOrders 1 1) [] (oneOrder order)
    order.status = .completed ∧ order.updatedAt < 1 ∧ done.1.toOption = some (some 0) ∧
      done.2.live.row order.id = some order ∧ done.2.archived.row order.id = none := by
  decide

/-! ### Columns -/

inductive OrderColumn where
  | id
  | totalAmount
  | taxAmount
  | shippingCost
  | discountAmount
  | status
  | paymentStatus
  | items
  | shippingAddress
  | trackingNumber
  | notes
  | cancellationReason
  | expectedDeliveryDate
  | currency
  | escrowType
  | milestones
  | releasedAmount
  | remainingAmount
  | createdAt
  | updatedAt
  | deletedAt
  | confirmedAt
  | shippedAt
  | deliveredAt
  | completedAt
  | cancelledAt
  | refundedAt
  | buyerId
  | sellerId
deriving DecidableEq

inductive Value where
  | null
  | id (id : Id)
  | amount (amount : Amount)
  | text (text : String)
  | date (date : Date)
  | status (status : OrderStatus)
  | paymentStatus (status : PaymentStatus)
  | currency (currency : Currency)
  | escrowType (type : EscrowType)
deriving DecidableEq

def nullable {α : Type} (make : α → Value) : Option α → Value
  | none => .null
  | some value => make value

def OrderRow.value (order : OrderRow) : OrderColumn → Value
  | .id => .id order.id
  | .totalAmount => .amount order.totalAmount
  | .taxAmount => .amount order.taxAmount
  | .shippingCost => .amount order.shippingCost
  | .discountAmount => .amount order.discountAmount
  | .status => .status order.status
  | .paymentStatus => .paymentStatus order.paymentStatus
  | .items => .text order.items
  | .shippingAddress => nullable .text order.shippingAddress
  | .trackingNumber => nullable .text order.trackingNumber
  | .notes => nullable .text order.notes
  | .cancellationReason => nullable .text order.cancellationReason
  | .expectedDeliveryDate => nullable .date order.expectedDeliveryDate
  | .currency => .currency order.currency
  | .escrowType => nullable .escrowType order.escrowType
  | .milestones => nullable .text order.milestones
  | .releasedAmount => .amount order.releasedAmount
  | .remainingAmount => .amount order.remainingAmount
  | .createdAt => .date order.createdAt
  | .updatedAt => .date order.updatedAt
  | .deletedAt => nullable .date order.deletedAt
  | .confirmedAt => nullable .date order.confirmedAt
  | .shippedAt => nullable .date order.shippedAt
  | .deliveredAt => nullable .date order.deliveredAt
  | .completedAt => nullable .date order.completedAt
  | .cancelledAt => nullable .date order.cancelledAt
  | .refundedAt => nullable .date order.refundedAt
  | .buyerId => .id order.buyerId
  | .sellerId => nullable .id order.sellerId

/-- What the archive has in the column of that name, if it declares one. -/
def ArchivedOrder.value (archived : ArchivedOrder) :
    OrderColumn → Option Value
  | .id => some (.id archived.id)
  | .totalAmount => some (.amount archived.totalAmount)
  | .currency => some (.currency archived.currency)
  | .status => some (.status archived.status)
  | .trackingNumber => some (nullable .text archived.trackingNumber)
  | .items => some (.text archived.items)
  | .buyerId => some (.id archived.buyerId)
  | .sellerId => some (nullable .id archived.sellerId)
  | .createdAt => some (.date archived.createdAt)
  | .updatedAt => some (.date archived.updatedAt)
  | .cancelledAt => some (nullable .date archived.cancelledAt)
  | .shippedAt => some (nullable .date archived.shippedAt)
  | .deliveredAt => some (nullable .date archived.deliveredAt)
  | _ => none

/-- The row of the archive has the value of every column of the order. -/
def Carries (archived : ArchivedOrder) (order : OrderRow) : Prop :=
  ∀ column, archived.value column = some (order.value column)

/-! ### What is carried -/

theorem not_carries (archived : ArchivedOrder) (order : OrderRow) :
    ¬ Carries archived order := by
  intro carries
  cases carries .paymentStatus

/-- Every order that the archiving takes from the live table, whatever fails,
leaves a row in the archive that does not have the values of all its columns;
and no function makes every completed order of its copy. -/
theorem orders_lose_columns (scan : Scan OrderRow) (threshold : Date)
    (extra : ℕ) (faults : List Fault) (before : Shelves OrderRow ArchivedOrder) :
    (let turns :=
        (dueIds orderJob scan threshold before.live).length / BATCH_SIZE + 1 + extra
      let after := ((shelving orderJob scan).exec (archiveOrders threshold turns) faults before).2
      ∀ id order, before.live.row id = some order → after.live.row id = none →
          ∃ archived, after.archived.row id = some archived ∧ ¬ Carries archived order) ∧
      ∀ rebuild : ArchivedOrder → OrderRow, ∃ order : OrderRow,
        order.status = .completed ∧ rebuild (archiveOrder order) ≠ order := by
  constructor
  · intro turns after id order stored gone
    obtain ⟨batches, moved, -⟩ := exec_moveBatches orderJob scan threshold extra faults before
    have member : id ∈ batches.flatten := by
      by_contra kept
      have still := moved.live id
      rw [if_neg kept, stored] at still
      exact Option.some_ne_none _ (still.symm.trans gone)
    have row := moved.archived id
    rw [if_pos member, stored, Option.map_some] at row
    exact ⟨_, row, not_carries _ order⟩
  · intro rebuild
    by_cases rebuilt : rebuild (archiveOrder completedOrder) = completedOrder
    · refine ⟨{ completedOrder with shippingAddress := none }, rfl, ?_⟩
      show rebuild (archiveOrder completedOrder) ≠ _
      rw [rebuilt]
      decide
    · exact ⟨completedOrder, rfl, rebuilt⟩

/-- A row in the archive comes of the one order that there is. -/
theorem first_order_incomplete :
    let after := ((shelving orderJob inOrder).exec (archiveOrders 1 1) []
      (oneOrder completedOrder)).2
    ∃ archived, after.archived.row 0 = some archived ∧ ¬ Carries archived completedOrder :=
  (orders_lose_columns inOrder 1 0 [] (oneOrder completedOrder)).1 0
    completedOrder (by decide) (by decide)

/-- A completed order is archived, and its address is gone. -/
theorem shipping_address_lost :
    let after := ((shelving orderJob inOrder).exec (archiveOrders 1 1) []
      (oneOrder completedOrder)).2
    completedOrder.value .shippingAddress = .text "1 Main Street" ∧
      after.live.row completedOrder.id = none ∧
      (after.archived.row completedOrder.id).map (·.value .shippingAddress) =
        some none := by decide

end MarketX.Archiving
