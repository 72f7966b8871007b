/-
Module: MarketX.Proofs.InventoryLedger
Purpose: The inventory history as a ledger whose replay gives the counters,
  and the stock of a product against the orders that ask for it.
Trusted boundary: none
Main exports: Counts, Counts.enter, replay, history_is_ledger, isOpen, stock_conserved
-/
import MarketX.Commerce.Stockroom
import MarketX.Commerce.Runs

namespace MarketX.Commerce

open Effects Handler Stockkeeping

/-! ### Replaying the history -/

/-- The two counters that the history accounts for. -/
@[ext] structure Counts where
  quantity : ℤ
  reserved : ℤ
deriving DecidableEq

/-- The counters of a row. -/
def counts {α : Type} [Shelved α] (row : α) : Counts where
  quantity := (Shelved.levels row).quantity
  reserved := (Shelved.levels row).reserved

/-- What a history row says happened to the counters. -/
def Counts.enter (counts : Counts) (type : InventoryChangeType) (change : ℤ) : Counts :=
  match type with
  | .reservation => { counts with reserved := counts.reserved + change }
  | .release =>
    { counts with reserved := lowered counts.reserved (-change) }
  | .cancellation =>
    { counts with reserved := lowered counts.reserved change }
  | .purchase =>
    { quantity := counts.quantity + change
      reserved := lowered counts.reserved (-change) }
  | .adjustment | .bulkUpdate | .refund =>
    { counts with quantity := counts.quantity + change }

/-- The types under which a change of the quantity is recorded. -/
def InventoryChangeType.OnQuantity : InventoryChangeType → Prop
  | .adjustment | .bulkUpdate | .refund => True
  | _ => False

/-- All rows, oldest first. -/
def replay (rows : List InventoryHistory) (counts : Counts) : Counts :=
  rows.foldl (fun counts row => counts.enter row.type row.change) counts

/-- The rows under one id. -/
def rowsOf (id : Id) (rows : List InventoryHistory) :
    List InventoryHistory := rows.filter fun row => row.listingId = id

theorem replay_append (front back : List InventoryHistory) (counts : Counts) :
    replay (front ++ back) counts = replay back (replay front counts) := List.foldl_append

theorem rowsOf_append (id : Id) (front back : List InventoryHistory) :
    rowsOf id (front ++ back) = rowsOf id front ++ rowsOf id back := List.filter_append front back

/-! ### Tables that follow the rows -/

/-- The rows of a table have the counters that the recorded rows give them,
and none is added or removed. -/
structure CountedBy {α : Type} [Shelved α] (added : List InventoryHistory)
    (before after : Table α) : Prop where
  counted : ∀ id row, before.row id = some row → ∃ later, after.row id = some later ∧
      counts later = replay (rowsOf id added) (counts row)
  absent : ∀ id, before.row id = none → after.row id = none

namespace CountedBy

variable {α : Type} [Shelved α] {before middle after : Table α}
  {added front back : List InventoryHistory}

theorem refl (table : Table α) : CountedBy [] table table where
  counted _ row stored := ⟨row, stored, rfl⟩
  absent _ missing := missing

theorem append (first : CountedBy front before middle) (second : CountedBy back middle after) :
    CountedBy (front ++ back) before after where
  counted id row stored := by
    obtain ⟨between, storedBetween, one⟩ := first.counted id row stored
    obtain ⟨later, storedLater, two⟩ := second.counted id between storedBetween
    simp_all [rowsOf_append, replay_append]
  absent id missing := second.absent id (first.absent id missing)

theorem elsewhere {row : InventoryHistory} {table : Table α}
    (missing : table.row row.listingId = none) :
    CountedBy [row] table table where
  counted id stored found := by grind [rowsOf, replay]
  absent _ missing := missing

theorem saved {row : InventoryHistory} {table : Table α} {stored later : α}
    (found : table.row row.listingId = some stored) (key : Keyed.key later = row.listingId)
    (entered : counts later = (counts stored).enter row.type row.change) :
    CountedBy [row] table (table.save later) where
  counted id other foundOther := by
    rw [Table.row_save, key]
    split <;> simp_all [rowsOf, replay, Ne.symm]
  absent id missing := by
    rw [Table.row_save, key, if_neg _]
    · exact missing
    · rintro rfl
      cases found.symm.trans missing

end CountedBy

/-- The stockroom after some rows were recorded: products and listings follow
them. -/
structure Ledgered (room : Stockroom) (added : List InventoryHistory)
    (after : Stockroom) : Prop where
  histories : after.histories = room.histories ++ added
  products : CountedBy added room.products after.products
  listings : CountedBy added room.listings after.listings

theorem Ledgered.refl (room : Stockroom) : Ledgered room [] room :=
  ⟨(List.append_nil _).symm, .refl _, .refl _⟩

variable {room after : Stockroom} {α : Type} {row : InventoryHistory} {movement : Movement}

theorem Ledgered.append {middle : Stockroom}
    {front back : List InventoryHistory} (first : Ledgered room front middle)
    (second : Ledgered middle back after) :
    Ledgered room (front ++ back) after where
  histories := by rw [second.histories, first.histories, List.append_assoc]
  products := first.products.append second.products
  listings := first.listings.append second.listings

/-- Primary keys are unique across the tables: no product and listing share
one. -/
def Distinct (room : Stockroom) : Prop :=
  ∀ id, room.products.row id = none ∨ room.listings.row id = none

theorem Ledgered.distinct {added : List InventoryHistory} (ledgered : Ledgered room added after)
    (distinct : Distinct room) : Distinct after := by
  intro id
  rcases distinct id with missing | missing
  · exact .inl (ledgered.products.absent id missing)
  · exact .inr (ledgered.listings.absent id missing)

/-! ### One posting -/

/-- The row records the movement, whatever the levels. -/
def RecordedBy (row : InventoryHistory) (movement : Movement) : Prop :=
  ∀ levels after, movement.apply levels = some after → (⟨after.quantity, after.reserved⟩ : Counts) =
      Counts.enter ⟨levels.quantity, levels.reserved⟩ row.type row.change

theorem countedBy_shift [Shelved α] {table after : Table α} (recorded : RecordedBy row movement)
    (shifted : shift table row.listingId movement = some after) :
    CountedBy [row] table after := by
  rw [shift, Option.bind_eq_bind, Option.bind_eq_some_iff] at shifted
  obtain ⟨stored, found, rest⟩ := shifted
  rw [Option.bind_eq_bind, Option.bind_eq_some_iff] at rest
  obtain ⟨levels, applied, same⟩ := rest
  cases same
  apply CountedBy.saved found
  · rw [Shelved.key_shelve]
    exact table.keyed found
  · rw [counts, Shelved.levels_shelve]
    exact recorded _ _ applied

theorem present_of_shift [Shelved α] {table after : Table α}
    {key : Id} (shifted : shift table key movement = some after) :
    table.row key ≠ none := by
  obtain ⟨row, levels, found, _⟩ := row_shift shifted
  rw [found]
  exact Option.some_ne_none row

/-- The posting's row records what it does; an adjusted variant belongs to a
listing whose counters are the sums of its variants'. -/
def Posting.Recorded (room : Stockroom) : Posting → Prop
  | .product row movement | .listing row movement | .bulk row movement => RecordedBy row movement
  | .variant id _ change type _ =>
    InventoryChangeType.OnQuantity type ∧ ∀ variant, room.variants.row id = some variant →
        0 ≤ variant.quantity + change - variant.reserved →
        ∃ listing, room.listings.row variant.listingId = some listing ∧ listing.quantity =
            room.variantTotal variant.listingId ListingVariant.quantity ∧ listing.reserved =
            room.variantTotal variant.listingId ListingVariant.reserved

theorem enter_onQuantity {type : InventoryChangeType}
    (onQuantity : InventoryChangeType.OnQuantity type) (counts : Counts) (change : ℤ) :
    counts.enter type change = { counts with quantity := counts.quantity + change } := by
  cases type <;> first | rfl | cases onQuantity

theorem ledgered_listing {listings : Table Listing}
    (distinct : Distinct room) (recorded : RecordedBy row movement)
    (shifted : shift room.listings row.listingId movement = some listings) :
    Ledgered room [row] (Stockroom.record { room with listings } row) where
  histories := rfl
  products := by
    rcases distinct row.listingId with missing | missing
    · exact .elsewhere missing
    · exact absurd missing (present_of_shift shifted)
  listings := countedBy_shift recorded shifted

theorem ledgered_post {posting : Posting}
    (distinct : Distinct room) (posted : room.post posting = some after)
    (recorded : posting.Recorded room) :
    ∃ added, Ledgered room added after := by
  cases posting with
  | product row movement =>
    rw [Stockroom.post, Option.bind_eq_bind, Option.bind_eq_some_iff] at posted
    obtain ⟨products, shifted, same⟩ := posted
    cases same
    refine ⟨[row], rfl, countedBy_shift recorded shifted, ?_⟩
    rcases distinct row.listingId with missing | missing
    · exact absurd missing (present_of_shift shifted)
    · exact .elsewhere missing
  | listing row movement =>
    rw [Stockroom.post, Option.bind_eq_bind, Option.bind_eq_some_iff] at posted
    obtain ⟨listings, shifted, same⟩ := posted
    cases same
    exact ⟨[row], ledgered_listing distinct recorded shifted⟩
  | bulk row movement =>
    rw [Stockroom.post] at posted
    cases present : room.listings.row row.listingId with
    | none =>
      simp only [present] at posted
      cases posted
      exact ⟨[], .refl room⟩
    | some listing =>
      simp only [present] at posted
      rw [Option.bind_eq_bind, Option.bind_eq_some_iff] at posted
      obtain ⟨listings, shifted, same⟩ := posted
      cases same
      exact ⟨[row], ledgered_listing distinct recorded shifted⟩
  | variant id userId change type note =>
    obtain ⟨onQuantity, sums⟩ := recorded
    obtain ⟨variant, found, covered, recount⟩ := variant_posted posted
    obtain ⟨listing, listed, quantity, reserved⟩ := sums variant found covered
    refine ⟨_, recount.histories, ?_, ?_⟩
    · rw [recount.products]
      rcases distinct variant.listingId with missing | missing
      · exact .elsewhere missing
      · cases missing.symm.trans listed
    · rcases recount.listings with ⟨missing, _⟩ | ⟨listing', listed', anew⟩
      · cases missing.symm.trans listed
      · cases listed.symm.trans listed'
        rw [anew]
        apply CountedBy.saved listed'
        · rw [key_aggregated]
          exact Table.keyed _ listed
        · rw [enter_onQuantity onQuantity, counts, levels_counted found, Counts.mk.injEq]
          exact ⟨congrArg (· + change) quantity.symm, reserved.symm⟩

theorem ledgered_postAll {postings : List Posting}
    (distinct : Distinct room) (recorded : ∀ posting ∈ postings, ∀ room, posting.Recorded room)
    (posted : room.postAll postings = some after) :
    ∃ added, Ledgered room added after := by
  induction postings generalizing room with
  | nil =>
    cases posted
    exact ⟨[], .refl _⟩
  | cons head tail ih =>
    rw [Stockroom.postAll_cons, Option.bind_eq_some_iff] at posted
    obtain ⟨middle, first, rest⟩ := posted
    obtain ⟨front, one⟩ := ledgered_post distinct first (recorded head List.mem_cons_self room)
    obtain ⟨back, others⟩ := ih (one.distinct distinct) (fun posting member =>
        recorded posting (List.mem_cons_of_mem _ member)) rest
    exact ⟨front ++ back, one.append others⟩

/-! ### Movements and their rows -/

theorem recordedBy_reserve (listingId userId : Id) (amount : ℤ) (note : Option String) :
    RecordedBy { listingId, userId, change := amount, type := .reservation, note }
      (.reserve amount) := by
  intro levels after applied
  rw [Movement.apply] at applied
  split at applied
  · cases applied
  · cases applied
    rfl

theorem recordedBy_release (listingId userId : Id) (amount : ℤ) (note : Option String) :
    RecordedBy { listingId, userId, change := -amount, type := .release, note }
      (.release amount) := by
  intro levels after applied
  cases applied
  simp [Counts.enter, Levels.booked]

theorem recordedBy_cancel (listingId userId : Id) (amount : ℤ) (note : Option String) :
    RecordedBy { listingId, userId, change := amount, type := .cancellation, note }
      (.release amount) := by
  intro levels after applied
  cases applied
  rfl

theorem recordedBy_sell (listingId userId : Id) (amount : ℤ) (note : Option String) :
    RecordedBy { listingId, userId, change := -amount, type := .purchase, note }
      (.sell amount) := by
  intro levels after applied
  cases applied
  simp [Counts.enter, Levels.booked, sub_eq_add_neg]

theorem recordedBy_restock (type : InventoryChangeType)
    (onQuantity : InventoryChangeType.OnQuantity type)
    (listingId userId : Id) (change : ℤ) (note : Option String) :
    RecordedBy { listingId, userId, change, type, note } (.restock change) := by
  intro levels after applied
  cases applied
  rw [enter_onQuantity onQuantity]
  rfl

/-! ### Runs -/

/-- The adjustments of the call are recorded as changes of the quantity, and
an adjusted variant belongs to a listing whose counters are the sums of its
variants'. -/
def Labelled (world : World) (turn : StockTurn) : Prop :=
  match turn.1 with
  | .adjustInventory _ _ _ type _ => InventoryChangeType.OnQuantity type
  | .adjustVariantInventory variantId userId change type note =>
    (Posting.variant variantId userId change type note).Recorded world.stockroom
  | _ => True

theorem ledgered_stocktake {world : World} {turn : StockTurn}
    (distinct : Distinct world.stockroom) (labelled : Labelled world turn) :
    ∃ added,
      Ledgered world.stockroom added (stocktake world turn).stockroom := by
  cases outcome : returns world turn with
  | false =>
    rw [stockroom_stocktake outcome]
    exact ⟨[], .refl _⟩
  | true =>
    have posted := postAll_stocktake outcome
    obtain ⟨call, faults⟩ := turn
    cases call with
    | adjustVariantInventory variantId userId change type note =>
      rw [InventoryCall.postings, postAll_single] at posted
      exact ledgered_post distinct posted labelled
    | adjustInventory listingId userId change type note =>
      rw [InventoryCall.postings, postAll_single] at posted
      exact ledgered_post distinct posted
        (recordedBy_restock type labelled listingId userId change note)
    | bulkUpdateInventory updates =>
      apply ledgered_postAll distinct _ posted
      intro posting member room
      obtain ⟨update, _, rfl⟩ := List.mem_map.mp member
      exact recordedBy_restock .bulkUpdate trivial _ _ _ _
    | reserveForOrder order =>
      apply ledgered_postAll distinct _ posted
      intro posting member room
      obtain ⟨item, _, rfl⟩ := List.mem_map.mp member
      exact recordedBy_reserve _ _ _ _
    | confirmOrder order =>
      apply ledgered_postAll distinct _ posted
      intro posting member room
      obtain ⟨item, _, rfl⟩ := List.mem_map.mp member
      exact recordedBy_sell _ _ _ _
    | cancelOrder order =>
      apply ledgered_postAll distinct _ posted
      intro posting member room
      obtain ⟨item, _, rfl⟩ := List.mem_map.mp member
      exact recordedBy_cancel _ _ _ _
    | restoreInventoryFromRefund order =>
      apply ledgered_postAll distinct _ posted
      intro posting member room
      obtain ⟨item, _, rfl⟩ := List.mem_map.mp member
      exact recordedBy_restock .refund trivial _ _ _ _
    | reserveInventory productId userId amount =>
      rw [InventoryCall.postings, postAll_single] at posted
      exact ledgered_post distinct posted (recordedBy_reserve _ _ _ _)
    | releaseInventory productId userId amount =>
      rw [InventoryCall.postings, postAll_single] at posted
      exact ledgered_post distinct posted (recordedBy_release _ _ _ _)
    | commitSale productId userId amount =>
      rw [InventoryCall.postings, postAll_single] at posted
      exact ledgered_post distinct posted (recordedBy_sell _ _ _ _)

/-- Over every run: the history has grown by rows whose replay, id by id,
leads every product and every listing from its first counters to its last;
and no call that throws adds a row. -/
theorem history_is_ledger {world : World} {turns : List StockTurn}
    (distinct : Distinct world.stockroom) (labelled : Along stocktake Labelled world turns) :
    (∃ added, Ledgered world.stockroom added (run stocktake world turns).stockroom) ∧
    Along stocktake (fun world turn => returns world turn = false →
        (stocktake world turn).db.histories = world.db.histories)
      world turns := by
  constructor
  · have preserved : ∀ current turn, (∃ added, Ledgered world.stockroom added current.stockroom) →
          Labelled current turn → ∃ added, Ledgered world.stockroom added
              (stocktake current turn).stockroom := by
      rintro current turn ⟨front, before⟩ labelled
      obtain ⟨back, now⟩ := ledgered_stocktake (before.distinct distinct) labelled
      exact ⟨front ++ back, before.append now⟩
    exact run_invariant preserved ⟨[], .refl _⟩ labelled
  · apply labelled.mono
    intro current turn _ thrown
    exact congrArg Stockroom.histories (stockroom_stocktake thrown)

/-- The shop with its listing alone. -/
def listingShop : World :=
  { openShop with db := { openShop.db with products := .empty } }

/-- One lamp, ordered. -/
def lampOrder : Order where
  id := 0
  buyerId := 7
  totalAmount := 100
  items :=
    [{ productId := 0
       productName := "lamp"
       quantity := 1
       price := 100
       subtotal := 100
       priceCurrency := .USD
       quantity_pos := single_positive }]

/-- A lamp more on the listing, one reserved, one sold. -/
theorem lamps_on_ledger :
    (∃ added, Ledgered listingShop.stockroom added (run stocktake listingShop
        [(.adjustInventory 0 7 1 .adjustment none, []), (.reserveForOrder lampOrder, []),
          (.confirmOrder lampOrder, [])]).stockroom) ∧ Along stocktake
      (fun world turn => returns world turn = false →
        (stocktake world turn).db.histories = world.db.histories) listingShop
      [(.adjustInventory 0 7 1 .adjustment none, []),
        (.reserveForOrder lampOrder, []), (.confirmOrder lampOrder, [])] :=
  history_is_ledger (fun _ => .inl rfl) ⟨trivial, trivial, trivial, trivial⟩

/-- An adjustment may be recorded under any type.  Recorded as a reservation
it leaves the row a reservation leaves, but other counters: no way of reading
the rows gives both. -/
theorem no_replay_fits :
    ¬ ∃ enter : Counts → InventoryChangeType → ℤ → Counts,
      ∀ (turns : List StockTurn) (before after : Listing),
        listingShop.db.listings.row 0 = some before →
        (run stocktake listingShop turns).db.listings.row 0 = some after → counts after =
            (rowsOf 0 (run stocktake listingShop turns).db.histories).foldl
              (fun counts row => enter counts row.type row.change) (counts before) := by
  rintro ⟨enter, reproduces⟩
  have adjusted := reproduces [(.adjustInventory 0 7 1 .reservation none, [])]
    { id := 0, title := "lamp", price := 100, quantity := 10
      available := 10 }
    { id := 0, title := "lamp", price := 100, quantity := 11
      available := 11 } rfl (by decide)
  have reserved := reproduces [(.reserveForOrder lampOrder, [])]
    { id := 0, title := "lamp", price := 100, quantity := 10
      available := 10 }
    { id := 0, title := "lamp", price := 100, quantity := 10, reserved := 1
      available := 9 } rfl (by decide)
  have adjustedRows :
      rowsOf 0 (run stocktake listingShop
        [(.adjustInventory 0 7 1 .reservation none, [])]).db.histories =
      [{ listingId := 0, userId := 7, change := 1, type := .reservation }] := by decide
  have reservedRows :
      rowsOf 0 (run stocktake listingShop [(.reserveForOrder lampOrder, [])]).db.histories =
      [{ listingId := 0, userId := 7, change := 1, type := .reservation
         note := some "Reserved for order 0" }] := by decide
  rw [adjustedRows] at adjusted
  rw [reservedRows] at reserved
  have same := adjusted.trans reserved.symm
  exact absurd (congrArg Counts.quantity same) (by decide)

open Effects

/-! ### The property -/

/-- Neither paid nor cancelled: its items are reserved. -/
def isOpen (order : Order) : Bool := order.paymentStatus ≠ .paid ∧ order.status ≠ .cancelled

def isSold (order : Order) : Bool := order.paymentStatus = .paid ∧ order.status ≠ .cancelled

/-- The units of a product an order counts for. -/
def units (counts : Order → Bool) (productId : Id) (order : Order) : ℤ :=
  if counts order then demand productId order.items else 0

/-- The units of a product in all the orders that count. -/
def tally (counts : Order → Bool) (productId : Id) (world : World) : ℤ :=
  world.db.orders.total (units counts productId)

/-- Every product of the start is still there, and the orders account for
what has changed. -/
def Conserved (start world : World) : Prop :=
  ∀ id initial, start.db.products.row id = some initial →
    ∃ product, world.db.products.row id = some product ∧
      product.reserved = initial.reserved + tally isOpen id world ∧
      product.quantity = initial.quantity - tally isSold id world

/-! ### The condition -/

/-- The calls that create, pay, move and cancel orders, and the world
outside. -/
def Event.isStock : Event → Bool
  | .call (.createShipment _) _ | .call (.updateShipmentStatus _ _) _
  | .call (.analyzeRequest _) _ => false
  | _ => true

/-- No order is paid, and none is cancelled through a status update: both
leave the reservation on the product alone. -/
def KeepsStock (world : World) : Event → Prop
  | .call (.updateStatus id dto) _ =>
    dto.status = .paid ∨ dto.status = .cancelled → ∀ order ∈ world.db.orders.row id, dto.status ∈
            orderTransitionValidator.validTransitions order.status → ¬ ∀ item ∈ order.items,
            (world.db.listings.row item.productId).isSome
  | .call (.verifyAndConfirmPayment paymentId data) _ =>
    ∀ payment ∈ world.db.payments.row paymentId, payment.status = .pending →
        PaymentsService.checkTransaction payment data world.now = none →
          ∀ order ∈ world.db.orders.row payment.orderId, order.status = .manualReview
  | _ => True

instance (world : World) : ∀ event, Decidable (KeepsStock world event)
  | .call (.updateStatus _ _) _ =>
    inferInstanceAs (Decidable (_ ∨ _ → ∀ order ∈ _, _ → ¬ ∀ item ∈ _, _))
  | .call (.verifyAndConfirmPayment _ _) _ =>
    inferInstanceAs (Decidable (∀ payment ∈ _, _ → _ → ∀ order ∈ _, _))
  | .call (.create _) _ | .call (.cancelOrder _ _) _
  | .call (.initiatePayment _) _ | .call (.handlePaymentTimeout _) _
  | .call (.createShipment _) _ | .call (.updateShipmentStatus _ _) _
  | .call (.analyzeRequest _) _ | .elsewhere _ _ _ _ => inferInstanceAs (Decidable True)

/-! ### One step -/

theorem units_nonneg (counts : Order → Bool) (productId : Id)
    (order : Order) : 0 ≤ units counts productId order := by
  unfold units
  split <;> simp [demand_nonneg]

structure Balanced (start world : World) : Prop where
  conserved : Conserved start world
  unpaid : ∀ id order, world.db.orders.row id = some order → order.paymentStatus ≠ .paid

section

variable {foldAddress : String → String} {start world after : World}

theorem Balanced.of_same (balanced : Balanced start world)
    (orders : after.db.orders = world.db.orders)
    (products : after.db.products = world.db.products) :
    Balanced start after := by
  obtain ⟨conserved, unpaid⟩ := balanced
  constructor <;> grind [Conserved, tally]

variable {order : Order} {key : Id}

theorem unpaid_save (unpaid : ∀ id order, world.db.orders.row id = some order →
      order.paymentStatus ≠ .paid) (orders : after.db.orders = world.db.orders.save order)
    (unpaidOrder : order.paymentStatus ≠ .paid) :
    ∀ id order, after.db.orders.row id = some order →
      order.paymentStatus ≠ .paid := by grind [Table.row_save]

theorem tally_replace {later : Order} (found : world.db.orders.row key = some order)
    (orders : after.db.orders = world.db.orders.save later)
    (sameId : later.id = order.id) (counts : Order → Bool) (id : Id) :
    tally counts id after + units counts id order =
      tally counts id world + units counts id later := by
  have keyed : Keyed.key later = key := sameId.trans (world.db.orders.keyed found)
  simp_all [tally, Table.total_replace]

theorem tally_insert (fresh : order.id = world.db.orders.next)
    (orders : after.db.orders = world.db.orders.save order) (counts : Order → Bool) (id : Id) :
    tally counts id after = tally counts id world + units counts id order := by
  simp_all [Keyed.key, tally, Table.total_insert]

theorem Balanced.created (balanced : Balanced start world)
    (fresh : order.id = world.db.orders.next) (pending : order.status = .pending)
    (unpaid : order.paymentStatus = .unpaid)
    (stocked : Stocked reserving order.items (world.withOrder order) true after) :
    Balanced start after := by
  have orders : after.db.orders = world.db.orders.save order := stocked.books.orders
  refine ⟨?_, unpaid_save balanced.unpaid orders (by simp [unpaid])⟩
  intro id initial stored
  obtain ⟨product, found, reserved, quantity⟩ := balanced.conserved id initial stored
  obtain ⟨stockedProduct, storedLater, sameQuantity, reservedLater⟩ :=
    stocked.products rfl id product found
  have openUnits : units isOpen id order = demand id order.items := by
    simp [units, isOpen, pending, unpaid]
  have soldUnits : units isSold id order = 0 := by simp [units, isSold, unpaid]
  grind [reservedAfter_reserving, tally_insert]

theorem Balanced.cancelled (balanced : Balanced start world)
    (nonneg : ∀ id product, start.db.products.row id = some product → 0 ≤ product.reserved)
    (found : world.db.orders.row key = some order)
    (active : order.status ≠ .cancelled) (stocked : Stocked releasing order.items
      (world.withOrder (OrdersService.cancelledOrder order world.now)) true after) :
    Balanced start after := by
  have orders : after.db.orders = world.db.orders.save
      (OrdersService.cancelledOrder order world.now) := stocked.books.orders
  have unpaid := balanced.unpaid key order found
  refine ⟨?_, unpaid_save balanced.unpaid orders unpaid⟩
  intro id initial stored
  obtain ⟨product, foundProduct, reserved, quantity⟩ := balanced.conserved id initial stored
  obtain ⟨stockedProduct, storedLater, sameQuantity, reservedLater⟩ :=
    stocked.products rfl id product foundProduct
  have openBefore : units isOpen id order = demand id order.items := by
    simp [units, isOpen, active, unpaid]
  have openAfter : units isOpen id (OrdersService.cancelledOrder order world.now) = 0 := by
    simp [units, isOpen, OrdersService.cancelledOrder]
  have soldBefore : units isSold id order = 0 := by simp [units, isSold, unpaid]
  have soldAfter : units isSold id (OrdersService.cancelledOrder order world.now) = 0 := by
    simp [units, isSold, OrdersService.cancelledOrder]
  have opened : tally isOpen id after + demand id order.items =
      tally isOpen id world := by
    have replaced := tally_replace found orders rfl isOpen id
    rwa [openBefore, openAfter, add_zero] at replaced
  have sold : tally isSold id after = tally isSold id world := by
    have replaced := tally_replace found orders rfl isSold id
    rwa [soldBefore, soldAfter, add_zero, add_zero] at replaced
  -- the other open orders ask for no less than nothing
  have others : 0 ≤ tally isOpen id after := Table.total_nonneg _ (units_nonneg isOpen id)
  grind [reservedAfter_releasing]

theorem Balanced.moved (balanced : Balanced start world) {status : OrderStatus}
    (found : world.db.orders.row key = some order)
    (allowed : status ∈ orderTransitionValidator.validTransitions order.status)
    (neither : ¬ (status = .paid ∨ status = .cancelled))
    (books : SameBooks (world.withOrder (movedOrder order status world.now)) after) :
    Balanced start after := by
  have orders : after.db.orders =
      world.db.orders.save (movedOrder order status world.now) := books.orders
  have unpaid := balanced.unpaid key order found
  have active : order.status ≠ .cancelled := by
    intro cancelled
    rw [cancelled] at allowed
    cases allowed
  have notPaid : status ≠ .paid := fun paid => neither (.inl paid)
  have notCancelled : status ≠ .cancelled :=
    fun cancelled => neither (.inr cancelled)
  have paymentStatus : (movedOrder order status world.now).paymentStatus =
      order.paymentStatus := by
    cases status <;> first | rfl | exact absurd rfl notPaid
  have items : (movedOrder order status world.now).items = order.items := by
    cases status <;> rfl
  have tallied : ∀ counts, counts = isOpen ∨ counts = isSold → ∀ id,
      tally counts id after = tally counts id world := by
    intro counts either id
    have sameUnits :
        units counts id (movedOrder order status world.now) =
          units counts id order := by
      rcases either with rfl | rfl <;> simp [units, isOpen, isSold, paymentStatus, items, active,
          notCancelled]
    grind [tally_replace, movedOrder_id]
  have products : after.db.products = world.db.products := books.products
  refine ⟨?_, unpaid_save balanced.unpaid orders (paymentStatus ▸ unpaid)⟩
  intro id initial stored
  rw [tallied isOpen (.inl rfl), tallied isSold (.inr rfl), products]
  exact balanced.conserved id initial stored

theorem balanced_trade (nonneg : ∀ id product, start.db.products.row id = some product →
      0 ≤ product.reserved) (world : World) (event : Event) (balanced : Balanced start world)
    (condition : event.isStock = true ∧ KeepsStock world event) :
    Balanced start (trade foldAddress world event) := by
  obtain ⟨isStock, keeps⟩ := condition
  cases event with
  | elsewhere now catalogue geoDistance wallets => exact balanced.of_same rfl rfl
  | call call faults =>
    have booked := booked_call foldAddress world call faults
    generalize (commerce.exec _ faults world).1.isOk = returns at booked
    cases booked with
    | kept books => exact balanced.of_same books.orders books.products
    | created fresh pending unpaid stocked => exact balanced.created fresh pending unpaid stocked
    | cancelled found owner active stocked => exact balanced.cancelled nonneg found active stocked
    | moved found allowed listed books =>
      apply balanced.moved found allowed _ books
      intro either
      exact keeps either _ found allowed (listed either)
    | initiated _ _ _ _ _ books | refused _ _ books
    | halfConfirmed _ _ _ _ books | timedOut _ _ books =>
      exact balanced.of_same books.orders books.products
    | confirmed found pending ordered unheld valid books =>
      exact absurd (keeps _ found pending valid _ ordered) unheld
    | labelled | shipped | forwarded | delivered | held => cases isStock

/-! ### A whole run -/

/-- From a database without orders and with no negative reservation, in every
run whose steps meet the condition: the reserved quantity of a product is the
initial one and what the open orders ask for, and its quantity is the initial
one without what has been sold. -/
theorem stock_conserved (noOrders : ∀ id, start.db.orders.row id = none)
    (nonneg : ∀ id product, start.db.products.row id = some product → 0 ≤ product.reserved)
    {events : List Event} (stockEvents : ∀ event ∈ events, event.isStock = true)
    (keeps : Along (trade foldAddress) KeepsStock start events) :
    Conserved start (run (trade foldAddress) start events) := by
  have initially : Balanced start start := by
    constructor
    · intro id initial stored
      refine ⟨initial, stored, ?_, ?_⟩ <;> simp [tally, Table.total_of_no_rows _ noOrders]
    · intro id order stored
      cases (noOrders id).symm.trans stored
  exact (run_invariant (balanced_trade nonneg) initially
    ((along_of_forall stockEvents).and keeps)).conserved

end

/-- Two orders, one of which its buyer cancels. -/
def cancelledReservation : List Event := [ .call (.create twoLamps) [], .call (.create twoLamps) [],
    .call (.updateStatus 0 { status := .confirmed }) [],
    .call (.cancelOrder 0 7) [none, none, some (.error "timeout")], .call (.cancelOrder 0 7) [] ]

theorem cancelled_reservation_conserved :
    Conserved openShop (run (trade id) openShop cancelledReservation) := by
  refine stock_conserved (fun _ => rfl) ?_ (by decide) (by decide)
  intro key product stored
  change (Table.save .empty _).row key = some product at stored
  rw [Table.row_save] at stored
  split at stored
  · cases stored
    decide
  · cases stored

/-- An order that is paid for. -/
def paidReservation : List Event := [ .call (.create twoLamps) [],
    .call (.initiatePayment { orderId := 0, currency := .USD }) [],
    .call (.verifyAndConfirmPayment 0 lampTransfer) [] ]

/-- The two lamps are sold and stay reserved. -/
theorem payment_keeps_reservation :
    ¬ Conserved openShop (run (trade id) openShop paidReservation) := by
  intro conserved
  obtain ⟨product, stored, reserved, -⟩ := conserved 0 _ rfl
  have kept :
      ((run (trade id) openShop paidReservation).db.products.row 0).map
        Product.reserved = some 2 := by decide +kernel
  have noneOpen :
      tally isOpen 0 (run (trade id) openShop paidReservation) = 0 := by decide +kernel
  rw [stored, Option.map_some, reserved, noneOpen] at kept
  cases kept

end MarketX.Commerce
