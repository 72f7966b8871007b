/-
Module: MarketX.Commerce.Stockroom
Purpose: What the inventory service is for: a stockroom in which every
  movement of the levels goes with one row of the history, and the postings of
  one call are made together or not at all; and that the service keeps it so.
Trusted boundary: none
Main exports: Stockroom, Posting, Stockroom.post, Stockroom.postAll, levels_counted
-/
import MarketX.Commerce.Rules
import MarketX.Effects.Totals
import MarketX.Stockkeeping.Levels

namespace MarketX.Commerce

open Effects Handler Stockkeeping

/-! ### The stockroom -/

instance : Shelved Product where
  levels product := ⟨product.quantity, product.reserved, product.available⟩
  shelve product levels :=
    { product with
      quantity := levels.quantity
      reserved := levels.reserved
      available := levels.available }
  levels_shelve _ _ := rfl
  key_shelve _ _ := rfl

instance : Shelved Listing where
  levels listing := ⟨listing.quantity, listing.reserved, listing.available⟩
  shelve listing levels :=
    { listing with
      quantity := levels.quantity
      reserved := levels.reserved
      available := levels.available }
  levels_shelve _ _ := rfl
  key_shelve _ _ := rfl

/-- The tables the inventory service works on. -/
structure Stockroom where
  products : Table Product
  listings : Table Listing
  variants : Table ListingVariant
  histories : List InventoryHistory

def World.stockroom (world : World) : Stockroom where
  products := world.db.products
  listings := world.db.listings
  variants := world.db.variants
  histories := world.db.histories

/-- A movement and the history row that records it.  A bulk update passes
over a listing that is not there; an adjustment of a variant counts the
listing anew. -/
inductive Posting where
  | product (row : InventoryHistory) (movement : Movement)
  | listing (row : InventoryHistory) (movement : Movement)
  | bulk (row : InventoryHistory) (movement : Movement)
  | variant (id userId : Id) (change : ℤ) (type : InventoryChangeType) (note : Option String)
deriving DecidableEq

/-- The variant as an adjustment leaves it. -/
def adjustedVariant (variant : ListingVariant) (change : ℤ) :
    ListingVariant :=
  { variant with
    quantity := variant.quantity + change
    available := variant.quantity + change - variant.reserved }

namespace Stockroom

variable (room : Stockroom)

/-- The variants of a listing. -/
def variantsOf (listingId : Id) : List ListingVariant :=
  room.variants.rows.filter fun variant => variant.listingId = listingId

def record (row : InventoryHistory) : Stockroom :=
  { room with histories := room.histories ++ [row] }

/-- One of the variants is adjusted. -/
def adjusting (variant : ListingVariant) (change : ℤ) : Stockroom :=
  { room with
    variants := room.variants.save (adjustedVariant variant change) }

/-- The listing of an adjusted variant is counted anew. -/
def recounted (listingId : Id) : Stockroom :=
  match room.listings.row listingId with
  | none => room
  | some listing =>
    { room with
      listings := room.listings.save
        (InventoryService.aggregated listing (room.variantsOf listing.id)) }

/-- One posting; `none` where it is refused. -/
def post : Posting → Option Stockroom
  | .product row movement => do
      let products ← shift room.products row.listingId movement
      some ({ room with products }.record row)
  | .listing row movement => do
      let listings ← shift room.listings row.listingId movement
      some ({ room with listings }.record row)
  | .bulk row movement =>
    match room.listings.row row.listingId with
    | none => some room
    | some _ => do
        let listings ← shift room.listings row.listingId movement
        some ({ room with listings }.record row)
  | .variant id userId change type note => do
      let variant ← room.variants.row id
      if (adjustedVariant variant change).available < 0 then
        none
      else
        some (((room.adjusting variant change).recounted variant.listingId).record
          { listingId := variant.listingId, userId, change, type, note })

/-- The postings of one call, all of them or none. -/
def postAll (postings : List Posting) : Option Stockroom := postings.foldlM Stockroom.post room

@[simp] theorem postAll_nil : room.postAll [] = some room := rfl

theorem postAll_cons (head : Posting) (tail : List Posting) :
    room.postAll (head :: tail) = (room.post head).bind (postAll · tail) := rfl

end Stockroom

/-! ### The calls -/

/-- A call of the inventory service that can write. -/
inductive InventoryCall where
  | adjustVariantInventory (variantId userId : Id) (change : ℤ)
      (type : InventoryChangeType) (note : Option String)
  | adjustInventory (listingId userId : Id) (change : ℤ)
      (type : InventoryChangeType) (note : Option String)
  | bulkUpdateInventory (updates : List InventoryService.InventoryUpdate)
  | reserveForOrder (order : Order)
  | confirmOrder (order : Order)
  | cancelOrder (order : Order)
  | restoreInventoryFromRefund (order : Order)
  | reserveInventory (productId userId : Id) (amount : ℤ)
  | releaseInventory (productId userId : Id) (amount : ℤ)
  | commitSale (productId userId : Id) (amount : ℤ)
deriving DecidableEq

namespace InventoryCall

open InventoryService in
/-- The program of a call, without the value it returns.  Without a manager
the last three open a transaction of their own. -/
def program : InventoryCall → Service Unit
  | .adjustVariantInventory variantId userId change type note => do
      let _ ← InventoryService.adjustVariantInventory variantId userId change type note
      pure ()
  | .adjustInventory listingId userId change type note => do
      let _ ← InventoryService.adjustInventory listingId userId change type note
      pure ()
  | .bulkUpdateInventory updates => do
      let _ ← InventoryService.bulkUpdateInventory updates
      pure ()
  | .reserveForOrder order => InventoryService.reserveForOrder order
  | .confirmOrder order => InventoryService.confirmOrder order
  | .cancelOrder order => InventoryService.cancelOrder order
  | .restoreInventoryFromRefund order => InventoryService.restoreInventoryFromRefund order
  | .reserveInventory productId userId amount => do
      let _ ← transaction (InventoryService.reserveInventory productId userId amount)
      pure ()
  | .releaseInventory productId userId amount => do
      let _ ← transaction (InventoryService.releaseInventory productId userId amount)
      pure ()
  | .commitSale productId userId amount => do
      let _ ← transaction (InventoryService.commitSale productId userId amount)
      pure ()

/-- The history row of one item of an order. -/
def itemRow (order : Order) (item : OrderItem) (change : ℤ)
    (type : InventoryChangeType) (note : String) : InventoryHistory where
  listingId := item.productId
  userId := order.buyerId
  change
  type
  note := some note

def reservePosting (order : Order) (item : OrderItem) : Posting := .listing
    (itemRow order item item.quantity .reservation s!"Reserved for order {order.id}")
    (.reserve item.quantity)

def confirmPosting (order : Order) (item : OrderItem) : Posting := .listing
    (itemRow order item (-item.quantity) .purchase s!"Order {order.id} confirmed")
    (.sell item.quantity)

def cancelPosting (order : Order) (item : OrderItem) : Posting := .listing
    (itemRow order item item.quantity .cancellation s!"Order {order.id} cancelled")
    (.release item.quantity)

def restorePosting (order : Order) (item : OrderItem) : Posting := .listing
    (itemRow order item item.quantity .refund s!"Order {order.id} refunded")
    (.restock item.quantity)

def bulkPosting (update : InventoryService.InventoryUpdate) : Posting := .bulk
    { listingId := update.listingId
      userId := update.userId
      change := update.change
      type := .bulkUpdate
      note := update.note } (.restock update.change)

/-- What a call posts. -/
def postings : InventoryCall → List Posting
  | .adjustVariantInventory variantId userId change type note =>
    [.variant variantId userId change type note]
  | .adjustInventory listingId userId change type note =>
    [.listing { listingId, userId, change, type, note } (.restock change)]
  | .bulkUpdateInventory updates => updates.map bulkPosting
  | .reserveForOrder order => order.items.map (reservePosting order)
  | .confirmOrder order => order.items.map (confirmPosting order)
  | .cancelOrder order => order.items.map (cancelPosting order)
  | .restoreInventoryFromRefund order => order.items.map (restorePosting order)
  | .reserveInventory productId userId amount =>
    [.product
      { listingId := productId
        userId
        change := amount
        type := .reservation
        note := some "Reserved for checkout" } (.reserve amount)]
  | .releaseInventory productId userId amount =>
    [.product
      { listingId := productId
        userId
        change := -amount
        type := .release
        note := some "Reservation released (order cancelled/expired)" } (.release amount)]
  | .commitSale productId userId amount =>
    [.product
      { listingId := productId
        userId
        change := -amount
        type := .purchase } (.sell amount)]

end InventoryCall

/-! ### The service keeps the stockroom -/

/-- What a call comes to: its postings if it returns, nothing if it throws. -/
def AllOrNone (postings : List Posting) (room : Stockroom) (returns : Bool)
    (after : Stockroom) : Prop :=
  if returns then room.postAll postings = some after else after = room

section

variable {spared : Spared} {world : World}

/-- What the body of a transaction has to do. -/
def Posts (postings : List Posting) (world : World) (returns : Bool) (after : World) : Prop :=
  returns = true → world.stockroom.postAll postings = some after.stockroom

variable {α : Type} {key : Id} {levels : Levels} {listing : Listing} {message : String}

theorem allOrNone_transaction {body : Service α} {postings : List Posting}
    (posts : (commerce.shield spared).wp body
      (fun result after => Posts postings world result.isOk after) world) :
    (commerce.shield spared).wp (transaction body) (fun result after =>
        AllOrNone postings world.stockroom result.isOk after.stockroom)
      world := by
  apply wp_transaction
  · apply Handler.wp_mono _ posts
    intro result after posted
    cases result with
    | ok value => exact ⟨posted rfl, fun _ => rfl⟩
    | error error => exact rfl
  · exact fun _ => rfl

theorem posts_forM {body : α → Service Unit} {posting : α → Posting}
    (each : ∀ item current, (commerce.shield spared).wp (body item)
      (fun result after => Posts [posting item] current result.isOk after)
      current) (items : List α) :
    (commerce.shield spared).wp (items.forM body)
      (fun result after => Posts (items.map posting) world result.isOk after)
      world := by
  apply Handler.wp_forM _ fun items world returns after =>
    Posts (items.map posting) world returns after
  · exact fun current _ => rfl
  · exact each
  · exact fun head tail start after stopped => nofun
  · intro head tail start middle returns after front back done
    have first := front rfl
    rw [List.map_cons, List.map_nil, Stockroom.postAll_cons, Option.bind_eq_some_iff] at first
    obtain ⟨room, posted, same⟩ := first
    cases same
    rw [List.map_cons, Stockroom.postAll_cons, posted]
    exact back done

theorem post_product (room : Stockroom) (movement : Movement)
    {product : Product} (found : room.products.row key = some product)
    (applied : movement.apply (Shelved.levels product) = some levels)
    (row : InventoryHistory) (keyed : row.listingId = key) :
    room.post (.product row movement) = some (Stockroom.record
        { room with
          products := room.products.save (Shelved.shelve product levels) }
        row) := by simp_all [Stockroom.post, shift]

theorem post_listing (room : Stockroom) (movement : Movement)
    (found : room.listings.row key = some listing)
    (applied : movement.apply (Shelved.levels listing) = some levels)
    (row : InventoryHistory) (keyed : row.listingId = key) :
    room.post (.listing row movement) = some (Stockroom.record
        { room with
          listings := room.listings.save (Shelved.shelve listing levels) }
        row) := by simp_all [Stockroom.post, shift]

theorem postAll_single (room : Stockroom) (posting : Posting) :
    room.postAll [posting] = room.post posting := by
  rw [Stockroom.postAll_cons]
  cases room.post posting <;> rfl

theorem posts_failed {postings : List Posting} {world after : World} :
    Posts postings world false after := by
  intro posts
  cases posts

/-- The rule for an operation on a product, which throws where there is
none. -/
theorem posts_ofProduct {productId : Id} {body : Product → Service α} {postings : List Posting}
    (each : ∀ product, world.db.products.row productId = some product →
      (commerce.shield spared).wp (body product)
        (fun result after => Posts postings world result.isOk after) world) :
    (commerce.shield spared).wp (do match ← productRepo.findOne productId with
          | none => throw (.notFound message)
          | some product => body product)
      (fun result after => Posts postings world result.isOk after) world := by
  apply wp_await_bind _ _ fun _ _ => posts_failed
  simp only [act]
  cases found : world.db.products.row productId with
  | none => exact posts_failed
  | some product => exact each product found

/-- The rule for an operation on a listing, which throws where there is
none. -/
theorem posts_ofListing {listingId : Id} {body : Listing → Service α} {postings : List Posting}
    (each : ∀ listing, world.db.listings.row listingId = some listing →
      (commerce.shield spared).wp (body listing)
        (fun result after => Posts postings world result.isOk after) world) :
    (commerce.shield spared).wp (do match ← listingRepo.findOne listingId with
          | none => throw (.notFound message)
          | some listing => body listing)
      (fun result after => Posts postings world result.isOk after) world := by
  apply wp_await_bind _ _ fun _ _ => posts_failed
  simp only [act]
  cases found : world.db.listings.row listingId with
  | none => exact posts_failed
  | some listing => exact each listing found

theorem reserveInventory_posts (productId userId : Id) (amount : ℤ) :
    (commerce.shield spared).wp (InventoryService.reserveInventory productId userId amount)
      (fun result after =>
        Posts (InventoryCall.reserveInventory productId userId amount).postings
          world result.isOk after)
      world := by
  apply posts_ofProduct
  intro product found
  apply wp_guard
  · exact fun _ => nofun
  intro covered
  apply wp_await_bind _ _ fun _ _ => nofun
  apply wp_await_bind _ _ fun _ _ => nofun
  have posted := post_product world.stockroom (.reserve amount) found (if_neg covered)
  apply wp_branch
  · exact fun _ => wp_total_bind _ rfl fun _ =>
      (postAll_single _ _).trans (posted _ rfl)
  · exact fun _ _ => (postAll_single _ _).trans (posted _ rfl)

theorem releaseInventory_posts (productId userId : Id) (amount : ℤ) :
    (commerce.shield spared).wp (InventoryService.releaseInventory productId userId amount)
      (fun result after =>
        Posts (InventoryCall.releaseInventory productId userId amount).postings
          world result.isOk after)
      world := by
  apply posts_ofProduct
  intro product found
  apply wp_await_bind _ _ fun _ _ => nofun
  apply wp_await_bind _ _ fun _ _ => nofun
  intro done
  apply (postAll_single _ _).trans
  exact post_product world.stockroom (.release amount) found rfl _ rfl

theorem commitSale_posts (productId userId : Id) (amount : ℤ) :
    (commerce.shield spared).wp (InventoryService.commitSale productId userId amount)
      (fun result after =>
        Posts (InventoryCall.commitSale productId userId amount).postings world result.isOk after)
      world := by
  apply posts_ofProduct
  intro product found
  apply wp_await_bind _ _ fun _ _ => nofun
  apply wp_await_bind _ _ fun _ _ => nofun
  intro done
  apply (postAll_single _ _).trans
  exact post_product world.stockroom (.sell amount) found rfl _ rfl

theorem posts_notify {posting : Posting} {current : World} (low : Prop) [Decidable low]
    (posted : world.stockroom.post posting = some current.stockroom) :
    (commerce.shield spared).wp (if low then InventoryService.notifyLowStock listing else pure ())
      (fun result after => Posts [posting] world result.isOk after)
      current := by
  have single := (postAll_single _ _).trans posted
  apply wp_branch
  · intro warned
    unfold InventoryService.notifyLowStock
    exact ⟨fun _ => single, nofun⟩
  · exact fun _ _ => single

theorem reserveItem_posts (order : Order) (item : OrderItem) :
    (commerce.shield spared).wp (InventoryService.reserveItem order item) (fun result after =>
        Posts [InventoryCall.reservePosting order item] world result.isOk after)
      world := by
  unfold InventoryService.reserveItem
  apply posts_ofListing
  intro listing found
  apply wp_guard
  · exact fun _ => nofun
  intro covered
  apply wp_await_bind _ _ fun _ _ => nofun
  rw [wp_await]
  refine ⟨fun _ => (postAll_single _ _).trans ?_, fun _ _ _ => nofun⟩
  exact post_listing world.stockroom (.reserve item.quantity) found (if_neg covered) _ rfl

theorem confirmItem_posts (order : Order) (item : OrderItem) :
    (commerce.shield spared).wp (InventoryService.confirmItem order item) (fun result after =>
        Posts [InventoryCall.confirmPosting order item] world result.isOk after)
      world := by
  unfold InventoryService.confirmItem
  apply posts_ofListing
  intro listing found
  apply wp_await_bind _ _ fun _ _ => nofun
  apply wp_await_bind _ _ fun _ _ => nofun
  apply posts_notify
  exact post_listing world.stockroom (.sell item.quantity) found rfl _ rfl

theorem cancelItem_posts (order : Order) (item : OrderItem) :
    (commerce.shield spared).wp (InventoryService.cancelItem order item) (fun result after =>
        Posts [InventoryCall.cancelPosting order item] world result.isOk after)
      world := by
  unfold InventoryService.cancelItem
  apply posts_ofListing
  intro listing found
  apply wp_await_bind _ _ fun _ _ => nofun
  rw [wp_await]
  refine ⟨fun _ => (postAll_single _ _).trans ?_, fun _ _ _ => nofun⟩
  exact post_listing world.stockroom (.release item.quantity) found rfl _ rfl

theorem restoreItem_posts (order : Order) (item : OrderItem) :
    (commerce.shield spared).wp (InventoryService.restoreItem order item) (fun result after =>
        Posts [InventoryCall.restorePosting order item] world result.isOk after)
      world := by
  unfold InventoryService.restoreItem
  apply posts_ofListing
  intro listing found
  apply wp_await_bind _ _ fun _ _ => nofun
  apply wp_await_bind _ _ fun _ _ => nofun
  apply posts_notify
  exact post_listing world.stockroom (.restock item.quantity) found rfl _ rfl

theorem adjustInventory_spec (listingId userId : Id) (change : ℤ)
    (type : InventoryChangeType) (note : Option String) :
    (commerce.shield spared).wp (InventoryService.adjustInventory listingId userId change type note)
      (fun result after =>
        AllOrNone (InventoryCall.adjustInventory listingId userId change type note).postings
          world.stockroom result.isOk after.stockroom)
      world := by
  apply allOrNone_transaction
  apply posts_ofListing
  intro listing found
  apply wp_await_bind _ _ fun _ _ => nofun
  apply wp_await_bind _ _ fun _ _ => nofun
  have posted := post_listing world.stockroom (.restock change) found rfl
  apply wp_branch
  · intro low
    exact wp_total_bind _ rfl fun _ =>
      (postAll_single _ _).trans (posted _ rfl)
  · exact fun _ _ => (postAll_single _ _).trans (posted _ rfl)

theorem bulkUpdateInventory_spec (updates : List InventoryService.InventoryUpdate) :
    (commerce.shield spared).wp (InventoryService.bulkUpdateInventory updates) (fun result after =>
        AllOrNone (InventoryCall.bulkUpdateInventory updates).postings
          world.stockroom result.isOk after.stockroom)
      world := by
  apply allOrNone_transaction
  -- what is still to be posted takes the current room where all of it takes
  -- the room at the start
  apply Handler.wp_foldlM _ fun remaining _ current =>
    world.stockroom.postAll (updates.map InventoryCall.bulkPosting) =
      current.stockroom.postAll (remaining.map InventoryCall.bulkPosting)
  · rfl
  · intro update later results current reached
    rw [List.map_cons, Stockroom.postAll_cons] at reached
    apply wp_await_bind _ _ fun _ _ => nofun
    simp only [act]
    have present : ∀ listing, current.stockroom.listings.row update.listingId = some listing →
          current.stockroom.post (InventoryCall.bulkPosting update) = current.stockroom.post
              (.listing
                { listingId := update.listingId
                  userId := update.userId
                  change := update.change
                  type := .bulkUpdate
                  note := update.note } (.restock update.change)) := by
      simp_all [InventoryCall.bulkPosting, Stockroom.post]
    cases found : current.db.listings.row update.listingId with
    | none =>
      have absent :
          current.stockroom.listings.row update.listingId = none := found
      simp_all [InventoryCall.bulkPosting, Stockroom.post]
    | some listing =>
      have posted := post_listing current.stockroom (.restock update.change) found rfl
      rw [present listing found, posted _ rfl, Option.bind_some] at reached
      apply wp_await_bind _ _ fun _ _ => nofun
      apply wp_await_bind _ _ fun _ _ => nofun
      exact reached
  · exact fun results current reached _ => reached

theorem post_variant (room : Stockroom) {id : Id} (userId : Id) {change : ℤ}
    (type : InventoryChangeType) (note : Option String)
    {variant : ListingVariant} (found : room.variants.row id = some variant)
    (covered : ¬ (adjustedVariant variant change).available < 0) :
    room.post (.variant id userId change type note) =
      some (((room.adjusting variant change).recounted variant.listingId).record
        { listingId := variant.listingId, userId, change, type, note }) := by
  simp_all [Stockroom.post]

theorem adjustVariantInventory_spec (variantId userId : Id) (change : ℤ)
    (type : InventoryChangeType) (note : Option String) :
    (commerce.shield spared).wp
      (InventoryService.adjustVariantInventory variantId userId change type note)
      (fun result after =>
        AllOrNone (InventoryCall.adjustVariantInventory variantId userId change type note).postings
          world.stockroom result.isOk after.stockroom)
      world := by
  apply allOrNone_transaction
  apply wp_await_bind _ _ fun _ _ => posts_failed
  simp only [act]
  cases found : world.db.variants.row variantId with
  | none => exact posts_failed
  | some variant =>
    apply wp_guard
    · exact fun _ => posts_failed
    intro covered
    have posted := (postAll_single _ _).trans
      (post_variant world.stockroom userId type note found covered)
    apply wp_await_bind _ _ fun _ _ => posts_failed
    apply wp_await_bind _ _ fun _ _ => posts_failed
    simp only [act, World.withVariant]
    cases listed : world.db.listings.row variant.listingId with
    | none =>
      have absent : world.stockroom.listings.row variant.listingId =
        none := listed
      simp only [Stockroom.recounted, Stockroom.adjusting, absent] at posted
      apply wp_await_bind _ _ fun _ _ => posts_failed
      apply wp_branch
      · exact fun _ _ => posted
      · exact fun _ _ => posted
    | some listing =>
      have present : world.stockroom.listings.row variant.listingId =
        some listing := listed
      simp only [Stockroom.recounted, Stockroom.adjusting, present] at posted
      rw [wp_bind]
      apply wp_await_bind _ _ fun _ _ => posts_failed
      apply wp_await_bind _ _ fun _ _ => posts_failed
      apply wp_await_bind _ _ fun _ _ => posts_failed
      apply wp_branch
      · intro low
        exact wp_total_bind _ rfl fun _ => posted
      · exact fun _ _ => posted

theorem allOrNone_discard {program : Service α} {postings : List Posting}
    (spec : (commerce.shield spared).wp program (fun result after =>
        AllOrNone postings world.stockroom result.isOk after.stockroom)
      world) :
    (commerce.shield spared).wp (do let _ ← program; pure () : Service Unit) (fun result after =>
        AllOrNone postings world.stockroom result.isOk after.stockroom)
      world := by
  apply wp_discard
  apply Handler.wp_mono _ spec
  intro result after settled
  cases result <;> exact settled

theorem InventoryCall.program_spec (call : InventoryCall) :
    (commerce.shield spared).wp call.program (fun result after =>
        AllOrNone call.postings world.stockroom result.isOk after.stockroom)
      world := by
  cases call with
  | adjustVariantInventory variantId userId change type note =>
    exact allOrNone_discard (adjustVariantInventory_spec variantId userId change type note)
  | adjustInventory listingId userId change type note =>
    exact allOrNone_discard (adjustInventory_spec listingId userId change type note)
  | bulkUpdateInventory updates => exact allOrNone_discard (bulkUpdateInventory_spec updates)
  | reserveForOrder order =>
    exact allOrNone_transaction
      (posts_forM (fun item _ => reserveItem_posts order item) order.items)
  | confirmOrder order =>
    exact allOrNone_transaction
      (posts_forM (fun item _ => confirmItem_posts order item) order.items)
  | cancelOrder order =>
    exact allOrNone_transaction (posts_forM (fun item _ => cancelItem_posts order item) order.items)
  | restoreInventoryFromRefund order =>
    exact allOrNone_transaction
      (posts_forM (fun item _ => restoreItem_posts order item) order.items)
  | reserveInventory productId userId amount =>
    exact allOrNone_discard (allOrNone_transaction (reserveInventory_posts productId userId amount))
  | releaseInventory productId userId amount =>
    exact allOrNone_discard (allOrNone_transaction (releaseInventory_posts productId userId amount))
  | commitSale productId userId amount =>
    exact allOrNone_discard (allOrNone_transaction (commitSale_posts productId userId amount))

end

/-! ### Runs -/

/-- A call with the failures of its effects. -/
abbrev StockTurn := InventoryCall × List Fault

/-- Whether a call returns. -/
def returns (world : World) (turn : StockTurn) : Bool :=
  (commerce.exec turn.1.program turn.2 world).1.isOk

/-- One call after the other. -/
def stocktake (world : World) (turn : StockTurn) : World :=
  (commerce.exec turn.1.program turn.2 world).2

theorem allOrNone_stocktake (world : World) (turn : StockTurn) :
    AllOrNone turn.1.postings world.stockroom (returns world turn)
      (stocktake world turn).stockroom := by
  have spec : (commerce.shield noneSpared).wp turn.1.program _ world := turn.1.program_spec
  rw [commerce.shield_none] at spec
  exact commerce.wp_sound spec turn.2

variable {world : World} {turn : StockTurn} {room : Stockroom} {id : Id} {variant : ListingVariant}

theorem postAll_stocktake (done : returns world turn = true) :
    world.stockroom.postAll turn.1.postings =
      some (stocktake world turn).stockroom := by
  have settled := allOrNone_stocktake world turn
  rwa [AllOrNone, if_pos done] at settled

theorem stockroom_stocktake (thrown : returns world turn = false) :
    (stocktake world turn).stockroom = world.stockroom := by
  have settled := allOrNone_stocktake world turn
  rwa [AllOrNone, if_neg (by simp [thrown])] at settled

open Effects Stockkeeping

/-- A number summed over the variants of a listing. -/
def Stockroom.variantTotal (room : Stockroom) (listingId : Id) (weight : ListingVariant → ℤ) : ℤ :=
  ((room.variantsOf listingId).map weight).sum

/-- The levels of a listing when one of its variants has been adjusted and the
listing counted anew. -/
def Stockroom.countAfter (room : Stockroom) (variant : ListingVariant) (change : ℤ) : Levels where
  quantity := room.variantTotal variant.listingId ListingVariant.quantity + change
  reserved := room.variantTotal variant.listingId ListingVariant.reserved
  available := room.variantTotal variant.listingId ListingVariant.available -
      variant.available + (variant.quantity + change - variant.reserved)

theorem sum_filter_eq (listingId : Id) (weight : ListingVariant → ℤ)
    (variants : List ListingVariant) :
    ((variants.filter fun variant => variant.listingId = listingId).map weight).sum =
      (variants.map fun variant =>
        if variant.listingId = listingId then weight variant else 0).sum := by
  induction variants <;> grind

theorem variantTotal_eq (room : Stockroom) (listingId : Id) (weight : ListingVariant → ℤ) :
    room.variantTotal listingId weight = room.variants.total fun variant =>
        if variant.listingId = listingId then weight variant else 0 :=
  sum_filter_eq listingId weight room.variants.rows

theorem variantTotal_adjusted (found : room.variants.row id = some variant)
    (change : ℤ) (weight : ListingVariant → ℤ) :
    (room.adjusting variant change).variantTotal variant.listingId weight + weight variant =
      room.variantTotal variant.listingId weight +
        weight (adjustedVariant variant change) := by
  have stored :
      room.variants.row (Keyed.key (adjustedVariant variant change)) =
        some variant := by
    have key : Keyed.key variant = id := room.variants.keyed found
    exact (congrArg _ key).trans found
  have replaced := Table.total_replace (fun variant' : ListingVariant =>
      if variant'.listingId = variant.listingId then weight variant' else 0)
    stored
  have home : (adjustedVariant variant change).listingId =
    variant.listingId := rfl
  rw [if_pos rfl, if_pos home] at replaced
  rw [variantTotal_eq, variantTotal_eq]
  exact replaced

theorem key_aggregated (listing : Listing) (variants : List ListingVariant) :
    Keyed.key (InventoryService.aggregated listing variants) = listing.id := by
  cases variants <;> rfl

theorem levels_aggregated {listing : Listing}
    {variants : List ListingVariant} (some : variants ≠ []) :
    Shelved.levels (InventoryService.aggregated listing variants) =
      ⟨(variants.map ListingVariant.quantity).sum, (variants.map ListingVariant.reserved).sum,
        (variants.map ListingVariant.available).sum⟩ := by
  cases variants with
  | nil => exact absurd rfl some
  | cons first rest => rfl

theorem levels_counted (found : room.variants.row id = some variant)
    (listing : Listing) (change : ℤ) :
    Shelved.levels (InventoryService.aggregated listing
          ((room.adjusting variant change).variantsOf variant.listingId)) =
      room.countAfter variant change := by
  have member : adjustedVariant variant change ∈
      (room.adjusting variant change).variantsOf variant.listingId := List.mem_filter.mpr
      ⟨Table.mem_rows.mpr (Table.row_save_self _ _), decide_eq_true rfl⟩
  have quantity : _ + variant.quantity = _ + (variant.quantity + change) :=
    variantTotal_adjusted found change ListingVariant.quantity
  have reserved : _ + variant.reserved = _ + variant.reserved :=
    variantTotal_adjusted found change ListingVariant.reserved
  have available : _ + variant.available = _ + (variant.quantity + change - variant.reserved) :=
    variantTotal_adjusted found change ListingVariant.available
  grind [levels_aggregated, Stockroom.variantTotal, Stockroom.countAfter]

/-- What an accepted adjustment of a variant does: the history row is written,
and the listing, if there is one, is stored as its variants count it. -/
structure Recounted (room : Stockroom) (variant : ListingVariant)
    (change : ℤ) (row : InventoryHistory) (after : Stockroom) : Prop where
  histories : after.histories = room.histories ++ [row]
  products : after.products = room.products
  listings :
    (room.listings.row variant.listingId = none ∧ after.listings = room.listings) ∨
      ∃ listing, room.listings.row variant.listingId = some listing ∧
        after.listings = room.listings.save (InventoryService.aggregated listing
            ((room.adjusting variant change).variantsOf variant.listingId))

theorem variant_posted {after : Stockroom} {userId : Id}
    {change : ℤ} {type : InventoryChangeType} {note : Option String}
    (posted : room.post (.variant id userId change type note) = some after) :
    ∃ variant, room.variants.row id = some variant ∧
      0 ≤ variant.quantity + change - variant.reserved ∧ Recounted room variant change
          { listingId := variant.listingId, userId, change, type, note }
          after := by
  rw [Stockroom.post, Option.bind_eq_bind, Option.bind_eq_some_iff] at posted
  obtain ⟨variant, found, rest⟩ := posted
  split at rest
  next => cases rest
  next covered =>
    have nonneg : ¬ variant.quantity + change - variant.reserved < 0 := covered
    cases rest
    refine ⟨variant, found, not_lt.mp nonneg, ?_⟩
    cases listed : room.listings.row variant.listingId with
    | none =>
      have absent : (room.adjusting variant change).listings.row variant.listingId = none := listed
      simp only [Stockroom.recounted, absent]
      exact ⟨rfl, rfl, .inl ⟨listed, rfl⟩⟩
    | some listing =>
      have present : (room.adjusting variant change).listings.row
        variant.listingId = some listing := listed
      have home : listing.id = variant.listingId := room.listings.keyed listed
      simp only [Stockroom.recounted, present, home]
      exact ⟨rfl, rfl, .inr ⟨listing, listed, rfl⟩⟩

end MarketX.Commerce
