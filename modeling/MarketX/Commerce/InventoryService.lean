/-
Module: MarketX.Commerce.InventoryService
Purpose: The inventory service (`inventory/inventory.service.ts`):
  reservation, release and sale on products, and the adjustments and order
  operations on listings and their variants.
Trusted boundary: human-reviewed model of the source
Main exports: reserveInventory, releaseInventory, commitSale, adjustVariantInventory
-/
import Mathlib.Algebra.Order.Ring.Unbundled.Rat
import MarketX.Commerce.World

namespace MarketX.Commerce

open Effects

namespace InventoryService

/-- Inside the transaction of the caller, which passes its manager. -/
def reserveInventory (productId userId : Id) (amount : ℤ) :
    Service Product := do
  match ← productRepo.findOne productId with
  | none => throw (.notFound "Product not found")
  | some product =>
    if product.available < amount then
      throw (.badRequest s!"Insufficient stock for product: {product.title}")
    let reserved := product.reserved + amount
    let product :=
      { product with reserved, available := product.quantity - reserved }
    productRepo.save product
    historyRepo.insert
      { listingId := productId
        userId
        change := amount
        type := .reservation
        note := some "Reserved for checkout" }
    if product.available ≤ 5 then
      emit (.inventoryLowStock product.id product.title product.available none)
    pure product

/-- Inside the transaction of the caller, which passes its manager. -/
def releaseInventory (productId userId : Id) (amount : ℤ) :
    Service Product := do
  match ← productRepo.findOne productId with
  | none => throw (.notFound "Product not found")
  | some product =>
    let released := product.reserved - amount
    let reserved := if released < 0 then 0 else released
    let product :=
      { product with reserved, available := product.quantity - reserved }
    productRepo.save product
    historyRepo.insert
      { listingId := productId
        userId
        change := -amount
        type := .release
        note := some "Reservation released (order cancelled/expired)" }
    pure product

/-- Inside the transaction of the caller, which passes its manager. -/
def commitSale (productId userId : Id) (amount : ℤ) : Service Product := do
  match ← productRepo.findOne productId with
  | none => throw (.notFound "Product not found")
  | some product =>
    let quantity := product.quantity - amount
    let released := product.reserved - amount
    let reserved := if released < 0 then 0 else released
    let product :=
      { product with quantity, reserved, available := quantity - reserved }
    productRepo.save product
    historyRepo.insert
      { listingId := productId
        userId
        change := -amount
        type := .purchase }
    pure product

def notifyLowStock (listing : Listing) : Service Unit :=
  emit (.inventoryLowStock listing.id listing.title listing.available (some listing.id))

/-- The listing as its variants make it. -/
def aggregated (listing : Listing) : List ListingVariant → Listing
  | [] =>
    { listing with available := listing.quantity - listing.reserved }
  | first :: rest =>
    let variants := first :: rest
    { listing with
      quantity := (variants.map ListingVariant.quantity).sum
      reserved := (variants.map ListingVariant.reserved).sum
      available := (variants.map ListingVariant.available).sum
      price := (rest.map ListingVariant.price).foldl min first.price
      currency := first.currency }

/-- Returns the listing, which the source changes in place. -/
def syncListingAggregate (listing : Listing) : Service Listing := do
  let variants ← variantRepo.find listing.id
  let listing := aggregated listing variants
  listingRepo.save listing
  pure listing

def adjustVariantInventory (variantId userId : Id) (change : ℤ)
    (type : InventoryChangeType) (note : Option String := none) :
    Service ListingVariant := transaction do
    match ← variantRepo.findOne variantId with
    | none => throw (.notFound "Variant not found")
    | some variant =>
      let quantity := variant.quantity + change
      let variant :=
        { variant with quantity, available := quantity - variant.reserved }
      if variant.available < 0 then
        throw (.badRequest "Insufficient inventory for variant")
      variantRepo.save variant
      let listing ← match ← listingRepo.findOne variant.listingId with
        | none => pure none
        | some listing => do
            let listing ← syncListingAggregate listing
            pure (some listing)
      historyRepo.insert { listingId := variant.listingId, userId, change, type, note }
      if variant.available ≤ 5 then
        match listing with
        | none => pure ()
        | some listing => notifyLowStock listing
      pure variant

def adjustInventory (listingId userId : Id) (change : ℤ)
    (type : InventoryChangeType) (note : Option String := none) :
    Service Listing := transaction do
    match ← listingRepo.findOne listingId with
    | none => throw (.notFound s!"Listing {listingId} not found")
    | some listing =>
      let quantity := listing.quantity + change
      let listing :=
        { listing with quantity, available := quantity - listing.reserved }
      listingRepo.save listing
      historyRepo.insert { listingId, userId, change, type, note }
      if listing.available ≤ 5 then
        notifyLowStock listing
      pure listing

structure InventoryUpdate where
  listingId : Id
  userId : Id
  change : ℤ
  note : Option String := none
deriving DecidableEq

/-- One turn of the loop of `bulkUpdateInventory`: a listing that is not there
is passed over. -/
def bulkUpdateItem (results : List Listing) (update : InventoryUpdate) :
    Service (List Listing) := do
  match ← listingRepo.findOne update.listingId with
  | none => pure results
  | some listing =>
    let quantity := listing.quantity + update.change
    let listing :=
      { listing with quantity, available := quantity - listing.reserved }
    listingRepo.save listing
    historyRepo.insert
      { listingId := update.listingId
        userId := update.userId
        change := update.change
        type := .bulkUpdate
        note := update.note }
    pure (results ++ [listing])

def bulkUpdateInventory (updates : List InventoryUpdate) :
    Service (List Listing) := transaction (updates.foldlM bulkUpdateItem [])

/-- One turn of the loop of `reserveForOrder`. -/
def reserveItem (order : Order) (item : OrderItem) : Service Unit := do
  match ← listingRepo.findOne item.productId with
  | none => throw (.notFound s!"Listing {item.productId} not found")
  | some listing =>
    if listing.available < item.quantity then
      throw (.badRequest (s!"Not enough inventory for {item.productName}. Available: " ++
          s!"{listing.available}, Requested: {item.quantity}"))
    let reserved := listing.reserved + item.quantity
    let listing :=
      { listing with reserved, available := listing.quantity - reserved }
    listingRepo.save listing
    historyRepo.insert
      { listingId := item.productId
        userId := order.buyerId
        change := item.quantity
        type := .reservation
        note := some s!"Reserved for order {order.id}" }

def reserveForOrder (order : Order) : Service Unit :=
  transaction (order.items.forM (reserveItem order))

/-- One turn of the loop of `confirmOrder`. -/
def confirmItem (order : Order) (item : OrderItem) : Service Unit := do
  match ← listingRepo.findOne item.productId with
  | none => throw (.notFound s!"Listing {item.productId} not found")
  | some listing =>
    let quantity := listing.quantity - item.quantity
    let released := listing.reserved - item.quantity
    let reserved := if released < 0 then 0 else released
    let listing :=
      { listing with quantity, reserved, available := quantity - reserved }
    listingRepo.save listing
    historyRepo.insert
      { listingId := item.productId
        userId := order.buyerId
        change := -item.quantity
        type := .purchase
        note := some s!"Order {order.id} confirmed" }
    if listing.available ≤ 5 then
      notifyLowStock listing

def confirmOrder (order : Order) : Service Unit :=
  transaction (order.items.forM (confirmItem order))

/-- One turn of the loop of `cancelOrder`. -/
def cancelItem (order : Order) (item : OrderItem) : Service Unit := do
  match ← listingRepo.findOne item.productId with
  | none => throw (.notFound s!"Listing {item.productId} not found")
  | some listing =>
    let released := listing.reserved - item.quantity
    let reserved := if released < 0 then 0 else released
    let listing :=
      { listing with reserved, available := listing.quantity - reserved }
    listingRepo.save listing
    historyRepo.insert
      { listingId := item.productId
        userId := order.buyerId
        change := item.quantity
        type := .cancellation
        note := some s!"Order {order.id} cancelled" }

def cancelOrder (order : Order) : Service Unit := transaction (order.items.forM (cancelItem order))

/-- One turn of the loop of `restoreInventoryFromRefund`. -/
def restoreItem (order : Order) (item : OrderItem) : Service Unit := do
  match ← listingRepo.findOne item.productId with
  | none => throw (.notFound s!"Listing {item.productId} not found")
  | some listing =>
    let quantity := listing.quantity + item.quantity
    let listing :=
      { listing with quantity, available := quantity - listing.reserved }
    listingRepo.save listing
    historyRepo.insert
      { listingId := item.productId
        userId := order.buyerId
        change := item.quantity
        type := .refund
        note := some s!"Order {order.id} refunded" }
    if listing.available ≤ 5 then
      notifyLowStock listing

def restoreInventoryFromRefund (order : Order) : Service Unit :=
  transaction (order.items.forM (restoreItem order))

end InventoryService

end MarketX.Commerce
