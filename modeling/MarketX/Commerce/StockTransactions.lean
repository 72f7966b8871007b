/-
Module: MarketX.Commerce.StockTransactions
Purpose: The row store the inventory service works on inside concurrent
  transactions: products, which its queries lock (`pessimistic_write`), and
  listings, which they do not; transactions that reserve and release products,
  and orders that reserve listings beside views of their pages.
Trusted boundary: human-reviewed model of the source
Main exports: productStore, listingStore, StockCall, StockScript
-/
import MarketX.Commerce.InventoryService
import MarketX.Commerce.ListingsService
import MarketX.Effects.TwoPhase

namespace MarketX.Commerce

open Effects

/-! ### The rows -/

/-- A shop without rows: what an effect answers that reads none. -/
def World.blank : World where
  db := .empty
  catalogue _ := none
  geoDistance _ _ := none
  counters _ := none
  events := []
  now := 0

/-- The table of products.  `findOne` asks for `pessimistic_write`; the row
it finds under a primary key has that key. -/
def productStore : RowStore signature Id Product where
  access
    | .findProduct id => .read id true
    | .saveProduct product => .write product.id product
    | _ => .elsewhere
  reply
    | .findProduct id, row => row.map fun product => { product with id }
    | op, _ => (act op .blank).1

/-- The table of listings, read without a lock. -/
def listingStore : RowStore signature Id Listing where
  access
    | .findListing id => .read id false
    | .saveListing listing => .write listing.id listing
    | _ => .elsewhere
  reply
    | .findListing id, row => row.map fun listing => { listing with id }
    | op, _ => (act op .blank).1

/-- The effects of the reservations and releases of products. -/
def onProducts : Op → Prop
  | .findProduct _ | .saveProduct _ | .insertHistory _ | .emit _ => True
  | _ => False

theorem productStore_behind :
    productStore.Behind commerce (fun world => world.db.products.row) onProducts where
  reply op among world := by
    cases op with
    | findProduct id =>
      show world.db.products.row id =
        (world.db.products.row id).map fun product => { product with id }
      cases found : world.db.products.row id with
      | none => rfl
      | some product =>
        have key : product.id = id := world.db.products.keyed found
        rw [Option.map_some, ← key]
    | saveProduct product => rfl
    | insertHistory history => rfl
    | emit event => rfl
    | _ => exact among.elim
  rows op among world := by
    cases op with
    | findProduct id => rfl
    | saveProduct product => rfl
    | insertHistory history => rfl
    | emit event => rfl
    | _ => exact among.elim

/-! ### Transactions on products -/

/-- A reservation or a release of a positive amount. -/
structure StockCall where
  releases : Bool
  productId : Id
  userId : Id
  amount : ℤ
  amount_pos : 0 < amount
deriving DecidableEq

def StockCall.work (call : StockCall) : Service Product :=
  if call.releases then
    InventoryService.releaseInventory call.productId call.userId call.amount
  else
    InventoryService.reserveInventory call.productId call.userId call.amount

def StockCall.program (call : StockCall) : Service Unit := do
  let _ ← call.work
  pure ()

/-- The calls of one transaction, in order; one that throws ends it. -/
abbrev StockScript := List StockCall

def StockScript.body (script : StockScript) : Service Unit := script.forM StockCall.program

/-- Any number of such transactions may run. -/
def productWork : Workload signature HttpException StockScript Id Product where
  store := productStore
  program := StockScript.body
  autocommits _ := false

/-- One transaction alone on the database. -/
def settleScript (world : World) (script : StockScript) : World :=
  (commerce.exec (transaction script.body) [] world).2

/-! ### Orders and page views on listings -/

/-- An order that reserves its listings, or a view of a listing's page. -/
inductive ListingTask where
  | reserveForOrder (order : Order)
  | findOne (listingId : Id)

/-- The reservation of an order is one transaction; a page view runs outside
of any, so that its save is committed at once. -/
def listingWork : Workload signature HttpException ListingTask Id Listing where
  store := listingStore
  program
    | .reserveForOrder order => order.items.forM (InventoryService.reserveItem order)
    | .findOne listingId => do
        let _ ← ListingsService.findOne listingId
        pure ()
  autocommits
    | .reserveForOrder _ => false
    | .findOne _ => true

end MarketX.Commerce
