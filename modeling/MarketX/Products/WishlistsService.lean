/-
Module: MarketX.Products.WishlistsService
Purpose: Wishlists (`wishlist/wishlists.service.ts`): the items that are put on
  them, the prices that are followed, and the users that are told of a drop.
Trusted boundary: human-reviewed model of the source; the requests come one
  after the other and have passed their pipe, and a `decimal` column gives the
  text of what it keeps
Main exports: WishlistItem, addItem, updateItem, prices_tracked
-/
import MarketX.Caching.OrderedMap
import MarketX.Commerce.OrdersService
import MarketX.Effects.Forests
import MarketX.Effects.Totals
import MarketX.Effects.Runs
import MarketX.Effects.Throwing
import MarketX.Notifications.Delivery
import MarketX.Numerals.Printing

namespace MarketX.Wishlists

open Caching Effects Numerals
open Commerce (columnError moneyColumn)
open Notifications (NotificationChannel NotificationPriority NotificationType toISOString)

/-! ### Entities -/

structure Wishlist where
  id : Id
  userId : Id
  name : String

instance : Keyed Wishlist := ⟨Wishlist.id⟩

/-- What an entity has for a `decimal` column: the text that was loaded, or a
number that has been put in its place. -/
inductive Price where
  | text (loaded : String)
  | number (value : Number)

namespace Price

/-- `Number(price)`. -/
def toNumber : Price → Number
  | .text loaded => numberOf loaded
  | .number value => value

/-- The text of what a column of type `decimal(12, 2)` keeps. -/
def stored : Price → Option String
  | .text loaded => some loaded
  | .number (.finite x) =>
    (moneyColumn (printed x)).map fun kept => (Number.finite kept).toFixed 2
  | .number .nan => some "NaN"
  | .number (.infinity _) => none

end Price

/-- JSON has `null` for a number that is not finite. -/
structure PricePoint where
  price : Option Number
  recordedAt : String

def PricePoint.stored (point : PricePoint) : PricePoint :=
  { point with price := point.price.filter Number.isFinite }

/-- An item, with what its `decimal` columns have in an entity or a row. -/
structure WishlistItem (Decimal : Type) where
  id : Id
  wishlistId : Id
  productId : Id
  productName : String
  priceAtAdded : Decimal
  currentPrice : Decimal
  lowestPrice : Option Decimal
  productImageUrl : Option String := none
  productUrl : Option String := none
  isAvailable : Bool := true
  priceAlertThreshold : Option Decimal
  notificationsEnabled : Bool := true
  priceHistory : Option (List PricePoint)

abbrev Row := WishlistItem String

instance : Keyed Row := ⟨WishlistItem.id⟩

namespace WishlistItem

/-- The entity of a row. -/
def loaded (row : Row) : WishlistItem Price where
  id := row.id
  wishlistId := row.wishlistId
  productId := row.productId
  productName := row.productName
  priceAtAdded := .text row.priceAtAdded
  currentPrice := .text row.currentPrice
  lowestPrice := row.lowestPrice.map .text
  productImageUrl := row.productImageUrl
  productUrl := row.productUrl
  isAvailable := row.isAvailable
  priceAlertThreshold := row.priceAlertThreshold.map .text
  notificationsEnabled := row.notificationsEnabled
  priceHistory := row.priceHistory

/-- The row of an entity, if the columns take it. -/
def stored (item : WishlistItem Price) : Option Row := do
  let priceAtAdded ← item.priceAtAdded.stored
  let currentPrice ← item.currentPrice.stored
  let lowestPrice ← item.lowestPrice.mapM Price.stored
  let priceAlertThreshold ← item.priceAlertThreshold.mapM Price.stored
  pure
    { id := item.id
      wishlistId := item.wishlistId
      productId := item.productId
      productName := item.productName
      priceAtAdded
      currentPrice
      lowestPrice
      productImageUrl := item.productImageUrl
      productUrl := item.productUrl
      isAvailable := item.isAvailable
      priceAlertThreshold
      notificationsEnabled := item.notificationsEnabled
      priceHistory := item.priceHistory.map fun history =>
        history.map PricePoint.stored }

end WishlistItem

/-- The two tables. -/
structure Store where
  wishlists : Table Wishlist := .empty
  items : Table Row := .empty

/-! ### Wishlists and their items -/

structure CreateWishlistDto where
  name : String

structure UpdateWishlistDto where
  name : Commerce.Field String := .absent

structure AddWishlistItemDto where
  productId : Id
  productName : String
  currentPrice : Number
  productImageUrl : Option String := none
  productUrl : Option String := none
  priceAlertThreshold : Option Number := none
  notificationsEnabled : Option Bool := none

structure UpdateWishlistItemDto where
  priceAlertThreshold : Commerce.Field Number := .absent
  notificationsEnabled : Commerce.Field Bool := .absent

def MAX_ITEMS_PER_WISHLIST : ℕ := 100

def create (userId : Id) (dto : CreateWishlistDto) (store : Store) : Store :=
  { store with
    wishlists := store.wishlists.insert fun id =>
      { id, userId, name := dto.name } }

def findOne (userId wishlistId : Id) (store : Store) :
    Except HttpException Wishlist :=
  match (store.wishlists.row wishlistId).filter (·.userId = userId) with
  | none => .error (.notFound "Wishlist not found")
  | some wishlist => .ok wishlist

/-- The column of the name takes no `null`. -/
def update (userId wishlistId : Id) (dto : UpdateWishlistDto)
    (store : Store) : Except HttpException Store := do
  let wishlist ← findOne userId wishlistId store
  match dto.name.required wishlist.name some with
  | none => throw columnError
  | some name =>
    let wishlists := store.wishlists.save { wishlist with name }
    pure { store with wishlists }

/-- The items of a wishlist go with it. -/
def remove (userId wishlistId : Id) (store : Store) :
    Except HttpException Store := do
  let wishlist ← findOne userId wishlistId store
  let items := store.items.rows.filter (·.wishlistId = wishlist.id)
  pure
    { wishlists := store.wishlists.delete wishlist.id
      items := (items.map WishlistItem.id).foldl Table.delete store.items }

def saveItem (item : WishlistItem Price) (store : Store) :
    Except HttpException Store :=
  match item.stored with
  | none => .error columnError
  | some row => .ok { store with items := store.items.save row }

def addItem (userId wishlistId : Id) (dto : AddWishlistItemDto) (now : Date)
    (store : Store) : Except HttpException (WishlistItem Price × Store) := do
  let _ ← findOne userId wishlistId store
  let count := store.items.rows.countP (·.wishlistId = wishlistId)
  if count ≥ MAX_ITEMS_PER_WISHLIST then
    throw (.badRequest s!"Wishlists support a maximum of {MAX_ITEMS_PER_WISHLIST} items")
  let existing := store.items.rows.find? fun item =>
    item.wishlistId = wishlistId ∧ item.productId = dto.productId
  if existing.isSome then
    -- a `ConflictException`
    throw (.error "Product already exists in this wishlist")
  let item : WishlistItem Price :=
    { id := store.items.next
      wishlistId
      productId := dto.productId
      productName := dto.productName
      priceAtAdded := .number dto.currentPrice
      currentPrice := .number dto.currentPrice
      lowestPrice := some (.number dto.currentPrice)
      productImageUrl := dto.productImageUrl
      productUrl := dto.productUrl
      priceAlertThreshold := dto.priceAlertThreshold.map .number
      notificationsEnabled := dto.notificationsEnabled.getD true
      priceHistory := some
        [{ price := some dto.currentPrice
           recordedAt := toISOString now }] }
  let saved ← saveItem item store
  pure (item, saved)

def findItem (wishlistId itemId : Id) (store : Store) :
    Except HttpException Row :=
  match (store.items.row itemId).filter (·.wishlistId = wishlistId) with
  | none => .error (.notFound "Wishlist item not found")
  | some row => .ok row

/-- The column of the switch takes no `null`. -/
def updateItem (userId wishlistId itemId : Id) (dto : UpdateWishlistItemDto)
    (store : Store) : Except HttpException Store := do
  let _ ← findOne userId wishlistId store
  let row ← findItem wishlistId itemId store
  match dto.notificationsEnabled.required row.notificationsEnabled some with
  | none => throw columnError
  | some notificationsEnabled =>
    let item := row.loaded
    let priceAlertThreshold := match dto.priceAlertThreshold with
      | .absent => item.priceAlertThreshold
      | .null => none
      | .given threshold => some (.number threshold)
    saveItem { item with priceAlertThreshold, notificationsEnabled } store

def removeItem (userId wishlistId itemId : Id) (store : Store) :
    Except HttpException Store := do
  let _ ← findOne userId wishlistId store
  let row ← findItem wishlistId itemId store
  pure { store with items := store.items.delete row.id }

/-! ### Prices -/

structure PriceUpdate where
  productId : Id
  newPrice : Number
  isAvailable : Bool

/-- What is queued, to be sent when the items have been saved. -/
structure PriceDrop where
  userId : Id
  item : WishlistItem Price
  wishlist : Wishlist
  oldPrice : Number
  newPrice : Number

structure PriceDropMetadata where
  wishlistId : Id
  wishlistName : String
  productId : Id
  productName : String
  oldPrice : Number
  newPrice : Number
  savings : Number
  savingsPercent : Number

/-- What `createNotification` is called with. -/
structure Notification where
  userId : Id
  title : String
  message : String
  type : NotificationType
  channel : NotificationChannel
  priority : NotificationPriority
  metadata : PriceDropMetadata

def notificationOf (drop : PriceDrop) : Notification :=
  let { userId, item, wishlist, oldPrice, newPrice } := drop
  let savings := (oldPrice.sub newPrice).double
  let savingsPercent :=
    ((savings.div oldPrice).double.mul (.finite 100)).double.round
  { userId
    title := "Price Drop Alert!"
    message :=
      s!"{item.productName} has dropped from ${oldPrice.toFixed 2} " ++
        s!"to ${newPrice.toFixed 2} ({savingsPercent.toText}% off)!"
    type := .priceDrop
    channel := .inApp
    priority := .medium
    metadata :=
      { wishlistId := item.wishlistId
        wishlistName := wishlist.name
        productId := item.productId
        productName := item.productName
        oldPrice
        newPrice
        savings
        savingsPercent } }

/-- `new Map(updates.map(u => [u.productId, u]))`. -/
def priceMapOf (updates : List PriceUpdate) : OrderedMap Id PriceUpdate :=
  updates.foldl (fun map u => map.set u.productId u) .empty

/-- Append to history (keep last 90 entries). -/
def appendHistory (history : List PricePoint) (point : PricePoint) :
    List PricePoint :=
  let pushed := history ++ [point]
  if pushed.length > 90 then pushed.tail else pushed

/-- What an update assigns to the fields of an item. -/
def assign (update : PriceUpdate) (now : Date) (item : WishlistItem Price) :
    WishlistItem Price :=
  let newPrice := update.newPrice
  let oldPrice := item.currentPrice.toNumber
  let item := { item with isAvailable := update.isAvailable }
  -- `NaN` differs from itself
  if newPrice = oldPrice ∧ newPrice ≠ .nan then item
  else
    let history := appendHistory (item.priceHistory.getD [])
      { price := some newPrice, recordedAt := toISOString now }
    let lowest := (item.lowestPrice.map Price.toNumber).getD oldPrice
    { item with
      currentPrice := .number newPrice
      priceHistory := some history
      lowestPrice :=
        if newPrice.lt lowest then some (.number newPrice)
        else item.lowestPrice }

/-- The price has dropped and meets the threshold. -/
def shouldNotify (newPrice : Number) (item : WishlistItem Price) : Bool :=
  newPrice.lt item.currentPrice.toNumber && item.notificationsEnabled &&
    match item.priceAlertThreshold with
    | none => true
    | some threshold => newPrice.le threshold.toNumber

structure Sync where
  toSave : List (WishlistItem Price) := []
  notifications : List PriceDrop := []

/-- One turn of the loop over the items. -/
def syncItem (priceMap : OrderedMap Id PriceUpdate) (now : Date)
    (store : Store) (sync : Sync) (row : Row) : Except HttpException Sync :=
  let item := row.loaded
  match priceMap.get item.productId with
  | none => .ok sync
  | some update =>
    let toSave := sync.toSave ++ [assign update now item]
    if shouldNotify update.newPrice item then
      match store.wishlists.row item.wishlistId with
      | none => .error (.error "Cannot read properties of null (reading 'userId')")
      | some wishlist => .ok
          { toSave
            notifications := sync.notifications ++
              [{ userId := wishlist.userId
                 item := assign update now item
                 wishlist
                 oldPrice := item.currentPrice.toNumber
                 newPrice := update.newPrice }] }
    else .ok { sync with toSave }

/-- All of them are saved, or none. -/
def saveItems (items : List (WishlistItem Price)) (store : Store) :
    Except HttpException Store :=
  match items.mapM WishlistItem.stored with
  | none => .error columnError
  | some rows => .ok { store with items := rows.foldl Table.save store.items }

/-- With the notifications that are asked for.  Whether they are created does
not matter any more. -/
def syncPrices (updates : List PriceUpdate) (now : Date) (store : Store) :
    Except HttpException (List Notification × Store) := do
  if updates.isEmpty then
    return ([], store)
  let productIds := updates.map PriceUpdate.productId
  let items := store.items.rows.filter fun item =>
    item.productId ∈ productIds ∧ item.notificationsEnabled
  let sync ← items.foldlM (syncItem (priceMapOf updates) now store) {}
  let saved ← saveItems sync.toSave store
  pure (sync.notifications.map notificationOf, saved)

/-! ### Requests -/

inductive Request where
  | create (userId : Id) (dto : CreateWishlistDto)
  | update (userId wishlistId : Id) (dto : UpdateWishlistDto)
  | remove (userId wishlistId : Id)
  | addItem (userId wishlistId : Id) (dto : AddWishlistItemDto) (now : Date)
  | updateItem (userId wishlistId itemId : Id) (dto : UpdateWishlistItemDto)
  | removeItem (userId wishlistId itemId : Id)
  | syncPrices (updates : List PriceUpdate) (now : Date)

def perform (request : Request) (store : Store) :
    Except HttpException Store :=
  match request with
  | .create userId dto => .ok (create userId dto store)
  | .update userId wishlistId dto => update userId wishlistId dto store
  | .remove userId wishlistId => remove userId wishlistId store
  | .addItem userId wishlistId dto now =>
    (addItem userId wishlistId dto now store).map Prod.snd
  | .updateItem userId wishlistId itemId dto => updateItem userId wishlistId itemId dto store
  | .removeItem userId wishlistId itemId => removeItem userId wishlistId itemId store
  | .syncPrices updates now => (syncPrices updates now store).map Prod.snd

/-- A request that throws leaves the tables as they are. -/
def step (store : Store) (request : Request) : Store :=
  match perform request store with
  | .ok after => after
  | .error _ => store

/-! ### Prices that a column keeps -/

/-- The price has the scale of a column: it is the double next to a number of
hundredths, of which there are not too many. -/
def Representable (price : Number) : Prop := ∃ hundredths : ℤ, |hundredths| < 10 ^ 12 ∧
    price = .finite (nearestDouble (hundredths / 100))

variable {price x y : Number} {item : WishlistItem Price} {row : Row} {wishlistId : Id}
  {dto : AddWishlistItemDto} {now : Date} {store : Store}

theorem Representable.isFinite (representable : Representable price) : price.isFinite = true := by
  obtain ⟨hundredths, _, rfl⟩ := representable
  rfl

theorem moneyColumn_printed {hundredths : ℤ} (small : |hundredths| < 10 ^ 12) :
    moneyColumn (printed (nearestDouble (hundredths / 100))) = some (hundredths / 100 : ℚ) := by
  have hundred : (10 : ℚ) ^ 2 = 100 := by norm_num
  have same := @roundAway_printed hundredths 2 (by decide) small
  simp_all [moneyColumn]

theorem stored_of_representable (representable : Representable price) :
    ∃ text, (Price.number price).stored = some text ∧ numberOf text = price := by
  obtain ⟨hundredths, small, rfl⟩ := representable
  refine ⟨(Number.finite (hundredths / 100)).toFixed 2, ?_, ?_⟩
  · rw [Price.stored, moneyColumn_printed small, Option.map_some]
  · have hundred : ((100 : ℚ)) = 10 ^ 2 := by norm_num
    have below : |(hundredths / 10 ^ 2 : ℚ)| < tenTo 21 := by
      have bound : (|hundredths| : ℚ) < 10 ^ 12 := by exact_mod_cast small
      have large : (10 : ℚ) ^ 12 ≤ tenTo 21 := by decide
      grind
    simp_all [numberOf_toFixed]

/-! ### Rows and entities -/

theorem stored_eq_some :
    item.stored = some row ↔ ∃ added current lowest threshold,
      item.priceAtAdded.stored = some added ∧ item.currentPrice.stored = some current ∧
      item.lowestPrice.mapM Price.stored = some lowest ∧
      item.priceAlertThreshold.mapM Price.stored = some threshold ∧ row =
        { id := item.id
          wishlistId := item.wishlistId
          productId := item.productId
          productName := item.productName
          priceAtAdded := added
          currentPrice := current
          lowestPrice := lowest
          productImageUrl := item.productImageUrl
          productUrl := item.productUrl
          isAvailable := item.isAvailable
          priceAlertThreshold := threshold
          notificationsEnabled := item.notificationsEnabled
          priceHistory := item.priceHistory.map fun history =>
            history.map PricePoint.stored } := by
  unfold WishlistItem.stored
  simp only [Option.bind_eq_bind, Option.bind_eq_some_iff, Option.pure_def,
    Option.some.injEq, eq_comm (a := row)]
  constructor
  · simp
  · simp

theorem mapM_text (texts : Option String) :
    (texts.map Price.text).mapM Price.stored = some texts := by
  cases texts <;> rfl

/-! ### The updates of a batch -/

section

variable {updates : List PriceUpdate} {productId : Id}

/-- The last entry for a product. -/
def lastUpdate (updates : List PriceUpdate) (productId : Id) :
    Option PriceUpdate := updates.reverse.find? fun update => update.productId = productId

theorem priceMapOf_get (updates : List PriceUpdate) (productId : Id) :
    (priceMapOf updates).get productId = lastUpdate updates productId := by
  unfold priceMapOf lastUpdate
  induction updates using List.reverseRecOn with
  | nil => rfl
  | append_singleton updates update ih =>
    by_cases same : update.productId = productId
    · simp_all
    · simp_all [OrderedMap.get_set_of_ne, Ne.symm]

theorem lastUpdate_mem {update : PriceUpdate}
    (last : lastUpdate updates productId = some update) : update ∈ updates :=
  List.mem_reverse.mp (List.mem_of_find?_eq_some last)

theorem lastUpdate_isSome :
    (lastUpdate updates productId).isSome ↔ productId ∈ updates.map PriceUpdate.productId := by
  unfold lastUpdate
  simp

end

/-! ### One batch -/

section

variable (updates : List PriceUpdate) (now : Date) (store : Store)

/-- The items that a batch loads. -/
def found : List Row := store.items.rows.filter fun item =>
    item.productId ∈ updates.map PriceUpdate.productId ∧ item.notificationsEnabled

/-- The entity that is saved for a row. -/
def repriced (row : Row) : Option (WishlistItem Price) :=
  (lastUpdate updates row.productId).map fun update => assign update now row.loaded

/-- The drop that is queued for a row. -/
def queued (row : Row) : Option PriceDrop :=
  (lastUpdate updates row.productId).bind fun update =>
    (store.wishlists.row row.wishlistId).bind fun wishlist =>
      if shouldNotify update.newPrice row.loaded then
        some
          { userId := wishlist.userId
            item := assign update now row.loaded
            wishlist
            oldPrice := numberOf row.currentPrice
            newPrice := update.newPrice }
      else none

variable {updates now store}

theorem syncItem_eq {row : Row} {wishlist : Wishlist}
    (there : store.wishlists.row row.wishlistId = some wishlist) (sync : Sync) :
    syncItem (priceMapOf updates) now store sync row = .ok
      { toSave := sync.toSave ++ (repriced updates now row).toList
        notifications := sync.notifications ++
          (queued updates now store row).toList } := by
  have product : row.loaded.productId = row.productId := rfl
  have wishlistId : row.loaded.wishlistId = row.wishlistId := rfl
  unfold syncItem repriced queued
  simp only [product, wishlistId, priceMapOf_get, there]
  cases lastUpdate updates row.productId with
  | none => simp
  | some update =>
    by_cases told : shouldNotify update.newPrice row.loaded
    · simp [told]
      rfl
    · simp [told]

theorem syncItems_eq {rows : List Row} (there : ∀ row ∈ rows, ∃ wishlist,
      store.wishlists.row row.wishlistId = some wishlist) (sync : Sync) :
    rows.foldlM (syncItem (priceMapOf updates) now store) sync = .ok
      { toSave := sync.toSave ++ rows.filterMap (repriced updates now)
        notifications := sync.notifications ++
          rows.filterMap (queued updates now store) } := by
  induction rows generalizing sync with
  | nil => simp [pure, Except.pure]
  | cons row rows ih =>
    obtain ⟨wishlist, here⟩ := there row List.mem_cons_self
    rw [List.foldlM_cons, syncItem_eq here]
    show rows.foldlM _ _ = _
    grind

/-- What a batch does: it saves the entities of the items that it loads, and
then asks for the notifications. -/
theorem syncPrices_eq (there : ∀ row ∈ store.items.rows, ∃ wishlist,
      store.wishlists.row row.wishlistId = some wishlist) :
    syncPrices updates now store =
      (saveItems ((found updates store).filterMap (repriced updates now)) store).map fun saved =>
          (((found updates store).filterMap
            (queued updates now store)).map notificationOf, saved) := by
  cases updates with
  | nil =>
    have none : found [] store = [] := by simp [found]
    rw [none]
    rfl
  | cons first others =>
    have present : ∀ row ∈ found (first :: others) store, ∃ wishlist,
        store.wishlists.row row.wishlistId = some wishlist :=
      fun row member => there row (List.mem_of_mem_filter member)
    show (List.foldlM _ _ (found (first :: others) store) >>= _) = _
    rw [syncItems_eq present]
    show (saveItems ([] ++ _) store >>= _) = _
    rw [List.nil_append]
    cases saveItems _ store <;> rfl

/-- What a batch makes of a row. -/
inductive Refreshed (updates : List PriceUpdate) (now : Date) (row : Row) :
    Row → Prop where
  | kept (apart : lastUpdate updates row.productId = none ∨ row.notificationsEnabled = false) :
      Refreshed updates now row row
  | synced {update : PriceUpdate} {after : Row}
      (last : lastUpdate updates row.productId = some update)
      (enabled : row.notificationsEnabled = true)
      (stored : (assign update now row.loaded).stored = some after) :
      Refreshed updates now row after

theorem assign_keys (update : PriceUpdate) (now : Date) (item : WishlistItem Price) :
    (assign update now item).id = item.id ∧ (assign update now item).wishlistId = item.wishlistId ∧
      (assign update now item).productId = item.productId ∧
      (assign update now item).notificationsEnabled =
        item.notificationsEnabled := by
  unfold assign
  dsimp only
  split <;> exact ⟨rfl, rfl, rfl, rfl⟩

theorem stored_id {item : WishlistItem Price} {row : Row}
    (stored : item.stored = some row) : row.id = item.id := by
  obtain ⟨_, _, _, _, -, -, -, -, rfl⟩ := stored_eq_some.mp stored
  rfl

theorem stored_keys {item : WishlistItem Price} {row : Row} (stored : item.stored = some row) :
    row.wishlistId = item.wishlistId ∧ row.productId = item.productId ∧
      row.notificationsEnabled = item.notificationsEnabled := by
  obtain ⟨_, _, _, _, -, -, -, -, rfl⟩ := stored_eq_some.mp stored
  exact ⟨rfl, rfl, rfl⟩

theorem mem_found {row : Row} :
    row ∈ found updates store ↔ row ∈ store.items.rows ∧ (lastUpdate updates row.productId).isSome ∧
        row.notificationsEnabled = true := by
  rw [found, List.mem_filter, decide_eq_true_iff, lastUpdate_isSome]

theorem saveItems_refreshed {after : Store} (saved : saveItems ((found updates store).filterMap
      (repriced updates now)) store = .ok after) :
    after.wishlists = store.wishlists ∧ ∀ id,
      Option.Rel (Refreshed updates now) (store.items.row id) (after.items.row id) := by
  unfold saveItems at saved
  split at saved
  next => cases saved
  next rows stored =>
    cases saved
    have same := mapM_eq_some_iff.mp stored
    -- a saved row is that of the entity of a row that has been loaded
    have origin : ∀ after ∈ rows, ∃ row ∈ found updates store, ∃ update,
        lastUpdate updates row.productId = some update ∧
          (assign update now row.loaded).stored = some after ∧ row.id = after.id := by
      intro after member
      have kept : some after ∈ rows.map some := List.mem_map_of_mem member
      rw [← same] at kept
      obtain ⟨item, listed, made⟩ := List.mem_map.mp kept
      obtain ⟨row, loaded, assigned⟩ := List.mem_filterMap.mp listed
      obtain ⟨update, last, rfl⟩ := Option.map_eq_some_iff.mp assigned
      refine ⟨row, loaded, update, last, made, ?_⟩
      rw [stored_id made, (assign_keys update now row.loaded).1]
      rfl
    refine ⟨rfl, fun id => ?_⟩
    rw [Table.row_foldl_save]
    cases chosen : rows.reverse.find? fun row => Keyed.key row = id with
    | some after =>
      have member := List.mem_reverse.mp (List.mem_of_find?_eq_some chosen)
      have key : Keyed.key after = id := by simpa using List.find?_some chosen
      obtain ⟨row, loaded, update, last, made, sameId⟩ := origin after member
      obtain ⟨listed, -, enabled⟩ := mem_found.mp loaded
      have present : store.items.row id = some row := by
        rw [← key, show Keyed.key after = row.id from sameId.symm]
        exact Table.mem_rows.mp listed
      rw [present]
      exact .some (.synced last enabled made)
    | none =>
      cases present : store.items.row id with
      | none => exact .none
      | some row =>
        refine .some (.kept ?_)
        by_contra touched
        rw [not_or, Bool.not_eq_false] at touched
        obtain ⟨update, last⟩ := Option.ne_none_iff_exists'.mp touched.1
        have loaded : row ∈ found updates store := mem_found.mpr
          ⟨Table.mem_rows_of_row present, by rw [last]; rfl, touched.2⟩
        have assigned : assign update now row.loaded ∈
            (found updates store).filterMap (repriced updates now) := List.mem_filterMap.mpr
            ⟨row, loaded, by rw [repriced, last, Option.map_some]⟩
        have kept := List.mem_map_of_mem (f := WishlistItem.stored) assigned
        rw [same] at kept
        obtain ⟨after, member, made⟩ := List.mem_map.mp kept
        have key : after.id = id := by
          rw [stored_id made.symm, (assign_keys update now row.loaded).1]
          exact store.items.keyed present
        exact List.find?_eq_none.mp chosen after (List.mem_reverse.mpr member) (decide_eq_true key)

end

/-! ### What a request does -/

section

variable {userId wishlistId itemId : Id} {store after : Store}

theorem findOne_ok {wishlist : Wishlist} :
    findOne userId wishlistId store = .ok wishlist ↔
      store.wishlists.row wishlistId = some wishlist ∧ wishlist.userId = userId := by
  unfold findOne
  cases present : store.wishlists.row wishlistId <;> grind

theorem findItem_ok {row : Row} :
    findItem wishlistId itemId store = .ok row ↔
      store.items.row itemId = some row ∧ row.wishlistId = wishlistId := by
  unfold findItem
  cases present : store.items.row itemId <;> grind

theorem saveItem_ok {item : WishlistItem Price} :
    saveItem item store = .ok after ↔ ∃ row, item.stored = some row ∧
      after = { store with items := store.items.save row } := by
  unfold saveItem
  grind

/-- The item that is created. -/
def newItem (wishlistId : Id) (dto : AddWishlistItemDto) (now : Date)
    (id : Id) : WishlistItem Price where
  id
  wishlistId
  productId := dto.productId
  productName := dto.productName
  priceAtAdded := .number dto.currentPrice
  currentPrice := .number dto.currentPrice
  lowestPrice := some (.number dto.currentPrice)
  productImageUrl := dto.productImageUrl
  productUrl := dto.productUrl
  priceAlertThreshold := dto.priceAlertThreshold.map .number
  notificationsEnabled := dto.notificationsEnabled.getD true
  priceHistory := some [{ price := some dto.currentPrice, recordedAt := toISOString now }]

theorem addItem_ok {dto : AddWishlistItemDto} {now : Date} {item : WishlistItem Price} :
    addItem userId wishlistId dto now store = .ok (item, after) ↔
      (∃ wishlist, findOne userId wishlistId store = .ok wishlist) ∧
      store.items.rows.countP (·.wishlistId = wishlistId) < MAX_ITEMS_PER_WISHLIST ∧
      (∀ row ∈ store.items.rows, row.wishlistId = wishlistId → row.productId ≠ dto.productId) ∧
      item = newItem wishlistId dto now store.items.next ∧ saveItem item store = .ok after := by
  have none : (store.items.rows.find? fun row =>
      row.wishlistId = wishlistId ∧ row.productId = dto.productId).isSome =
        false ↔ ∀ row ∈ store.items.rows, row.wishlistId = wishlistId →
          row.productId ≠ dto.productId := by simp
  rw [← none]
  unfold addItem
  rw [bind_eq_ok]
  constructor
  · rintro ⟨wishlist, owned, rest⟩
    dsimp only at rest
    split at rest
    next => cases rest
    next room =>
      split at rest
      next => cases rest
      next new =>
        obtain ⟨saved, stored, made⟩ := bind_eq_ok.mp rest
        cases made
        exact ⟨⟨wishlist, owned⟩, not_le.mp room, Bool.not_eq_true _ ▸ new, rfl, stored⟩
  · rintro ⟨⟨wishlist, owned⟩, room, new, rfl, stored⟩
    refine ⟨wishlist, owned, ?_⟩
    rw [if_neg (not_le.mpr room)]
    rw [if_neg (by rw [new]; exact Bool.false_ne_true)]
    exact bind_eq_ok.mpr ⟨after, stored, rfl⟩

theorem update_ok {dto : UpdateWishlistDto}
    (updated : update userId wishlistId dto store = .ok after) :
    ∃ wishlist name, store.wishlists.row wishlistId = some wishlist ∧
      after = { store with
        wishlists := store.wishlists.save { wishlist with name } } := by
  obtain ⟨wishlist, owned, saved⟩ := bind_eq_ok.mp updated
  refine ⟨wishlist, ?_⟩
  split at saved
  next => cases saved
  next name _ =>
    cases saved
    exact ⟨name, (findOne_ok.mp owned).1, rfl⟩

theorem updateItem_ok {dto : UpdateWishlistItemDto}
    (updated : updateItem userId wishlistId itemId dto store = .ok after) :
    ∃ row threshold enabled, store.items.row itemId = some row ∧
      dto.notificationsEnabled.required row.notificationsEnabled some = some enabled ∧ saveItem
        { row.loaded with
          priceAlertThreshold := threshold
          notificationsEnabled := enabled } store = .ok after := by
  obtain ⟨_, _, rest⟩ := bind_eq_ok.mp updated
  obtain ⟨row, present, saved⟩ := bind_eq_ok.mp rest
  split at saved
  next => cases saved
  next enabled given => exact ⟨row, _, enabled, (findItem_ok.mp present).1, given, saved⟩

theorem removeItem_ok (removed : removeItem userId wishlistId itemId store = .ok after) :
    after = { store with items := store.items.delete itemId } := by
  obtain ⟨_, _, rest⟩ := bind_eq_ok.mp removed
  obtain ⟨row, present, done⟩ := bind_eq_ok.mp rest
  cases done
  have key : row.id = itemId := store.items.keyed (findItem_ok.mp present).1
  rw [key]

theorem remove_ok (removed : remove userId wishlistId store = .ok after) :
    (∀ id, after.wishlists.row id = if id = wishlistId then none else store.wishlists.row id) ∧
    ∀ id, after.items.row id = (store.items.row id).filter (·.wishlistId ≠ wishlistId) := by
  obtain ⟨wishlist, owned, done⟩ := bind_eq_ok.mp removed
  cases done
  have key : wishlist.id = wishlistId := store.wishlists.keyed (findOne_ok.mp owned).1
  rw [key]
  refine ⟨fun id => Table.row_delete _ _ _, fun id => ?_⟩
  rw [Table.row_foldl_delete]
  cases present : store.items.row id with
  | none => simp
  | some row =>
    have rowKey : row.id = id := store.items.keyed present
    have listed := Table.mem_rows_of_row present
    by_cases inside : row.wishlistId = wishlistId
    · grind
    · rw [if_neg]
      · simp [Option.filter, inside]
      · intro member
        obtain ⟨other, chosen, same⟩ := List.mem_map.mp member
        obtain ⟨there, within⟩ := List.mem_filter.mp chosen
        have again : store.items.row id = some other := by
          rw [← same]
          exact Table.mem_rows.mp there
        simp_all

theorem syncPrices_ok {updates : List PriceUpdate} {now : Date} {sent : List Notification}
    (there : ∀ row ∈ store.items.rows, ∃ wishlist,
      store.wishlists.row row.wishlistId = some wishlist)
    (synced : syncPrices updates now store = .ok (sent, after)) :
    after.wishlists = store.wishlists ∧ ∀ id,
      Option.Rel (Refreshed updates now) (store.items.row id) (after.items.row id) := by
  rw [syncPrices_eq there] at synced
  cases saved : saveItems ((found updates store).filterMap (repriced updates now)) store with
  | error error =>
    rw [saved] at synced
    cases synced
  | ok final =>
    rw [saved] at synced
    cases synced
    exact saveItems_refreshed saved

end

/-! ### What holds of the tables -/

/-- Every item is on a wishlist that there is, and no product is twice on
one. -/
structure Sound (store : Store) : Prop where
  owned : ∀ {id row}, store.items.row id = some row → ∃ wishlist,
    store.wishlists.row row.wishlistId = some wishlist
  unique : ∀ {id other row same}, store.items.row id = some row →
    store.items.row other = some same → row.wishlistId = same.wishlistId →
      row.productId = same.productId → id = other

namespace Sound

variable {store after : Store} {userId wishlistId itemId : Id}

theorem listed (sound : Sound store) :
    ∀ row ∈ store.items.rows, ∃ wishlist, store.wishlists.row row.wishlistId = some wishlist :=
  fun _ member => sound.owned (Table.mem_rows.mp member)

theorem of_kept (sound : Sound store) (kept : ∀ {id row}, after.items.row id = some row → ∃ before,
      store.items.row id = some before ∧ row.wishlistId = before.wishlistId ∧
        row.productId = before.productId)
    (owned : ∀ {id row wishlist}, after.items.row id = some row →
      store.wishlists.row row.wishlistId = some wishlist →
        ∃ wishlist, after.wishlists.row row.wishlistId = some wishlist) :
    Sound after where
  owned present := by grind [owned]
  unique first second wishlist product := by
    obtain ⟨before, there, wishlistOne, productOne⟩ := kept first
    obtain ⟨other, elsewhere, wishlistTwo, productTwo⟩ := kept second
    exact sound.unique there elsewhere (wishlistOne.symm.trans (wishlist.trans wishlistTwo))
      (productOne.symm.trans (product.trans productTwo))

theorem of_saved (sound : Sound store) {before : Row}
    (present : store.items.row itemId = some before)
    {item : WishlistItem Price} (id : item.id = before.id)
    (wishlist : item.wishlistId = before.wishlistId) (product : item.productId = before.productId)
    (saved : saveItem item store = .ok after) : Sound after := by
  obtain ⟨row, stored, rfl⟩ := saveItem_ok.mp saved
  obtain ⟨sameWishlist, sameProduct, -⟩ := stored_keys stored
  refine sound.of_kept (fun {key found} there => ?_) fun _ under => ⟨_, under⟩
  rw [Table.row_save] at there
  split at there
  next same =>
    cases there
    have key : key = itemId := by
      rw [same, ← store.items.keyed present]
      exact (stored_id stored).trans id
    simp_all
  next => exact ⟨found, there, rfl, rfl⟩

theorem empty : Sound {} := ⟨nofun, nofun⟩

theorem create (sound : Sound store) (dto : CreateWishlistDto) :
    Sound (create userId dto store) := by
  refine sound.of_kept (fun {id row} present => ⟨row, present, rfl, rfl⟩)
    fun {id row wishlist} _ there => ⟨wishlist, ?_⟩
  have old := store.wishlists.bounded there
  exact (Table.row_save_of_ne _ _ old.ne).trans there

theorem update (sound : Sound store) {dto : UpdateWishlistDto}
    (updated : update userId wishlistId dto store = .ok after) :
    Sound after := by
  obtain ⟨wishlist, name, _, rfl⟩ := update_ok updated
  refine sound.of_kept (fun {id row} present => ⟨row, present, rfl, rfl⟩)
    fun {id row found} _ there => ?_
  grind [Table.row_save]

theorem remove (sound : Sound store)
    (removed : remove userId wishlistId store = .ok after) : Sound after := by
  obtain ⟨wishlists, items⟩ := remove_ok removed
  have kept : ∀ {id row}, after.items.row id = some row →
      store.items.row id = some row ∧ row.wishlistId ≠ wishlistId := by simp_all
  refine sound.of_kept (fun {id row} present => ⟨row, (kept present).1, rfl, rfl⟩)
    fun {id row wishlist} present there => ⟨wishlist, ?_⟩
  rw [wishlists, if_neg (kept present).2, there]

theorem addItem (sound : Sound store) {dto : AddWishlistItemDto} {now : Date}
    {item : WishlistItem Price}
    (added : addItem userId wishlistId dto now store = .ok (item, after)) :
    Sound after := by
  obtain ⟨⟨wishlist, owned⟩, -, new, rfl, saved⟩ := addItem_ok.mp added
  obtain ⟨created, stored, rfl⟩ := saveItem_ok.mp saved
  obtain ⟨sameWishlist, sameProduct, -⟩ := stored_keys stored
  have rows : ∀ {id row}, (store.items.save created).row id = some row →
      (id = store.items.next ∧ row = created) ∨ store.items.row id = some row := by
    intro id row present
    rw [Table.row_save] at present
    split at present
    next same =>
      cases present
      exact .inl ⟨same.trans (stored_id stored), rfl⟩
    next => exact .inr present
  have apart : ∀ {id row}, store.items.row id = some row → row.wishlistId = created.wishlistId →
        row.productId ≠ created.productId := by
    intro id row present inside
    rw [sameProduct]
    exact new row (Table.mem_rows_of_row present) (inside.trans sameWishlist)
  constructor
  · intro id row present
    rcases rows present with ⟨-, rfl⟩ | before
    · rw [sameWishlist]
      exact ⟨wishlist, (findOne_ok.mp owned).1⟩
    · exact sound.owned before
  · intro id other row same first second wishlist product
    rcases rows first with ⟨here, rfl⟩ | before <;> rcases rows second with ⟨there, rfl⟩ | behind
    · exact here.trans there.symm
    · exact absurd product.symm (apart behind wishlist.symm)
    · exact absurd product (apart before wishlist)
    · exact sound.unique before behind wishlist product

theorem updateItem (sound : Sound store) {dto : UpdateWishlistItemDto}
    (updated : updateItem userId wishlistId itemId dto store = .ok after) :
    Sound after := by
  obtain ⟨row, threshold, enabled, present, -, saved⟩ := updateItem_ok updated
  exact sound.of_saved present rfl rfl rfl saved

theorem removeItem (sound : Sound store)
    (removed : removeItem userId wishlistId itemId store = .ok after) :
    Sound after := by
  cases removeItem_ok removed
  refine sound.of_kept (fun {id row} present => ⟨row, ?_, rfl, rfl⟩)
    fun {id row wishlist} _ there => ⟨wishlist, there⟩
  grind [Table.row_delete]

theorem syncPrices (sound : Sound store) {updates : List PriceUpdate}
    {now : Date} {sent : List Notification}
    (synced : syncPrices updates now store = .ok (sent, after)) :
    Sound after := by
  obtain ⟨wishlists, rows⟩ := syncPrices_ok sound.listed synced
  refine sound.of_kept (fun {id row} present => ?_)
    fun {id row wishlist} _ there => ⟨wishlist, by rw [wishlists, there]⟩
  have refreshed := rows id
  rw [present] at refreshed
  cases before : store.items.row id with
  | none =>
    rw [before] at refreshed
    cases refreshed
  | some old =>
    rw [before] at refreshed
    cases refreshed with
    | some made =>
      refine ⟨old, rfl, ?_⟩
      cases made with
      | kept => exact ⟨rfl, rfl⟩
      | synced last enabled stored =>
        obtain ⟨wishlist, product, -⟩ := stored_keys stored
        obtain ⟨-, sameWishlist, sameProduct, -⟩ := assign_keys _ now old.loaded
        exact ⟨wishlist.trans sameWishlist, product.trans sameProduct⟩

theorem step (sound : Sound store) (request : Request) :
    Sound (step store request) := by
  unfold Wishlists.step
  split
  next after done =>
    cases request with
    | create userId dto =>
      cases done
      exact sound.create dto
    | update userId wishlistId dto => exact sound.update done
    | remove userId wishlistId => exact sound.remove done
    | addItem userId wishlistId dto now =>
      obtain ⟨⟨item, saved⟩, added, rfl⟩ := map_eq_ok.mp done
      exact sound.addItem added
    | updateItem userId wishlistId itemId dto => exact sound.updateItem done
    | removeItem userId wishlistId itemId => exact sound.removeItem done
    | syncPrices updates now =>
      obtain ⟨⟨sent, saved⟩, synced, rfl⟩ := map_eq_ok.mp done
      exact sound.syncPrices synced
  next => exact sound

end Sound

/-! ### The prices of an item -/

/-- What a row has kept of the prices that were observed: the last 90 of them,
those that repeat the one before left out, and the lowest one of all. -/
structure Tracked (observed : List Number) (row : Row)
    (points : List PricePoint) (lowest : String) : Prop where
  history : row.priceHistory = some points
  recent : points.map PricePoint.price = ((observed.destutter (· ≠ ·)).rtake 90).map some
  current : observed.getLast? = some (numberOf row.currentPrice)
  lowestPrice : row.lowestPrice = some lowest
  lowest_mem : numberOf lowest ∈ observed
  lowest_le : ∀ price ∈ observed, (numberOf lowest).le price = true

theorem map_stored {points : List PricePoint} {prices : List Number}
    (same : points.map PricePoint.price = prices.map some)
    (finite : ∀ price ∈ prices, price.isFinite = true) :
    points.map PricePoint.stored = points := by
  have each : ∀ point ∈ points, point.stored = point := by
    intro point member
    have kept : point.price ∈ points.map PricePoint.price := List.mem_map_of_mem member
    obtain ⟨_, recordedAt⟩ := point
    grind [PricePoint.stored]
  exact (List.map_congr_left each).trans (List.map_id points)

theorem mem_of_mem_recent {observed : List Number}
    (recent : price ∈ (observed.destutter (· ≠ ·)).rtake 90) :
    price ∈ observed :=
  (List.destutter_sublist (· ≠ ·) observed).subset (List.mem_of_mem_drop recent)

namespace Tracked

variable {observed : List Number} {row after : Row} {points : List PricePoint} {lowest : String}

theorem distinct_pos (tracked : Tracked observed row points lowest) :
    0 < (observed.destutter (· ≠ ·)).length := by
  have nonempty : observed ≠ [] := List.ne_nil_of_mem tracked.lowest_mem
  exact List.length_pos_iff.mpr (mt (List.destutter_eq_nil (· ≠ ·)).mp nonempty)

theorem length (tracked : Tracked observed row points lowest) :
    1 ≤ points.length ∧ points.length ≤ 90 := by
  have lengths := congrArg List.length tracked.recent
  have some := tracked.distinct_pos
  grind [List.rtake]

theorem last (tracked : Tracked observed row points lowest) :
    points.getLast?.map PricePoint.price =
      some (some (numberOf row.currentPrice)) := by
  have some := tracked.distinct_pos
  have ends : ((observed.destutter (· ≠ ·)).rtake 90).getLast? = observed.getLast? := by
    rw [List.rtake, List.getLast?_drop, if_neg (by omega), getLast?_destutter]
  rw [← List.getLast?_map, tracked.recent, List.getLast?_map, ends, tracked.current]
  rfl

/-- With a price that differs from the last one, the history has the last 90
prices again. -/
theorem appended (tracked : Tracked observed row points lowest)
    {price : Number} (other : observed.getLast? ≠ some price) (recordedAt : String) :
    (appendHistory points { price := some price, recordedAt }).map PricePoint.price =
      (((observed ++ [price]).destutter (· ≠ ·)).rtake 90).map some := by
  unfold appendHistory
  extract_lets pushed
  have prices : pushed.map PricePoint.price =
      ((observed.destutter (· ≠ ·)).rtake 90 ++ [price]).map some := by
    rw [List.map_append, List.map_append, tracked.recent]
    rfl
  have lengths : pushed.length = ((observed.destutter (· ≠ ·)).rtake 90 ++ [price]).length := by
    rw [← List.length_map, prices, List.length_map]
  rw [destutter_concat, if_neg other, rtake_concat _ _ (by decide), ← lengths]
  grind [List.map_tail]

end Tracked

theorem assign_stored {update : PriceUpdate}
    (representable : Representable update.newPrice) (now : Date) (row : Row) :
    ∃ after, (assign update now row.loaded).stored = some after := by
  obtain ⟨text, kept, -⟩ := stored_of_representable representable
  unfold assign
  dsimp only
  split
  next =>
    exact ⟨_, stored_eq_some.mpr ⟨row.priceAtAdded, row.currentPrice,
      row.lowestPrice, row.priceAlertThreshold, rfl, rfl, mapM_text _, mapM_text _, rfl⟩⟩
  next =>
    have lowest : ∃ lowest, (if update.newPrice.lt ((row.loaded.lowestPrice.map Price.toNumber).getD
          row.loaded.currentPrice.toNumber) then
          some (Price.number update.newPrice)
        else row.loaded.lowestPrice).mapM Price.stored = some lowest := by
      split
      · exact ⟨some text, by rw [Option.mapM_some, kept]; rfl⟩
      · exact ⟨row.lowestPrice, mapM_text _⟩
    obtain ⟨lowest, keptToo⟩ := lowest
    exact ⟨_, stored_eq_some.mpr ⟨row.priceAtAdded, text, lowest,
      row.priceAlertThreshold, rfl, kept, keptToo, mapM_text _, rfl⟩⟩


theorem le_of_finite (first : x.isFinite = true)
    (second : y.isFinite = true) (notLess : x.lt y = false) :
    y.le x = true := by
  cases x with
  | finite a =>
    cases y with
    | finite b =>
      simp only [Number.lt, Number.le, Bool.and_eq_false_imp,
        decide_eq_true_eq, decide_eq_false_iff_not, not_not, Number.finite.injEq] at notLess ⊢
      grind
    | _ => cases second
  | _ => cases first

theorem le_of_lt (less : x.lt y = true) : x.le y = true :=
  (Bool.and_eq_true_iff.mp less).1

namespace Tracked

variable {observed : List Number} {row after : Row}
  {points : List PricePoint} {lowest : String} {item : WishlistItem Price} {price : Number}

theorem stays (tracked : Tracked observed row points lowest)
    (finite : ∀ price ∈ observed, price.isFinite = true)
    (current : item.currentPrice = .text row.currentPrice)
    (lowestPrice : item.lowestPrice = row.lowestPrice.map .text)
    (history : item.priceHistory = row.priceHistory) (stored : item.stored = some after) :
    Tracked observed after points lowest := by
  obtain ⟨_, _, kept, _, -, currentKept, lowestKept, -, rfl⟩ := stored_eq_some.mp stored
  rw [current] at currentKept
  cases currentKept
  rw [lowestPrice, mapM_text] at lowestKept
  cases lowestKept
  refine ⟨?_, tracked.recent, tracked.current, tracked.lowestPrice,
    tracked.lowest_mem, tracked.lowest_le⟩
  rw [history, tracked.history, Option.map_some, map_stored tracked.recent
    fun price recent => finite price (mem_of_mem_recent recent)]

theorem repeated (tracked : Tracked observed row points lowest)
    (same : observed.getLast? = some price) :
    Tracked (observed ++ [price]) row points lowest := by
  refine ⟨tracked.history, ?_, ?_, tracked.lowestPrice,
    List.mem_append_left _ tracked.lowest_mem, ?_⟩
  · rw [destutter_concat, if_pos same, tracked.recent]
  · rw [List.getLast?_concat, ← same, tracked.current]
  · intro other member
    rcases List.mem_append.mp member with before | here
    · exact tracked.lowest_le other before
    · rw [List.mem_singleton.mp here]
      exact tracked.lowest_le _ (List.mem_of_getLast? same)

theorem changed (tracked : Tracked observed row points lowest)
    (finite : ∀ price ∈ observed, price.isFinite = true) (other : observed.getLast? ≠ some price)
    (representable : Representable price) (current : item.currentPrice = .number price)
    (lowestPrice : item.lowestPrice = if price.lt (numberOf lowest) then some (.number price)
      else row.lowestPrice.map .text)
    {recordedAt : String} (history : item.priceHistory =
      some (appendHistory points { price := some price, recordedAt }))
    (stored : item.stored = some after) :
    ∃ lowest, Tracked (observed ++ [price]) after
      (appendHistory points { price := some price, recordedAt }) lowest := by
  obtain ⟨_, text, kept, _, -, currentKept, lowestKept, -, rfl⟩ := stored_eq_some.mp stored
  obtain ⟨_, same, read⟩ := stored_of_representable representable
  rw [current, same] at currentKept
  cases currentKept
  have finiteToo : ∀ seen ∈ observed ++ [price], seen.isFinite = true := by
    intro seen member
    rcases List.mem_append.mp member with before | here
    · exact finite seen before
    · rw [List.mem_singleton.mp here]
      exact representable.isFinite
  have recent := tracked.appended other recordedAt
  have historyKept : item.priceHistory.map (fun history => history.map PricePoint.stored) =
        some (appendHistory points { price := some price, recordedAt }) := by
    grind [map_stored, mem_of_mem_recent]
  have last : (observed ++ [price]).getLast? = some (numberOf text) := by
    rw [List.getLast?_concat, read]
  rw [lowestPrice] at lowestKept
  by_cases less : price.lt (numberOf lowest) = true
  · rw [if_pos less, Option.mapM_some, same] at lowestKept
    cases lowestKept
    refine ⟨text, historyKept, recent, last, rfl, ?_, ?_⟩
    · simp [read]
    · rw [read]
      intro seen member
      rcases List.mem_append.mp member with before | here
      · exact Number.le_trans (le_of_lt less) (tracked.lowest_le seen before)
      · simp_all [le_of_finite, Number.lt]
  · rw [if_neg less, mapM_text] at lowestKept
    cases lowestKept
    refine ⟨lowest, historyKept, recent, last, tracked.lowestPrice,
      List.mem_append_left _ tracked.lowest_mem, ?_⟩
    intro seen member
    rcases List.mem_append.mp member with before | here
    · exact tracked.lowest_le seen before
    · rw [List.mem_singleton.mp here]
      exact le_of_finite representable.isFinite
        (finite _ tracked.lowest_mem) (Bool.eq_false_iff.mpr less)

theorem assigned (tracked : Tracked observed row points lowest)
    (finite : ∀ price ∈ observed, price.isFinite = true)
    {update : PriceUpdate} (representable : Representable update.newPrice) {now : Date}
    (stored : (assign update now row.loaded).stored = some after) :
    ∃ points lowest, Tracked (observed ++ [update.newPrice]) after points lowest := by
  have previous : row.loaded.currentPrice.toNumber =
      numberOf row.currentPrice := rfl
  have low : (row.loaded.lowestPrice.map Price.toNumber).getD
      (numberOf row.currentPrice) = numberOf lowest := by
    show ((row.lowestPrice.map Price.text).map _).getD _ = _
    rw [tracked.lowestPrice]
    rfl
  have history : row.loaded.priceHistory.getD [] = points := by
    show row.priceHistory.getD [] = points
    rw [tracked.history]
    rfl
  unfold assign at stored
  dsimp only at stored
  rw [previous, low, history] at stored
  split at stored
  next same =>
    refine ⟨points, lowest, repeated ?_ ?_⟩
    · exact tracked.stays finite rfl rfl rfl stored
    · rw [tracked.current, same.1]
  next differs =>
    refine ⟨_, tracked.changed finite ?_ representable rfl rfl rfl stored⟩
    rw [tracked.current]
    intro same
    refine differs ⟨(Option.some.inj same).symm, fun undefined => ?_⟩
    have finite := representable.isFinite
    rw [undefined] at finite
    cases finite

end Tracked

theorem newItem_tracked {id : Id} (representable : Representable dto.currentPrice)
    (stored : (newItem wishlistId dto now id).stored = some row) :
    ∃ points lowest, Tracked [dto.currentPrice] row points lowest := by
  obtain ⟨_, current, kept, _, -, currentKept, lowestKept, -, rfl⟩ := stored_eq_some.mp stored
  obtain ⟨text, same, read⟩ := stored_of_representable representable
  cases same.symm.trans currentKept
  have keptText : kept = some current := by
    change some <$> (Price.number dto.currentPrice).stored = some kept at lowestKept
    simp_all
  refine ⟨[{ price := some dto.currentPrice, recordedAt := toISOString now }],
    current, ?_, rfl, ?_, keptText, ?_, ?_⟩
  · show some (List.map PricePoint.stored _) = _
    simp [PricePoint.stored, Option.filter, representable.isFinite]
  · rw [read]
    rfl
  · rw [read]
    exact List.mem_singleton_self _
  · rw [read]
    intro price member
    rw [List.mem_singleton.mp member]
    exact le_of_finite representable.isFinite representable.isFinite (by simp [Number.lt])

theorem syncPrices_succeeds (sound : Sound store) {updates : List PriceUpdate}
    (representable : ∀ update ∈ updates, Representable update.newPrice) (now : Date) :
    ∃ after, syncPrices updates now store = .ok (((found updates store).filterMap
        (queued updates now store)).map notificationOf, after) := by
  have each : ∀ item ∈ (found updates store).filterMap (repriced updates now),
      ∃ row, WishlistItem.stored item = some row := by
    intro item member
    obtain ⟨row, -, made⟩ := List.mem_filterMap.mp member
    obtain ⟨update, last, rfl⟩ := Option.map_eq_some_iff.mp made
    exact assign_stored (representable update (lastUpdate_mem last)) now row
  obtain ⟨rows, stored⟩ := mapM_isSome each
  rw [syncPrices_eq sound.listed, saveItems, stored]
  exact ⟨_, rfl⟩

/-! ### Runs -/

/-- The price that a request brings for a product, the last entry of a batch
counting. -/
def Request.price? (productId : Id) : Request → Option Number
  | .syncPrices updates _ =>
    (lastUpdate updates productId).map PriceUpdate.newPrice
  | _ => none

/-- The prices that are observed for a product. -/
def observedPrices (productId : Id) (requests : List Request) : List Number :=
  requests.filterMap (Request.price? productId)

/-- Prices have the scale of the columns, and an item stays and keeps its
notifications enabled. -/
def Steady (wishlistId itemId : Id) : Request → Prop
  | .syncPrices updates _ => ∀ update ∈ updates, Representable update.newPrice
  | .updateItem _ _ id dto => id = itemId → dto.notificationsEnabled ≠ .given false
  | .removeItem _ _ id => id ≠ itemId
  | .remove _ id => id ≠ wishlistId
  | _ => True

/-- An item of a product is followed through the prices that were observed. -/
structure Followed (wishlistId productId itemId : Id) (observed : List Number)
    (store : Store) : Prop where
  sound : Sound store
  representable : ∀ price ∈ observed, Representable price
  item : ∃ row points lowest, store.items.row itemId = some row ∧
    row.wishlistId = wishlistId ∧ row.productId = productId ∧
    row.notificationsEnabled = true ∧ Tracked observed row points lowest

namespace Followed

variable {wishlistId productId itemId : Id} {observed : List Number} {store after : Store}

theorem of_same (followed : Followed wishlistId productId itemId observed store)
    (sound : Sound after) (same : ∀ row, store.items.row itemId = some row →
      row.wishlistId = wishlistId → after.items.row itemId = some row) :
    Followed wishlistId productId itemId observed after := by
  obtain ⟨row, points, lowest, present, wishlist, rest⟩ := followed.item
  exact ⟨sound, followed.representable, row, points, lowest,
    same row present wishlist, wishlist, rest⟩

theorem addItem (followed : Followed wishlistId productId itemId observed store)
    {userId other : Id} {dto : AddWishlistItemDto} {now : Date} {item : WishlistItem Price}
    (added : addItem userId other dto now store = .ok (item, after)) :
    Followed wishlistId productId itemId observed after := by
  refine followed.of_same (followed.sound.addItem added) fun row present _ => ?_
  obtain ⟨-, -, -, rfl, saved⟩ := addItem_ok.mp added
  obtain ⟨created, stored, rfl⟩ := saveItem_ok.mp saved
  have key : Keyed.key created = store.items.next := stored_id stored
  have old := store.items.bounded present
  grind [Table.row_save_of_ne]

theorem updateItem (followed : Followed wishlistId productId itemId observed store)
    {userId other id : Id} {dto : UpdateWishlistItemDto}
    (enabled : id = itemId → dto.notificationsEnabled ≠ .given false)
    (updated : updateItem userId other id dto store = .ok after) :
    Followed wishlistId productId itemId observed after := by
  have sound := followed.sound.updateItem updated
  obtain ⟨before, threshold, switch, present, given, saved⟩ := updateItem_ok updated
  obtain ⟨edited, stored, rfl⟩ := saveItem_ok.mp saved
  have key : Keyed.key edited = id :=
    (stored_id stored).trans (store.items.keyed present)
  by_cases same : id = itemId
  · subst same
    obtain ⟨row, points, lowest, there, wishlist, product, on, tracked⟩ := followed.item
    cases present.symm.trans there
    obtain ⟨sameWishlist, sameProduct, sameSwitch⟩ := stored_keys stored
    have still : switch = true := by
      have allowed := enabled rfl
      cases choice : dto.notificationsEnabled with
      | absent =>
        rw [choice] at given
        exact (Option.some.inj given).symm.trans on
      | null =>
        rw [choice] at given
        cases given
      | given value =>
        rw [choice] at given allowed
        cases given
        simp_all
    refine ⟨sound, followed.representable, edited, points, lowest, ?_,
      sameWishlist.trans wishlist, sameProduct.trans product, sameSwitch.trans still, ?_⟩
    · rw [← key]
      exact Table.row_save_self _ _
    · exact tracked.stays (fun price seen => (followed.representable price seen).isFinite)
        rfl rfl rfl stored
  · refine followed.of_same sound fun row there _ =>
      (Table.row_save_of_ne _ _ ?_).trans there
    rw [key]
    exact Ne.symm same

theorem syncPrices (followed : Followed wishlistId productId itemId observed store)
    {updates : List PriceUpdate} {now : Date} {sent : List Notification}
    (representable : ∀ update ∈ updates, Representable update.newPrice)
    (synced : syncPrices updates now store = .ok (sent, after)) :
    Followed wishlistId productId itemId (observed ++ ((lastUpdate updates productId).map
        PriceUpdate.newPrice).toList) after := by
  obtain ⟨row, points, lowest, present, wishlist, product, on, tracked⟩ := followed.item
  have sound := followed.sound.syncPrices synced
  have refreshed := (syncPrices_ok followed.sound.listed synced).2 itemId
  have finite : ∀ price ∈ observed, price.isFinite = true :=
    fun price seen => (followed.representable price seen).isFinite
  rw [present] at refreshed
  subst product
  generalize there : after.items.row itemId = final at refreshed
  cases refreshed with
  | some made =>
    cases made with
    | kept apart =>
      have unnamed : lastUpdate updates row.productId = none :=
        apart.resolve_right (by rw [on]; exact Bool.true_eq_false_eq_False)
      rw [unnamed, Option.map_none, Option.toList_none, List.append_nil]
      exact ⟨sound, followed.representable, row, points, lowest, there, wishlist, rfl, on, tracked⟩
    | @synced update _ last enabled stored =>
      have priced := representable update (lastUpdate_mem last)
      obtain ⟨points, lowest, tracked⟩ := tracked.assigned finite priced stored
      obtain ⟨-, sameWishlist, sameProduct, sameSwitch⟩ := assign_keys update now row.loaded
      obtain ⟨keptWishlist, keptProduct, keptSwitch⟩ := stored_keys stored
      rw [last]
      refine ⟨sound, ?_, _, points, lowest, there, keptWishlist.trans (sameWishlist.trans wishlist),
        keptProduct.trans sameProduct, keptSwitch.trans (sameSwitch.trans on), tracked⟩
      intro price member
      rcases List.mem_append.mp member with before | here
      · exact followed.representable price before
      · rw [List.mem_singleton.mp here]
        exact priced

theorem performed (followed : Followed wishlistId productId itemId observed store)
    {request : Request} (steady : Steady wishlistId itemId request)
    (done : perform request store = .ok after) :
    Followed wishlistId productId itemId (observed ++ (request.price? productId).toList) after := by
  cases request with
  | syncPrices updates now =>
    obtain ⟨⟨sent, saved⟩, synced, rfl⟩ := map_eq_ok.mp done
    exact followed.syncPrices steady synced
  | create userId dto =>
    cases done
    show Followed _ _ _ (observed ++ []) _
    rw [List.append_nil]
    exact followed.of_same (followed.sound.create dto) fun row present _ => present
  | update userId other dto =>
    show Followed _ _ _ (observed ++ []) _
    rw [List.append_nil]
    refine followed.of_same (followed.sound.update done) ?_
    obtain ⟨_, _, -, rfl⟩ := update_ok done
    exact fun row present _ => present
  | remove userId other =>
    show Followed _ _ _ (observed ++ []) _
    rw [List.append_nil]
    refine followed.of_same (followed.sound.remove done) fun row present wishlist => ?_
    have apart : row.wishlistId ≠ other := fun same => steady (same.symm.trans wishlist)
    rw [(remove_ok done).2, present]
    simp [Option.filter, apart]
  | addItem userId other dto now =>
    obtain ⟨⟨item, saved⟩, added, rfl⟩ := map_eq_ok.mp done
    show Followed _ _ _ (observed ++ []) _
    rw [List.append_nil]
    exact followed.addItem added
  | updateItem userId other id dto =>
    show Followed _ _ _ (observed ++ []) _
    rw [List.append_nil]
    exact followed.updateItem steady done
  | removeItem userId other id =>
    show Followed _ _ _ (observed ++ []) _
    rw [List.append_nil]
    refine followed.of_same (followed.sound.removeItem done) fun row present _ => ?_
    cases removeItem_ok done
    rw [Table.row_delete, if_neg (Ne.symm steady), present]

theorem stepped (followed : Followed wishlistId productId itemId observed store)
    {request : Request} (steady : Steady wishlistId itemId request) :
    Followed wishlistId productId itemId (observed ++ (request.price? productId).toList)
      (step store request) := by
  unfold step
  split
  next after done => exact followed.performed steady done
  next error failed =>
    have unobserved : request.price? productId = none := by
      cases request with
      | syncPrices updates now =>
        obtain ⟨after, synced⟩ := syncPrices_succeeds followed.sound steady now
        rw [perform, synced] at failed
        cases failed
      | _ => rfl
    simp_all

theorem reached (followed : Followed wishlistId productId itemId observed store)
    {requests : List Request} (steady : ∀ request ∈ requests, Steady wishlistId itemId request) :
    Followed wishlistId productId itemId (observed ++ observedPrices productId requests)
      (run step store requests) := by
  induction requests generalizing observed store with
  | nil => simp_all [observedPrices]
  | cons request requests ih =>
    have first := followed.stepped (steady request List.mem_cons_self)
    have rest := ih first fun request member => steady request (List.mem_cons_of_mem _ member)
    have split : observedPrices productId (request :: requests) =
        (request.price? productId).toList ++
          observedPrices productId requests := by
      unfold observedPrices
      cases price : request.price? productId <;> simp [price]
    rw [split, ← List.append_assoc]
    exact rest

end Followed

theorem addItem_followed {after : Store} (sound : Sound store) {userId : Id}
    (added : addItem userId wishlistId dto now store = .ok (item, after))
    (representable : Representable dto.currentPrice)
    (enabled : dto.notificationsEnabled ≠ some false) :
    Followed wishlistId dto.productId item.id [dto.currentPrice] after := by
  have soundAfter := sound.addItem added
  obtain ⟨-, -, -, rfl, saved⟩ := addItem_ok.mp added
  obtain ⟨row, stored, rfl⟩ := saveItem_ok.mp saved
  obtain ⟨wishlist, product, switch⟩ := stored_keys stored
  obtain ⟨points, lowest, tracked⟩ := newItem_tracked representable stored
  have on : dto.notificationsEnabled.getD true = true := by
    cases choice : dto.notificationsEnabled <;> simp_all
  refine ⟨soundAfter, ?_, row, points, lowest, ?_, wishlist, product, switch.trans on, tracked⟩
  · simp_all
  · rw [← stored_id stored]
    exact Table.row_save_self _ row

/-! ### Notifications -/

def Notification.isAbout (row : Row) (notification : Notification) : Bool :=
  notification.metadata.wishlistId = row.wishlistId &&
    notification.metadata.productId = row.productId

/-- The batch has a price below the one before, and there is no threshold or
one that is not below the price. -/
def Dropped (updates : List PriceUpdate) (row : Row) : Prop :=
  ∃ update, lastUpdate updates row.productId = some update ∧
    update.newPrice.lt (numberOf row.currentPrice) = true ∧
    ∀ threshold, row.priceAlertThreshold = some threshold →
      update.newPrice.le (numberOf threshold) = true

/-- One notification is about an item where its price has dropped so, and else
none is. -/
def ToldOnce (updates : List PriceUpdate) (row : Row) (sent : List Notification) : Prop :=
  (Dropped updates row → sent.countP (Notification.isAbout row) = 1) ∧
    (¬ Dropped updates row → sent.countP (Notification.isAbout row) = 0)

section

variable {updates : List PriceUpdate} {now : Date} {store : Store} {row : Row} {id : Id}

theorem shouldNotify_iff (newPrice : Number) (enabled : row.notificationsEnabled = true) :
    shouldNotify newPrice row.loaded = true ↔ newPrice.lt (numberOf row.currentPrice) = true ∧
        ∀ threshold, row.priceAlertThreshold = some threshold →
          newPrice.le (numberOf threshold) = true := by
  have switch : row.loaded.notificationsEnabled = true := enabled
  have previous : row.loaded.currentPrice.toNumber =
      numberOf row.currentPrice := rfl
  have limit : row.loaded.priceAlertThreshold =
      row.priceAlertThreshold.map .text := rfl
  unfold shouldNotify
  rw [switch, previous, limit, Bool.and_true, Bool.and_eq_true]
  cases row.priceAlertThreshold <;> simp [Price.toNumber]

theorem queued_isSome (sound : Sound store) (present : store.items.row id = some row)
    (enabled : row.notificationsEnabled = true) :
    (queued updates now store row).isSome ↔ Dropped updates row := by
  obtain ⟨wishlist, there⟩ := sound.owned present
  unfold queued Dropped
  cases lastUpdate updates row.productId <;> simp_all [shouldNotify_iff]

theorem queued_isAbout {other : Row} {drop : PriceDrop}
    (made : queued updates now store other = some drop) :
    (notificationOf drop).isAbout row = true ↔
      other.wishlistId = row.wishlistId ∧ other.productId = row.productId := by
  obtain ⟨update, -, rest⟩ := Option.bind_eq_some_iff.mp made
  obtain ⟨wishlist, -, built⟩ := Option.bind_eq_some_iff.mp rest
  obtain ⟨-, sameWishlist, sameProduct, -⟩ := assign_keys update now other.loaded
  split at built
  next =>
    cases built
    rw [Notification.isAbout, Bool.and_eq_true, decide_eq_true_iff, decide_eq_true_iff]
    show (assign update now other.loaded).wishlistId = _ ∧
      (assign update now other.loaded).productId = _ ↔ _
    rw [sameWishlist, sameProduct]
    exact Iff.rfl
  next => cases built

theorem countP_eq_one {α : Type} {list : List α} {test : α → Bool} {a : α}
    (distinct : list.Nodup) (member : a ∈ list) (holds : test a = true)
    (only : ∀ b ∈ list, test b = true → b = a) : list.countP test = 1 := by
  obtain ⟨front, back, rfl⟩ := List.append_of_mem member
  have none : front.countP test = 0 := by grind
  have more : back.countP test = 0 := by grind
  rw [List.countP_append, List.countP_cons_of_pos holds, none, more]

theorem sent_toldOnce (sound : Sound store) (present : store.items.row id = some row)
    (enabled : row.notificationsEnabled = true) :
    ToldOnce updates row (((found updates store).filterMap
      (queued updates now store)).map notificationOf) := by
  unfold ToldOnce
  generalize sentIs : ((found updates store).filterMap
    (queued updates now store)).map notificationOf = sent
  let test (other : Row) : Bool := ((queued updates now store other).map
    fun drop => (notificationOf drop).isAbout row).getD false
  have counted : sent.countP (Notification.isAbout row) = (found updates store).countP test := by
    rw [← sentIs, List.countP_map, List.countP_filterMap]
    rfl
  have told : ∀ {other}, test other = true → ∃ drop, queued updates now store other = some drop ∧
        other.wishlistId = row.wishlistId ∧ other.productId = row.productId := by
    intro other met
    cases made : queued updates now store other <;> grind [queued_isAbout]
  have only : ∀ other ∈ found updates store, test other = true → other = row := by
    intro other loaded met
    obtain ⟨_, -, wishlist, product⟩ := told met
    have there := Table.mem_rows.mp (mem_found.mp loaded).1
    have same := sound.unique there present wishlist product
    simp_all
  rw [counted]
  constructor
  · intro dropped
    have listed := Table.mem_rows_of_row present
    have loaded : row ∈ found updates store := by
      obtain ⟨update, last, -⟩ := dropped
      exact mem_found.mpr ⟨listed, by rw [last]; rfl, enabled⟩
    have distinct : (found updates store).Nodup :=
      (store.items.rows_pairwise.imp fun apart same => apart (congrArg Keyed.key same)).filter _
    refine countP_eq_one distinct loaded ?_ only
    have some : (queued updates now store row).isSome :=
      (queued_isSome sound present enabled).mpr dropped
    obtain ⟨drop, made⟩ := Option.isSome_iff_exists.mp some
    simp only [test, made, Option.map_some, Option.getD_some]
    exact (queued_isAbout made).mpr ⟨rfl, rfl⟩
  · grind [queued_isSome]

end

/-- After an item has been added, and through any requests that keep it and its
notifications, whatever the batches are: its history has the last of the
different prices that were observed, 90 of them at most, and ends with the
current one; its lowest price is the least of all that were observed; and a
batch sends one notification for it where its price drops below the one before
as far as the threshold, and none elsewhere. -/
theorem prices_tracked (before : List Request) {userId wishlistId : Id}
    {dto : AddWishlistItemDto} {now : Date} {item : WishlistItem Price} {store : Store}
    (added : addItem userId wishlistId dto now (run step {} before) = .ok (item, store))
    (representable : Representable dto.currentPrice)
    (enabled : dto.notificationsEnabled ≠ some false) {requests : List Request}
    (steady : ∀ request ∈ requests, Steady wishlistId item.id request) :
    ∃ row points lowest, (run step store requests).items.row item.id = some row ∧
      row.wishlistId = wishlistId ∧ row.productId = dto.productId ∧
      Tracked (dto.currentPrice :: observedPrices dto.productId requests) row points lowest ∧
      (1 ≤ points.length ∧ points.length ≤ 90) ∧ points.getLast?.map PricePoint.price =
        some (some (numberOf row.currentPrice)) ∧
      ∀ updates now, (∀ update ∈ updates, Representable update.newPrice) →
        ∃ sent after, syncPrices updates now (run step store requests) =
          .ok (sent, after) ∧ ToldOnce updates row sent := by
  have sound : Sound (run step {} before) :=
    run_preserves (fun _ request sound => sound.step request) .empty before
  have final := (addItem_followed sound added representable enabled).reached steady
  obtain ⟨row, points, lowest, present, wishlist, product, on, tracked⟩ := final.item
  refine ⟨row, points, lowest, present, wishlist, product, tracked,
    tracked.length, tracked.last, fun updates now priced => ?_⟩
  obtain ⟨after, synced⟩ := syncPrices_succeeds final.sound priced now
  exact ⟨_, after, synced, sent_toldOnce final.sound present on⟩

def lamp : AddWishlistItemDto where
  productId := 3
  productName := "Lamp"
  currentPrice := .finite 20

/-- A wishlist of a user, and a lamp on it. -/
def lampAdded : Except HttpException (WishlistItem Price × Store) :=
  addItem 7 0 lamp 0 (run step {} [.create 7 { name := "Home" }])

/-- The lamp gets cheaper, of two entries the last one counting, and the user
wants to hear of prices up to 12 only. -/
def lampRequests : List Request := [.syncPrices [⟨3, .finite 18, true⟩, ⟨3, .finite 15, true⟩] 1,
    .updateItem 7 0 0 { priceAlertThreshold := .given (.finite 12) },
    .syncPrices [⟨3, .finite 16, true⟩] 2]

theorem lamp_tracked :
    ∃ item store, lampAdded = .ok (item, store) ∧ ∃ row points lowest,
        (run step store lampRequests).items.row item.id = some row ∧
        Tracked [.finite 20, .finite 15, .finite 16] row points lowest ∧
        (1 ≤ points.length ∧ points.length ≤ 90) ∧ ∃ sent after,
          syncPrices [⟨3, .finite 14, true⟩] 3 (run step store lampRequests) =
            .ok (sent, after) ∧ ToldOnce [⟨3, .finite 14, true⟩] row sent := by
  have scaled : ∀ price ∈ [20, 18, 15, 16, (14 : ℚ)],
      Representable (.finite price) := by
    intro price member
    refine ⟨(price * 100).num, ?_, ?_⟩ <;> revert price <;> decide +kernel
  cases added : lampAdded with
  | error error =>
    have accepted : lampAdded.isOk = true := by decide +kernel
    rw [added] at accepted
    cases accepted
  | ok pair =>
    obtain ⟨item, store⟩ := pair
    have steady : ∀ request ∈ lampRequests, Steady 0 item.id request := by
      simp [lampRequests, Steady, scaled]
    obtain ⟨row, points, lowest, present, -, -, tracked, length, -, told⟩ :=
      prices_tracked [.create 7 { name := "Home" }] added (scaled 20 (by simp)) nofun steady
    refine ⟨item, store, rfl, row, points, lowest, present, tracked, length, told _ 3 ?_⟩
    simp [scaled]

end MarketX.Wishlists
