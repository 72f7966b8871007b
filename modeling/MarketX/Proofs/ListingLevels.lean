/-
Module: MarketX.Proofs.ListingLevels
Purpose: How long the levels of every listing stay sound, one operation after
  the other; and what is lost where orders and page views race for a listing
  without a lock.
Trusted boundary: none
Main exports: Manageable, ListingsKept, listing_levels_sound, listing_reservations_kept
-/
import MarketX.Commerce.Runs
import MarketX.Commerce.StockTransactions
import MarketX.Commerce.Stockroom

namespace MarketX.Commerce

open Effects Handler Stockkeeping

/-! ### What a call may do to a listing -/

def totalChange (listingId : Id) (updates : List InventoryService.InventoryUpdate) : ℤ :=
  (updates.filterMap fun update =>
    if update.listingId = listingId then some update.change else none).sum

/-- The listings bear the call: an adjustment or a bulk update takes no more
than is available, a confirmed order no more than is there, and the variants
of a listing that is counted anew add up to sound levels. -/
def Manageable (world : World) (turn : StockTurn) : Prop :=
  match turn.1 with
  | .adjustInventory listingId _ change _ _ =>
    ∀ listing, world.db.listings.row listingId = some listing → 0 ≤ listing.available + change
  | .bulkUpdateInventory updates =>
    ∀ id listing, world.db.listings.row id = some listing →
      0 ≤ listing.available + totalChange id updates
  | .confirmOrder order =>
    ∀ id listing, world.db.listings.row id = some listing → demand id order.items ≤ listing.quantity
  | .adjustVariantInventory variantId _ change _ _ =>
    ∀ variant, world.db.variants.row variantId = some variant →
      0 ≤ variant.quantity + change - variant.reserved →
        world.db.listings.row variant.listingId ≠ none →
          (world.stockroom.countAfter variant change).Sound
  | _ => True

/-- Every listing's levels are sound. -/
def SoundListings (listings : Table Listing) : Prop :=
  ∀ id listing, listings.row id = some listing → (Shelved.levels listing).Sound

/-- After the call every listing's levels are sound, and a call that threw
has left listings, variants and history as they were. -/
structure ListingsKept (world : World) (turn : StockTurn) : Prop where
  sound : SoundListings (stocktake world turn).db.listings
  rejected : returns world turn = false → (stocktake world turn).db.listings = world.db.listings ∧
      (stocktake world turn).db.variants = world.db.variants ∧
      (stocktake world turn).db.histories = world.db.histories

/-! ### Postings on one listing -/

def Posting.movementOn (listingId : Id) : Posting → Option Movement
  | .listing row movement | .bulk row movement =>
    if row.listingId = listingId then some movement else none
  | .product _ _ | .variant _ _ _ _ _ => none

/-- The posting counts no listing anew. -/
def Posting.counts : Posting → Bool
  | .variant _ _ _ _ _ => true
  | _ => false

variable {after room : Stockroom} {id : Id} {movement : Movement} {later : Listing}
  {posting : OrderItem → Posting} {postings : List Posting} {row : InventoryHistory}
  {items : List OrderItem} {change : ℤ}

theorem listing_shifted {listings after : Table Listing} {key : Id}
    (shifted : shift listings key movement = some after)
    (stored : after.row id = some later) :
    ∃ listing, listings.row id = some listing ∧ followAll (if key = id then [movement] else [])
          (Shelved.levels listing) =
        some (Shelved.levels later) := by
  obtain ⟨row, levels, before, applied, rows⟩ := row_shift shifted
  rw [rows] at stored
  split at stored
  next concerned =>
    cases stored
    simp_all [followAll_cons]
  next other => exact ⟨later, stored, by rw [if_neg (Ne.symm other)]; rfl⟩

theorem listing_posted {posting : Posting} (moves : posting.counts = false)
    (posted : room.post posting = some after)
    (stored : after.listings.row id = some later) :
    ∃ listing, room.listings.row id = some listing ∧
      followAll (posting.movementOn id).toList (Shelved.levels listing) =
        some (Shelved.levels later) := by
  cases posting with
  | product row movement =>
    rw [Stockroom.post, Option.bind_eq_bind, Option.bind_eq_some_iff] at posted
    obtain ⟨products, shifted, same⟩ := posted
    cases same
    exact ⟨later, stored, rfl⟩
  | listing row movement =>
    rw [Stockroom.post, Option.bind_eq_bind, Option.bind_eq_some_iff] at posted
    obtain ⟨listings, shifted, same⟩ := posted
    cases same
    obtain ⟨listing, found, followed⟩ := listing_shifted shifted stored
    grind [Posting.movementOn]
  | bulk row movement =>
    rw [Stockroom.post] at posted
    cases present : room.listings.row row.listingId with
    | none =>
      simp only [present] at posted
      cases posted
      refine ⟨later, stored, ?_⟩
      have other : row.listingId ≠ id := by
        rintro rfl
        cases present.symm.trans stored
      rw [Posting.movementOn, if_neg other]
      rfl
    | some listing =>
      simp only [present] at posted
      rw [Option.bind_eq_bind, Option.bind_eq_some_iff] at posted
      obtain ⟨listings, shifted, same⟩ := posted
      cases same
      obtain ⟨listing, found, followed⟩ := listing_shifted shifted stored
      grind [Posting.movementOn]
  | variant variantId userId change type note => cases moves

/-- All postings of a call, seen from one listing: its levels follow the
movements made of it, in order. -/
theorem listing_followed (moves : ∀ posting ∈ postings, posting.counts = false)
    (posted : room.postAll postings = some after) (stored : after.listings.row id = some later) :
    ∃ listing, room.listings.row id = some listing ∧
      followAll (postings.filterMap (Posting.movementOn id)) (Shelved.levels listing) =
        some (Shelved.levels later) := by
  induction postings generalizing room with
  | nil =>
    cases posted
    exact ⟨later, stored, rfl⟩
  | cons head tail ih =>
    rw [Stockroom.postAll_cons, Option.bind_eq_some_iff] at posted
    obtain ⟨middle, first, rest⟩ := posted
    obtain ⟨between, foundBetween, followed⟩ := ih
      (fun posting member => moves posting (List.mem_cons_of_mem _ member)) rest
    obtain ⟨listing, found, one⟩ := listing_posted
      (moves head List.mem_cons_self) first foundBetween
    refine ⟨listing, found, ?_⟩
    have split : (head :: tail).filterMap (Posting.movementOn id) = (head.movementOn id).toList ++
          tail.filterMap (Posting.movementOn id) := by grind
    rw [split, followAll_append, one]
    exact followed

/-! ### One call -/

theorem sound_of_gentle
    (sound : SoundListings room.listings) (moves : ∀ posting ∈ postings, posting.counts = false)
    (gentle : ∀ id, ∀ movement ∈ postings.filterMap (Posting.movementOn id), movement.Gentle)
    (posted : room.postAll postings = some after) :
    SoundListings after.listings := by
  intro id later stored
  obtain ⟨listing, found, followed⟩ := listing_followed moves posted stored
  exact followAll_sound (gentle id) (sound id listing found) followed

theorem sound_of_product (sound : SoundListings room.listings)
    (posted : room.postAll [.product row movement] = some after) :
    SoundListings after.listings := by grind [sound_of_gentle, Posting.counts, Posting.movementOn]

/-- What some items ask of one listing, item by item. -/
def askedOf (id : Id) (items : List OrderItem) : List ℤ :=
  (items.filter fun item => item.productId = id).map OrderItem.quantity

theorem sum_askedOf (id : Id) (items : List OrderItem) :
    (askedOf id items).sum = demand id items := by
  induction items with
  | nil => rfl
  | cons item items ih => grind [demand_cons, askedOf]

theorem askedOf_pos :
    ∀ amount ∈ askedOf id items, 0 < amount := by
  intro amount member
  obtain ⟨item, _, rfl⟩ := List.mem_map.mp member
  exact item.quantity_pos

theorem askedOf_eq_nil :
    askedOf id items = [] ↔ ∀ item ∈ items, item.productId ≠ id := by simp [askedOf]

theorem movements_items {kind : ℤ → Movement} (listed : ∀ item, (posting item).movementOn id =
      if item.productId = id then some (kind item.quantity) else none) (items : List OrderItem) :
    (items.map posting).filterMap (Posting.movementOn id) = (askedOf id items).map kind := by
  induction items <;> grind [askedOf]

theorem sound_of_items (kind : ℤ → Movement) (sound : SoundListings room.listings)
    (moves : ∀ item, (posting item).counts = false)
    (listed : ∀ id item, (posting item).movementOn id =
      if item.productId = id then some (kind item.quantity) else none)
    (gentle : ∀ amount, 0 ≤ amount → (kind amount).Gentle)
    (posted : room.postAll (items.map posting) = some after) :
    SoundListings after.listings := by
  apply sound_of_gentle sound _ _ posted
  · simp_all
  · intro id movement member
    rw [movements_items (listed id)] at member
    grind [le_of_lt, askedOf_pos]

theorem sound_of_confirmed {order : Order} (sound : SoundListings room.listings)
    (enough : ∀ id listing, room.listings.row id = some listing →
      demand id order.items ≤ listing.quantity)
    (posted : room.postAll (InventoryCall.confirmOrder order).postings = some after) :
    SoundListings after.listings := by
  intro id later stored
  have moves : ∀ posting ∈ (InventoryCall.confirmOrder order).postings, posting.counts = false := by
    intro posting member
    obtain ⟨item, _, rfl⟩ := List.mem_map.mp member
    rfl
  obtain ⟨listing, found, followed⟩ := listing_followed moves posted stored
  rw [InventoryCall.postings, movements_items fun _ => rfl] at followed
  obtain ⟨equation, lowest, bound⟩ := sound id listing found
  have positive : ∀ amount ∈ askedOf id order.items, 0 ≤ amount :=
    fun amount member => le_of_lt (askedOf_pos amount member)
  rw [followAll_sells positive equation lowest followed, sum_askedOf, lowered_eq]
  have covered := enough id listing found
  have reserved : (Shelved.levels listing).reserved ≤ listing.quantity := bound
  apply Levels.sound_booked
  · exact le_max_left _ _
  · show max 0 ((Shelved.levels listing).reserved - demand id order.items) ≤
      listing.quantity - demand id order.items
    omega

theorem update_movements (id : Id) (updates : List InventoryService.InventoryUpdate) :
    (updates.map InventoryCall.bulkPosting).filterMap (Posting.movementOn id) =
      (updates.filterMap fun update =>
        if update.listingId = id then some update.change
        else none).map .restock := by
  rw [List.filterMap_map, List.map_filterMap]
  congr
  funext update
  show (if update.listingId = id then some (Movement.restock update.change)
    else none) = _
  split <;> rfl

theorem sound_restocked {levels after : Levels} (changes : List ℤ)
    (sound : levels.Sound) (covered : 0 ≤ levels.available + changes.sum)
    (followed : followAll (changes.map .restock) levels = some after) :
    after.Sound := by
  obtain ⟨equation, lowest, bound⟩ := sound
  rw [followAll_restocks equation followed]
  exact Levels.sound_booked lowest (by omega)

theorem sound_of_bulk {updates : List InventoryService.InventoryUpdate}
    (sound : SoundListings room.listings)
    (covered : ∀ id listing, room.listings.row id = some listing →
      0 ≤ listing.available + totalChange id updates)
    (posted : room.postAll (InventoryCall.bulkUpdateInventory updates).postings = some after) :
    SoundListings after.listings := by
  intro id later stored
  have moves : ∀ posting ∈ (InventoryCall.bulkUpdateInventory updates).postings,
      posting.counts = false := by
    intro posting member
    obtain ⟨update, _, rfl⟩ := List.mem_map.mp member
    rfl
  obtain ⟨listing, found, followed⟩ := listing_followed moves posted stored
  rw [InventoryCall.postings, update_movements] at followed
  exact sound_restocked _ (sound id listing found) (covered id listing found) followed

theorem sound_of_adjusted (sound : SoundListings room.listings)
    (covered : ∀ listing, room.listings.row row.listingId = some listing →
      0 ≤ listing.available + change)
    (posted : room.postAll [.listing row (.restock change)] = some after) :
    SoundListings after.listings := by
  intro id later stored
  obtain ⟨listing, found, followed⟩ := listing_followed (by simp [Posting.counts]) posted stored
  by_cases concerned : row.listingId = id
  · rw [List.filterMap_cons_some (by rw [Posting.movementOn, if_pos concerned])] at followed
    rw [← concerned] at found
    exact sound_restocked [change] (sound row.listingId listing found)
      (by rw [List.sum_singleton]; exact covered listing found) followed
  · rw [List.filterMap_cons_none (by rw [Posting.movementOn, if_neg concerned])] at followed
    have same := Option.some.inj followed
    rw [← same]
    exact sound id listing found

/-! ### A listing counted anew -/

theorem sound_of_counted {userId : Id} {type : InventoryChangeType} {note : Option String}
    (sound : SoundListings room.listings)
    (counted : ∀ variant, room.variants.row id = some variant →
      0 ≤ variant.quantity + change - variant.reserved →
        room.listings.row variant.listingId ≠ none → (room.countAfter variant change).Sound)
    (posted : room.post (.variant id userId change type note) = some after) :
    SoundListings after.listings := by
  obtain ⟨variant, found, covered, recount⟩ := variant_posted posted
  rcases recount.listings with ⟨missing, same⟩ | ⟨listing, listed, anew⟩
  · rw [same]
    exact sound
  · intro key later stored
    rw [anew, Table.row_save] at stored
    split at stored
    next concerned => grind [levels_counted]
    next other => exact sound key later stored

/-! ### Runs -/

theorem sound_listings_stocktake {world : World} {turn : StockTurn}
    (sound : SoundListings world.db.listings) (manageable : Manageable world turn) :
    SoundListings (stocktake world turn).db.listings := by
  cases outcome : returns world turn with
  | false =>
    have kept := congrArg Stockroom.listings (stockroom_stocktake outcome)
    intro id listing stored
    exact sound id listing ((congrFun (congrArg Table.row kept) id).symm.trans stored)
  | true =>
    have posted := postAll_stocktake outcome
    obtain ⟨call, faults⟩ := turn
    cases call with
    | adjustVariantInventory variantId userId change type note =>
      rw [InventoryCall.postings, postAll_single] at posted
      apply sound_of_counted sound _ posted
      exact manageable
    | adjustInventory listingId userId change type note =>
      apply sound_of_adjusted sound _ posted
      exact manageable
    | bulkUpdateInventory updates =>
      apply sound_of_bulk sound _ posted
      exact manageable
    | reserveForOrder order =>
      exact sound_of_items .reserve sound (fun _ => rfl)
        (fun _ _ => rfl) (fun _ nonneg => nonneg) posted
    | confirmOrder order =>
      apply sound_of_confirmed sound _ posted
      exact manageable
    | cancelOrder order =>
      exact sound_of_items .release sound (fun _ => rfl)
        (fun _ _ => rfl) (fun _ nonneg => nonneg) posted
    | restoreInventoryFromRefund order =>
      exact sound_of_items .restock sound (fun _ => rfl)
        (fun _ _ => rfl) (fun _ nonneg => nonneg) posted
    | reserveInventory productId userId amount => exact sound_of_product sound posted
    | releaseInventory productId userId amount => exact sound_of_product sound posted
    | commitSale productId userId amount => exact sound_of_product sound posted

/-- Over every run of calls that the listings bear, whatever fails in them. -/
theorem listing_levels_sound {world : World} {turns : List StockTurn}
    (sound : SoundListings world.db.listings)
    (manageable : Along stocktake Manageable world turns) :
    Along stocktake ListingsKept world turns := by
  have preserved : ∀ world turn, SoundListings world.db.listings → Manageable world turn →
        SoundListings (stocktake world turn).db.listings :=
    fun _ _ => sound_listings_stocktake
  apply along_of_invariant preserved _ sound manageable
  intro world turn sound bears
  refine ⟨sound_listings_stocktake sound bears, fun thrown => ?_⟩
  have kept := stockroom_stocktake thrown
  exact ⟨congrArg Stockroom.listings kept, congrArg Stockroom.variants kept,
    congrArg Stockroom.histories kept⟩

theorem openShop_sound : SoundListings openShop.db.listings := by
  intro id listing stored
  have saved : (Table.save .empty
      { id := 0, title := "lamp", price := 100, quantity := 10
        available := 10 : Listing }).row id = some listing := stored
  rw [Table.row_save] at saved
  split at saved
  · cases saved
    exact ⟨by decide, by decide, by decide⟩
  · cases saved

/-- Ten lamps are taken down to none. -/
theorem lamp_listing_sound :
    Along stocktake ListingsKept openShop [(.adjustInventory 0 7 (-10) .adjustment none, [])] := by
  refine listing_levels_sound openShop_sound ⟨?_, trivial⟩
  intro listing found
  cases found
  decide

/-- Of ten lamps eleven are taken away, and the listing says that one is
missing, where a variant would have been refused. -/
theorem adjustment_below_zero :
    SoundListings openShop.db.listings ∧ ¬ Along stocktake ListingsKept openShop
        [(.adjustInventory 0 7 (-11) .adjustment none, [])] := by
  refine ⟨openShop_sound, fun kept => ?_⟩
  have adjusted :
      (stocktake openShop (.adjustInventory 0 7 (-11) .adjustment none, [])).db.listings.row 0 =
      some
        { id := 0, title := "lamp", price := 100, quantity := -1
          reserved := 0, available := -1 } := by decide
  exact absurd (kept.1.sound 0 _ adjusted).reserved_le (by decide)

end MarketX.Commerce

namespace MarketX.Commerce

open Effects Handler Stockkeeping

/-! ### What the tasks write -/

def demands (listingId : Id) (items : List OrderItem) : List ℤ := items.filterMap fun item =>
    if item.productId = listingId then some item.quantity else none

/-- All that the committed orders reserved of a listing. -/
def reservedBy (listingId : Id) (log : List ListingTask) : List ℤ := log.flatMap fun
    | .reserveForOrder order => demands listingId order.items
    | .findOne _ => []

/-- The session has added its items to the levels it has read. -/
structure Added (items : List OrderItem) (seen : List (Id × Option Listing))
    (buffer : Rows Id Listing) : Prop where
  written : ∀ key listing, buffer key = some listing → ∃ read, (key, some read) ∈ seen ∧
      followAll ((demands key items).map .reserve) (Shelved.levels read) =
        some (Shelved.levels listing)
  unwritten : ∀ key, buffer key = none → demands key items = []

def viewRules : Rules Id Listing where
  reads _ _ := True
  writes seen _ key listing := ∃ read, (key, some read) ∈ seen ∧
      Shelved.levels listing = Shelved.levels read

def anyRules : Rules Id Listing where
  reads _ _ := True
  writes _ _ _ _ := True

def taskRules : ListingTask → Rules Id Listing
  | .reserveForOrder _ => anyRules
  | .findOne _ => viewRules

def taskPost : ListingTask → List (Id × Option Listing) → Rows Id Listing → Prop
  | .reserveForOrder order, seen, buffer => Added order.items seen buffer
  | .findOne _, _, buffer => ∀ key, buffer key = none

theorem Added.item {done : List OrderItem} {item : OrderItem}
    {seen earlier : List (Id × Option Listing)} {buffer : Rows Id Listing}
    {read listing : Listing} {levels : Levels} (added : Added done earlier buffer)
    (kept : ∀ entry ∈ earlier, entry ∈ seen) (member : (item.productId, some read) ∈ seen)
    (before : followAll ((demands item.productId done).map .reserve)
      (Shelved.levels read) = some levels)
    (applied : (Movement.reserve item.quantity).apply levels = some (Shelved.levels listing)) :
    Added (done ++ [item]) seen (Function.update buffer item.productId (some listing)) := by
  have asked : ∀ key, demands key (done ++ [item]) =
      demands key done ++ if item.productId = key then [item.quantity] else [] := by grind [demands]
  constructor
  · intro key stored written
    by_cases same : key = item.productId
    · subst same
      rw [Function.update_self] at written
      cases written
      refine ⟨read, member, ?_⟩
      simp_all [followAll_append, followAll_cons]
    · rw [Function.update_of_ne same] at written
      obtain ⟨read, found, followed⟩ := added.written key stored written
      grind
  · intro key unwritten
    by_cases same : key = item.productId
    · simp_all
    · rw [Function.update_of_ne same] at unwritten
      rw [asked, if_neg (Ne.symm same), List.append_nil]
      exact added.unwritten key unwritten

theorem reserveItem_adds (order : Order) (done : List OrderItem)
    (item : OrderItem) (seen : List (Id × Option Listing))
    (buffer : Rows Id Listing) (added : Added done seen buffer) :
    (InventoryService.reserveItem order item).obeys listingStore anyRules
      false (fun _ => Added (done ++ [item])) seen buffer := by
  apply Program.obeys_reading rfl trivial
  · intro listing written
    obtain ⟨read, member, before⟩ := added.written _ listing written
    apply Program.obeys_guard
    intro covered
    apply Program.obeys_writing rfl trivial
    exact added.item (fun _ inside => inside) member before (if_neg covered)
  · intro unwritten row
    cases row with
    | none => trivial
    | some read =>
      have before :
          followAll ((demands item.productId done).map .reserve) (Shelved.levels read) =
            some (Shelved.levels read) := by
        rw [added.unwritten _ unwritten]
        rfl
      apply Program.obeys_guard
      intro covered
      apply Program.obeys_writing rfl trivial
      exact added.item (fun _ inside => List.mem_cons_of_mem _ inside)
        List.mem_cons_self before (if_neg covered)

theorem listingWork_obeys : listingWork.Obeys taskRules taskPost := by
  intro task
  cases task with
  | reserveForOrder order =>
    exact Program.obeys_forM Added (reserveItem_adds order) order.items [] ⟨nofun, fun _ _ => rfl⟩
  | findOne listingId =>
    apply Program.obeys_bind
    apply Program.obeys_reading rfl trivial
    · exact fun _ => nofun
    · intro unwritten row
      cases row with
      | none => trivial
      | some listing =>
        apply Program.obeys_elsewhere rfl
        apply Program.obeys_writing rfl
        · exact ⟨listing, List.mem_cons_self, rfl⟩
        · exact fun _ => rfl

/-! ### One turn -/

/-- Whoever puts rows among the committed ones has read levels that are still
committed. -/
def UpToDate (engine : Engine signature HttpException ListingTask Id Listing) :
    EngineTurn ListingTask → Prop
  | .proceed slot =>
    ∀ session ∈ engine.sessions slot, engine.publishes listingWork slot session = true →
        ∀ entry ∈ session.seen, (engine.rows entry.1).map Shelved.levels =
            entry.2.map Shelved.levels
  | .begin _ _ | .abort _ => True

instance (engine : Engine signature HttpException ListingTask Id Listing) :
    ∀ turn, Decidable (UpToDate engine turn)
  | .proceed slot => inferInstanceAs (Decidable (∀ session ∈ engine.sessions slot, _ → _))
  | .begin _ _ | .abort _ => inferInstanceAs (Decidable True)

/-- Every listing carries the reservations of the committed orders. -/
def Carried (start : Rows Id Listing)
    (engine : Engine signature HttpException ListingTask Id Listing) : Prop :=
  ∀ id listing, start id = some listing → ∃ later, engine.rows id = some later ∧
      followAll ((reservedBy id engine.log).map .reserve) (Shelved.levels listing) =
        some (Shelved.levels later)

section

variable {start : Rows Id Listing} {engine : Engine signature HttpException ListingTask Id Listing}

variable {after : Engine signature HttpException ListingTask Id Listing}

theorem Carried.of_same (carried : Carried start engine)
    (rows : after.rows = engine.rows) (log : after.log = engine.log) :
    Carried start after := by
  rw [Carried, rows, log]
  exact carried

theorem Carried.ordered (carried : Carried start engine) {order : Order}
    {seen : List (Id × Option Listing)} {buffer : Rows Id Listing}
    (added : Added order.items seen buffer) (upToDate : ∀ entry ∈ seen,
      (engine.rows entry.1).map Shelved.levels = entry.2.map Shelved.levels)
    (rows : after.rows = overlay buffer engine.rows)
    (log : after.log = engine.log ++ [.reserveForOrder order]) :
    Carried start after := by
  intro id listing found
  obtain ⟨current, stored, followed⟩ := carried id listing found
  have grown : reservedBy id after.log = reservedBy id engine.log ++ demands id order.items := by
    simp_all [reservedBy]
  rw [grown, List.map_append, rows]
  cases written : buffer id with
  | none =>
    refine ⟨current, ?_, ?_⟩
    · rw [overlay, written, Option.none_or, stored]
    · rw [added.unwritten id written, List.map_nil, List.append_nil]
      exact followed
  | some later =>
    obtain ⟨read, member, moved⟩ := added.written id later written
    grind [overlay, followAll_append]

theorem Carried.viewed (carried : Carried start engine) {key : Id} {listing read : Listing}
    (levels : Shelved.levels listing = Shelved.levels read)
    (upToDate : (engine.rows key).map Shelved.levels = (some read).map Shelved.levels)
    (rows : after.rows = Function.update engine.rows key (some listing))
    (log : after.log = engine.log) : Carried start after := by
  intro id before found
  obtain ⟨current, stored, followed⟩ := carried id before found
  rw [log, rows]
  grind

/-- The session ends with its commit: a page view has nothing left to
write. -/
theorem Carried.committed (carried : Carried start engine) {slot : ℕ}
    {session : Session signature HttpException ListingTask Id Listing}
    {value : Unit} (ended : session.rest = .pure value)
    (obeyed : session.Obeys listingWork taskRules taskPost)
    (upToDate : engine.publishes listingWork slot session = true → ∀ entry ∈ session.seen,
        (engine.rows entry.1).map Shelved.levels = entry.2.map Shelved.levels) :
    Carried start (engine.commit slot session) := by
  rw [Session.Obeys, ended] at obeyed
  rw [Engine.publishes, ended] at upToDate
  cases task : session.name with
  | reserveForOrder order =>
    rw [task] at obeyed upToDate
    exact carried.ordered obeyed (upToDate rfl) rfl (by rw [Engine.commit, task])
  | findOne listingId =>
    rw [task] at obeyed
    have nothing : session.buffer = fun _ => none := funext obeyed
    intro id listing found
    obtain ⟨later, stored, followed⟩ := carried id listing found
    refine ⟨later, ?_, ?_⟩
    · show overlay session.buffer engine.rows id = some later
      rw [nothing, overlay_none, stored]
    · show followAll (List.map .reserve (reservedBy id (engine.log ++ [session.name]))) _ = _
      simp_all [reservedBy]

theorem Carried.step (obeyed : engine.Obeys listingWork taskRules taskPost)
    (carried : Carried start engine) (turn : EngineTurn ListingTask)
    (upToDate : UpToDate engine turn) :
    Carried start (engine.step listingWork turn) := by
  have moves := engine.step_moves listingWork turn
  generalize engine.step listingWork turn = after at moves ⊢
  cases moves with
  | stays => exact carried
  | begins unused => exact carried.of_same rfl rfl
  | leaves slot => exact carried.of_same rfl rfl
  | commits found ended => exact carried.committed ended (obeyed _ _ found) (upToDate _ found)
  | passes found awaits touches => exact carried.of_same rfl rfl
  | looks found awaits touches free => exact carried.of_same rfl rfl
  | reads found awaits touches granted => exact carried.of_same rfl rfl
  | writes found awaits touches granted transacts => exact carried.of_same rfl rfl
  | @publishes slot session op next key row found awaits touches granted autocommits =>
    have allowed := (obeyed _ _ found).write awaits touches
    have current := upToDate _ found
    rw [Engine.publishes, awaits] at current
    simp only [touches, autocommits, granted, Bool.and_self] at current
    cases task : session.name with
    | reserveForOrder order =>
      rw [task] at autocommits
      cases autocommits
    | findOne listingId =>
      rw [task] at allowed
      obtain ⟨read, member, levels⟩ := allowed
      exact carried.viewed levels (current trivial _ member) rfl rfl

end

/-! ### Every schedule -/

/-- As long as everyone who commits is up to date: every listing's reserved
quantity has grown by what the committed orders reserved of it, page views or
not, and together they took no more than was available. -/
theorem listing_reservations_kept (start : Rows Id Listing) (turns : List (EngineTurn ListingTask))
    (upToDate : Along (Engine.step listingWork) UpToDate (Engine.start start) turns) :
    let engine := run (Engine.step listingWork) (Engine.start start) turns
    ∀ id listing, start id = some listing → ∃ later, engine.rows id = some later ∧
        (Shelved.levels listing).Granted (Shelved.levels later) (reservedBy id engine.log).sum := by
  intro engine id listing found
  have preserved : ∀ (engine : Engine signature HttpException ListingTask Id
      Listing) (turn : EngineTurn ListingTask),
      engine.Obeys listingWork taskRules taskPost ∧ Carried start engine → UpToDate engine turn →
          (engine.step listingWork turn).Obeys listingWork taskRules taskPost ∧
            Carried start (engine.step listingWork turn) :=
    fun engine turn sound upToDate =>
      ⟨sound.1.step listingWork_obeys turn, sound.2.step sound.1 turn upToDate⟩
  have initially : Carried start (Engine.start start) :=
    fun id listing found => ⟨listing, found, rfl⟩
  obtain ⟨_, carried⟩ := run_invariant preserved ⟨Engine.obeys_start start, initially⟩ upToDate
  obtain ⟨later, stored, followed⟩ := carried id listing found
  refine ⟨later, stored, followAll_reserves ?_ followed⟩
  intro amount member
  obtain ⟨task, _, inside⟩ := List.mem_flatMap.mp member
  cases task with
  | reserveForOrder order =>
    obtain ⟨item, _, asked⟩ := List.mem_filterMap.mp inside
    split at asked
    · cases asked
      exact item.quantity_pos
    · cases asked
  | findOne listingId => cases inside

/-- The last lamp. -/
def lastLamp : Rows Id Listing := fun id =>
  if id = 0 then
    some { id := 0, title := "lamp", price := 100, quantity := 1
           available := 1 }
  else none

def lampFor (buyerId : Id) : Order where
  id := buyerId
  buyerId := buyerId
  totalAmount := 100
  currency := .USD
  items :=
    [{ productId := 0, productName := "lamp", quantity := 1, price := 100
       subtotal := 100, priceCurrency := .USD, quantity_pos := single_positive }]

/-- A page view, then an order, each from beginning to end. -/
def viewThenOrder : List (EngineTurn ListingTask) :=
  [.begin 0 (.findOne 0), .proceed 0, .proceed 0, .proceed 0, .proceed 0,
    .begin 1 (.reserveForOrder (lampFor 7)), .proceed 1, .proceed 1, .proceed 1, .proceed 1]

/-- After the turns the committed orders have reserved so much of listing 0,
and so much is on its row. -/
abbrev Sells (start : Rows Id Listing) (turns : List (EngineTurn ListingTask))
    (ordered reserved : ℤ) : Prop :=
  let engine := run (Engine.step listingWork) (Engine.start start) turns
  (reservedBy 0 engine.log).sum = ordered ∧ (engine.rows 0).map Listing.reserved = some reserved

theorem viewed_lamp_reserved :
    Sells lastLamp viewThenOrder 1 1 ∧ ∃ later,
        (run (Engine.step listingWork) (Engine.start lastLamp) viewThenOrder).rows 0 = some later ∧
        Levels.Granted ⟨1, 0, 1⟩ (Shelved.levels later)
          (reservedBy 0 (run (Engine.step listingWork) (Engine.start lastLamp)
            viewThenOrder).log).sum :=
  ⟨by decide, listing_reservations_kept lastLamp viewThenOrder (by decide) 0 _ rfl⟩

/-- Two orders read the last lamp before either of them commits. -/
def twoOrders : List (EngineTurn ListingTask) := [.begin 0 (.reserveForOrder (lampFor 7)),
    .begin 1 (.reserveForOrder (lampFor 8)), .proceed 0, .proceed 1,
    .proceed 0, .proceed 0, .proceed 0, .proceed 1, .proceed 1, .proceed 1]

/-- A page view reads the last lamp before an order takes it, and saves it
after. -/
def viewOverOrder : List (EngineTurn ListingTask) := [.begin 0 (.findOne 0), .proceed 0, .proceed 0,
    .begin 1 (.reserveForOrder (lampFor 7)), .proceed 1, .proceed 1,
    .proceed 1, .proceed 1, .proceed 0, .proceed 0]

theorem last_listing_sold_twice :
    (lastLamp 0).map Listing.available = some 1 ∧
      Sells lastLamp twoOrders 2 1 ∧ Sells lastLamp viewOverOrder 1 0 := by decide

end MarketX.Commerce
