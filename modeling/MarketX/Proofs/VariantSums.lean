/-
Module: MarketX.Proofs.VariantSums
Purpose: Which variants a created or updated listing stores, and how long a
  listing with variants keeps counting them.
Trusted boundary: none
Main exports: Filled, Totalled, Stored, variants_filled_iff, CountedAt, variants_counted
-/
import MarketX.Commerce.StoredListings
import MarketX.Proofs.ListingLevels

namespace MarketX.Commerce

open Effects Handler

/-! ### What is to be stored -/

/-- The row of a variant, with what was missing filled in. -/
structure Filled (dto : ListingVariantDto) (variant : ListingVariant) :
    Prop where
  sku : variant.sku = dto.sku
  attributes : variant.attributes = dto.attributes
  price : variant.price = dto.price
  currency : variant.currency = dto.currency.getD "USD"
  quantity : variant.quantity = dto.quantity.getD 1
  reserved : variant.reserved = dto.reserved.getD 0
  available : variant.available = max 0 (variant.quantity - variant.reserved)

/-- The listing is counted from the variants and has the lowest price. -/
structure Totalled (listing : Listing) (variants : List ListingVariant) :
    Prop where
  quantity : listing.quantity = (variants.map ListingVariant.quantity).sum
  reserved : listing.reserved = (variants.map ListingVariant.reserved).sum
  available : listing.available = (variants.map ListingVariant.available).sum
  offered : ∃ variant ∈ variants, variant.price = listing.price
  lowest : ∀ variant ∈ variants, listing.price ≤ variant.price

/-- The rows of the variants of a saved listing. -/
def World.rowsOf (world : World) (saved : ListingEntity) :
    List ListingVariant := saved.variants.filterMap fun variant =>
    variant.id.bind world.db.variants.row

/-- Every variant belongs to a listing; the foreign key of the table. -/
def Referential (world : World) : Prop := ∀ id variant, world.db.variants.row id = some variant →
    world.db.listings.row variant.listingId ≠ none

/-- A saved listing: its variants are stored with everything filled in, it is
counted from them, and it has no others. -/
structure Stored (dtos : List ListingVariantDto) (world : World)
    (saved : ListingEntity) (after : World) : Prop where
  filled : List.Forall₂ Filled dtos (after.rowsOf saved)
  owned : ∀ variant ∈ after.rowsOf saved, variant.listingId = saved.row.id
  totalled : ∃ listing, after.db.listings.row saved.row.id = some listing ∧
    Totalled listing (after.rowsOf saved)
  complete : Referential world → ∀ variant ∈ after.stockroom.variantsOf saved.row.id,
      variant ∈ after.rowsOf saved

/-- Whatever a call that returns has saved is stored as it should be. -/
def StoresVariants (dtos : List ListingVariantDto) (world : World)
    (program : Service ListingEntity) : Prop := ∀ faults saved after,
    commerce.exec program faults world = (.ok saved, after) → Stored dtos world saved after

def ListingVariant.content (variant : ListingVariant) : VariantEntity :=
  { variant.entity with id := none }

/-- Both calls, where they return, store the same variants. -/
def StoreAlike (world : World) (first second : Service ListingEntity) :
    Prop := ∀ faults faults' saved saved' after after',
    commerce.exec first faults world = (.ok saved, after) →
      commerce.exec second faults' world = (.ok saved', after') →
        (after.rowsOf saved).map ListingVariant.content =
          (after'.rowsOf saved').map ListingVariant.content

/-- The creation of a listing and the update of the one under `id`, with the
same variants, store them filled in and alike. -/
structure FillsVariants (world : World) (id : Id)
    (dtos : List ListingVariantDto) : Prop where
  created : ∀ dto : CreateListingDto, dto.variants = some dtos →
    StoresVariants dtos world (ListingsService.create dto)
  updated : ∀ dto : UpdateListingDto, dto.variants = some dtos →
    StoresVariants dtos world (ListingsService.update id dto)
  alike : ∀ (dto : CreateListingDto) (dto' : UpdateListingDto),
    dto.variants = some dtos → dto'.variants = some dtos →
      StoreAlike world (ListingsService.create dto) (ListingsService.update id dto')

/-! ### Saved listings -/

variable {rows : List ListingVariant} {world after : World} {listing saved : ListingEntity}
  {dto : CreateListingDto} {dtos : List ListingVariantDto} {faults : List Fault} {id : Id}

theorem filterMap_entities {table : Table ListingVariant}
    (stored : ∀ row ∈ rows, table.row row.id = some row) :
    (rows.map ListingVariant.entity).filterMap
      (fun variant => variant.id.bind table.row) = rows := by
  induction rows with
  | nil => rfl
  | cons row rest ih =>
    rw [List.forall_mem_cons] at stored
    have here : row.entity.id.bind table.row = some row := stored.1
    simp_all

theorem rowsOf_saved (new : ∀ variant ∈ listing.variants, variant.id = none) :
    (world.withListingEntity listing).rowsOf
        (ListingsService.aggregateEntity (world.savedEntity listing)) =
      (storeVariants listing.row.id world.db.variants listing.variants).1 := by
  rw [World.rowsOf, aggregateEntity_variants]
  exact filterMap_entities (storeVariants_new new).rows

theorem aggregateEntity_savedEntity_id (world : World) (listing : ListingEntity) :
    (ListingsService.aggregateEntity (world.savedEntity listing)).row.id =
      listing.row.id := aggregateEntity_id _

theorem row_withListingEntity (world : World) (listing : ListingEntity) :
    (world.withListingEntity listing).db.listings.row listing.row.id =
      some listing.row := Table.row_save_self _ _

theorem foldl_min_least (first : Amount) (rest : List Amount) :
    rest.foldl min first ∈ first :: rest ∧ ∀ price ∈ first :: rest, rest.foldl min first ≤ price :=
  List.min?_eq_some_iff.mp List.min?_cons'

theorem totalled_aggregated (nonempty : listing.variants ≠ [])
    (quantity : listing.variants.map (·.quantity.getD 0) = rows.map ListingVariant.quantity)
    (reserved : listing.variants.map (·.reserved.getD 0) = rows.map ListingVariant.reserved)
    (available : listing.variants.map (·.available.getD 0) = rows.map ListingVariant.available)
    (price : listing.variants.map VariantEntity.price = rows.map ListingVariant.price) :
    Totalled (ListingsService.aggregateEntity listing).row rows := by
  obtain ⟨row, variants⟩ := listing
  cases variants with
  | nil => exact absurd rfl nonempty
  | cons first rest =>
    obtain ⟨offered, lowest⟩ := foldl_min_least first.price (rest.map VariantEntity.price)
    rw [List.map_cons] at price
    rw [price] at offered lowest
    exact ⟨congrArg List.sum quantity, congrArg List.sum reserved,
      congrArg List.sum available, List.mem_map.mp offered, List.forall_mem_map.mp lowest⟩

theorem map_eq_of_forall₂ {α β γ : Type} {relation : α → β → Prop}
    {f : α → γ} {g : β → γ} {front : List α} {back : List β}
    (related : List.Forall₂ relation front back)
    (same : ∀ a b, relation a b → f a = g b) : front.map f = back.map g := by
  induction related <;> grind

/-! ### A creation -/

theorem filled_buildVariant (dto : ListingVariantDto) (id listingId : Id) :
    Filled dto ((ListingsService.buildVariant dto).inserted id listingId) where
  sku := rfl
  attributes := rfl
  price := rfl
  currency := rfl
  quantity := rfl
  reserved := rfl
  available := by
    show (if dto.quantity.getD 1 - dto.reserved.getD 0 < 0 then 0 else _) =
      max 0 (dto.quantity.getD 1 - dto.reserved.getD 0)
    split <;> omega

theorem prepareVariants_given {dto : UpdateListingDto} (given : dto.variants = some dtos)
    (nonempty : dtos ≠ []) :
    ListingsService.prepareVariants dto =
      dtos.map ListingsService.buildVariant := by
  rw [ListingsService.prepareVariants, given]
  cases dtos with
  | nil => exact absurd rfl nonempty
  | cons first rest => rfl

theorem drafted_given (given : dto.variants = some dtos) (nonempty : dtos ≠ []) :
    (world.drafted dto).variants = dtos.map ListingsService.buildVariant := by
  have prepared : ListingsService.prepareVariants dto.optional =
      dtos.map ListingsService.buildVariant := prepareVariants_given given nonempty
  show (ListingsService.composed dto).variants = _
  simp_all [ListingsService.composed, aggregateEntity_variants]

theorem drafted_row (given : dto.variants = some dtos) (nonempty : dtos ≠ []) (made : List.Forall₂
      (fun variant row => ∃ id listingId, row = VariantEntity.inserted variant id listingId)
      (dtos.map ListingsService.buildVariant) rows) :
    Totalled (world.drafted dto).row rows := by
  have built : (dtos.map ListingsService.buildVariant).isEmpty = false := by simpa using nonempty
  have prepared : ListingsService.prepareVariants dto.optional =
      dtos.map ListingsService.buildVariant := prepareVariants_given given nonempty
  have counted : Totalled (ListingsService.composed dto).row rows := by
    rw [ListingsService.composed]
    simp only [prepared, built, Bool.false_eq_true, if_false]
    rw [List.forall₂_map_left_iff] at made
    apply totalled_aggregated
    · simpa using nonempty
    all_goals
      rw [List.map_map]
      apply map_eq_of_forall₂ made
      rintro dto _ ⟨id, listingId, rfl⟩
      rfl
  obtain ⟨quantity, reserved, available, offered, lowest⟩ := counted
  exact ⟨quantity, reserved, available, offered, lowest⟩

theorem create_returns
    (done : commerce.exec (ListingsService.create dto) faults world = (.ok saved, after)) :
    saved = ListingsService.aggregateEntity (world.savedEntity (world.drafted dto)) ∧
      after = world.withListingEntity (world.drafted dto) := by
  have settled := created_exec world dto faults
  rw [done] at settled
  cases settled with
  | stored => exact ⟨rfl, rfl⟩

theorem create_stores (given : dto.variants = some dtos) (nonempty : dtos ≠ []) :
    StoresVariants dtos world (ListingsService.create dto) := by
  intro faults saved after done
  obtain ⟨rfl, rfl⟩ := create_returns done
  have built : (world.drafted dto).variants =
      dtos.map ListingsService.buildVariant := drafted_given given nonempty
  have new : ∀ variant ∈ (world.drafted dto).variants, variant.id = none := by
    rw [built, List.forall_mem_map]
    exact fun _ _ => rfl
  have inserted : Inserted (world.drafted dto).row.id world.db.variants _ _ _ :=
    storeVariants_new new
  have made := inserted.made
  rw [built] at made
  have key := aggregateEntity_savedEntity_id world (world.drafted dto)
  refine ⟨?_, ?_, ?_, ?_⟩
  · rw [rowsOf_saved new, built]
    rw [List.forall₂_map_left_iff] at made
    apply made.imp
    rintro dto _ ⟨id, rfl⟩
    exact filled_buildVariant dto id _
  · rw [rowsOf_saved new, key]
    exact inserted.owned
  · rw [rowsOf_saved new, key, built]
    refine ⟨_, row_withListingEntity _ _, drafted_row given nonempty ?_⟩
    apply made.imp
    rintro variant _ ⟨id, rfl⟩
    exact ⟨id, _, rfl⟩
  · intro referential variant member
    rw [key, mem_variantsOf] at member
    rw [rowsOf_saved new]
    obtain ⟨stored, owned⟩ := member
    rcases inserted.fresh _ _ stored with before | inside
    · -- the key of the new listing was not in use
      have free : world.db.listings.row variant.listingId = none := by
        rw [owned]
        exact Table.row_next _
      exact absurd free (referential _ _ before)
    · exact inside

/-! ### An update -/

/-- An update that goes through says of the listing that nothing is
available, and of each of its variants that one piece is. -/
theorem update_unfilled {listing : Listing} {dto : UpdateListingDto}
    (given : dto.variants = some dtos) (nonempty : dtos ≠ [])
    (found : world.db.listings.row id = some listing) (bare : world.stockroom.variantsOf id = []) :
    ¬ StoresVariants dtos world (ListingsService.update id dto) := by
  intro stores
  obtain rfl : listing.id = id := world.db.listings.keyed found
  have new : ∀ variant ∈ (world.merged listing dto).variants, variant.id = none := merged_new given
  have accepted : leavesOrphan world.db.variants (world.merged listing dto) =
      false := (complete_iff_bare given).mpr bare
  have stored := stores [] _ _ (exec_update found accepted)
  obtain ⟨row, saved, totalled⟩ := stored.totalled
  rw [aggregateEntity_savedEntity_id, row_withListingEntity] at saved
  cases saved
  have inserted : Inserted (world.merged listing dto).row.id
    world.db.variants _ _ _ := storeVariants_new new
  have made := inserted.made
  rw [merged_variants given] at made
  have available := totalled.available
  rw [rowsOf_saved new, merged_variants given, available_inserted made,
    merged_available given nonempty] at available
  have length : 0 < dtos.length := List.length_pos_iff.mpr nonempty
  omega

/-- An update that names variants goes through where the listing is stored
and has none. -/
theorem update_returns {dto : UpdateListingDto} (given : dto.variants = some dtos)
    (done : commerce.exec (ListingsService.update id dto) faults world = (.ok saved, after)) :
    world.db.listings.row id ≠ none ∧ world.stockroom.variantsOf id = [] := by
  have settled := updated_exec world id dto faults
  rw [done] at settled
  cases settled with
  | saved found complete =>
    rename_i listing
    obtain rfl : listing.id = id := world.db.listings.keyed found
    exact ⟨by simp [found], (complete_iff_bare given).mp complete⟩

/-! ### Both -/

/-- Variants are stored as they should be where no update of the listing goes
through: where it is not there, or has variants already. -/
theorem variants_filled_iff (world : World) (id : Id)
    {dtos : List ListingVariantDto} (nonempty : dtos ≠ []) :
    FillsVariants world id dtos ↔ world.db.listings.row id = none ∨
        world.stockroom.variantsOf id ≠ [] := by
  constructor
  · intro fills
    by_contra reached
    rw [not_or, not_not] at reached
    obtain ⟨stored, bare⟩ := reached
    obtain ⟨listing, found⟩ := Option.ne_none_iff_exists'.mp stored
    have given : ({ variants := some dtos } : UpdateListingDto).variants =
      some dtos := rfl
    exact update_unfilled given nonempty found bare (fills.updated _ given)
  · intro refused
    have stops : ∀ (dto : UpdateListingDto), dto.variants = dtos → ∀ faults saved after,
          commerce.exec (ListingsService.update id dto) faults world ≠ (.ok saved, after) := by
      intro dto given faults saved after done
      obtain ⟨stored, bare⟩ := update_returns given done
      rcases refused with missing | varied
      · exact stored missing
      · exact varied bare
    refine ⟨fun dto given => create_stores given nonempty, ?_, ?_⟩
    · exact fun dto given faults saved after done =>
        absurd done (stops dto given faults saved after)
    · exact fun dto dto' _ given _ faults saved saved' after after' _ done =>
        absurd done (stops dto' given faults saved' after')

/-- A lamp that has a variant already. -/
theorem varied_lamp_filled :
    FillsVariants (openShop.withVariant { id := 0, listingId := 0, price := 90 }) 0
      [{ price := 80, quantity := some 3 }] :=
  (variants_filled_iff _ 0 (by decide)).mpr (.inr (by decide))

/-- Three pieces of a variant, for a listing that has none. -/
def threePieces : UpdateListingDto where
  variants := some [{ price := 80, quantity := some 3 }]

def variedLamp : ListingEntity where
  row :=
    { id := 0, title := "lamp", price := 80, quantity := 3, views := 1 }
  variants :=
    [{ id := some 0, price := 80, currency := some "USD", quantity := some 3
       reserved := some 0, available := some 1 }]

/-- Three pieces are there, and one of them is said to be available. -/
theorem lamp_variant_unfilled :
    ¬ FillsVariants openShop 0 [{ price := 80, quantity := some 3 }] := by
  intro fills
  have returned : (commerce.exec (ListingsService.update 0 threePieces) []
      openShop).1 = .ok variedLamp := by decide
  have stored := fills.updated threePieces rfl [] variedLamp
    (commerce.exec (ListingsService.update 0 threePieces) [] openShop).2 (Prod.ext returned rfl)
  have rows : (commerce.exec (ListingsService.update 0 threePieces) []
      openShop).2.rowsOf variedLamp =
      [{ id := 0, listingId := 0, price := 80, quantity := 3 }] := by decide
  have filled := stored.filled
  rw [rows, List.forall₂_cons] at filled
  exact absurd filled.1.available (by decide)

end MarketX.Commerce

namespace MarketX.Commerce

open Effects Handler Stockkeeping

/-! ### A listing and its variants -/

def Stockroom.variantLevels (room : Stockroom) (id : Id) : Levels where
  quantity := room.variantTotal id ListingVariant.quantity
  reserved := room.variantTotal id ListingVariant.reserved
  available := room.variantTotal id ListingVariant.available

/-- The listing, if it has variants, is counted from them. -/
def CountedAt (room : Stockroom) (id : Id) : Prop :=
  ∀ listing, room.listings.row id = some listing →
    room.variantsOf id ≠ [] → Shelved.levels listing = room.variantLevels id

/-- A call of the inventory service, or an update of a listing, with the
failures of its effects. -/
inductive ListingTurn where
  | inventory (turn : StockTurn)
  | update (listingId : Id) (dto : UpdateListingDto) (faults : List Fault)

/-- One call after the other. -/
def keepShop (world : World) : ListingTurn → World
  | .inventory turn => stocktake world turn
  | .update listingId dto faults =>
    (commerce.exec (ListingsService.update listingId dto) faults world).2

/-- Whether a call returns. -/
def ListingTurn.returns (world : World) : ListingTurn → Bool
  | .inventory turn => Commerce.returns world turn
  | .update listingId dto faults =>
    (commerce.exec (ListingsService.update listingId dto) faults world).1.isOk

/-! ### The condition -/

/-- What is not reserved of the listing is available. -/
def Reconciled (listing : Listing) : Prop := listing.available = listing.quantity - listing.reserved

/-- The call moves nothing of the listing, unless one of its variants.  An
order that names it always does, but that its cancellation takes nothing off
where nothing is reserved; an adjustment does unless it comes to nothing. -/
def Spares (listing : Listing) : InventoryCall → Prop
  | .adjustInventory listingId _ change _ _ =>
    listingId = listing.id → change = 0 ∧ Reconciled listing
  | .bulkUpdateInventory updates =>
    (∃ update ∈ updates, update.listingId = listing.id) →
      totalChange listing.id updates = 0 ∧ Reconciled listing
  | .reserveForOrder order | .confirmOrder order
  | .restoreInventoryFromRefund order => ∀ item ∈ order.items, item.productId ≠ listing.id
  | .cancelOrder order =>
    (∃ item ∈ order.items, item.productId = listing.id) → listing.reserved = 0 ∧ Reconciled listing
  | .adjustVariantInventory _ _ _ _ _ | .reserveInventory _ _ _
  | .releaseInventory _ _ _ | .commitSale _ _ _ => True

/-- The stockroom refuses the call, or it moves nothing of the listing, if
that has variants; an update names variants of the listing only where it has
some, and is then refused, or where the listing is not there. -/
def Harmless (id : Id) (world : World) : ListingTurn → Prop
  | .inventory turn =>
    world.stockroom.postAll turn.1.postings = none ∨
      ∀ listing, world.db.listings.row id = some listing →
        world.stockroom.variantsOf id ≠ [] → Spares listing turn.1
  | .update listingId dto _ =>
    listingId = id → dto.variants.getD [] ≠ [] → world.db.listings.row id = none ∨
        world.stockroom.variantsOf id ≠ []

/-! ### Postings -/

section

variable {room after : Stockroom} {id : Id}

theorem moved_post {posting : Posting} (moves : posting.counts = false)
    (posted : room.post posting = some after) :
    after.variants = room.variants ∧ (after.listings = room.listings ∨ ∃ key movement,
        shift room.listings key movement = some after.listings) := by
  cases posting with
  | product row movement =>
    rw [Stockroom.post, Option.bind_eq_bind, Option.bind_eq_some_iff] at posted
    obtain ⟨_, _, same⟩ := posted
    cases same
    exact ⟨rfl, .inl rfl⟩
  | listing row movement =>
    rw [Stockroom.post, Option.bind_eq_bind, Option.bind_eq_some_iff] at posted
    obtain ⟨_, shifted, same⟩ := posted
    cases same
    exact ⟨rfl, .inr ⟨_, _, shifted⟩⟩
  | bulk row movement =>
    rw [Stockroom.post] at posted
    split at posted
    · cases posted
      exact ⟨rfl, .inl rfl⟩
    · rw [Option.bind_eq_bind, Option.bind_eq_some_iff] at posted
      obtain ⟨_, shifted, same⟩ := posted
      cases same
      exact ⟨rfl, .inr ⟨_, _, shifted⟩⟩
  | variant variantId userId change type note => cases moves

theorem stays_shift {listings later : Table Listing} {key : Id}
    {movement : Movement} {listing : Listing} (stored : listings.row id = some listing)
    (shifted : shift listings key movement = some later) :
    ∃ listing, later.row id = some listing := by
  obtain ⟨_, _, _, _, rows⟩ := row_shift shifted
  rw [rows]
  split
  · exact ⟨_, rfl⟩
  · exact ⟨listing, stored⟩

/-- Postings that count nothing anew leave the variants alone and delete no
listing. -/
theorem moved_postAll {postings : List Posting}
    (moves : ∀ posting ∈ postings, posting.counts = false)
    (posted : room.postAll postings = some after) :
    after.variants = room.variants ∧ ∀ id listing, room.listings.row id = some listing →
        ∃ later, after.listings.row id = some later := by
  induction postings generalizing room with
  | nil => simp_all
  | cons head tail ih =>
    rw [Stockroom.postAll_cons, Option.bind_eq_some_iff] at posted
    rw [List.forall_mem_cons] at moves
    grind [moved_post, stays_shift]

theorem counted_postAll_iff {postings : List Posting} (counted : CountedAt room id)
    (moves : ∀ posting ∈ postings, posting.counts = false)
    (posted : room.postAll postings = some after) :
    CountedAt after id ↔ ∀ listing, room.listings.row id = some listing → room.variantsOf id ≠ [] →
          followAll (postings.filterMap (Posting.movementOn id)) (Shelved.levels listing) =
            some (Shelved.levels listing) := by
  obtain ⟨variants, stays⟩ := moved_postAll moves posted
  have sameVariants : after.variantsOf id = room.variantsOf id := by
    rw [Stockroom.variantsOf, variants, Stockroom.variantsOf]
  have sameLevels : after.variantLevels id = room.variantLevels id := by
    simp only [Stockroom.variantLevels, Stockroom.variantTotal, sameVariants]
  constructor
  · intro still listing stored varied
    obtain ⟨later, storedLater⟩ := stays id listing stored
    obtain ⟨found, same, followed⟩ := listing_followed moves posted storedLater
    cases same.symm.trans stored
    rw [followed, still later storedLater (by rwa [sameVariants]), sameLevels,
      counted listing stored varied]
  · intro idle later storedLater varied
    rw [sameVariants] at varied
    obtain ⟨listing, stored, followed⟩ := listing_followed moves posted storedLater
    rw [idle listing stored varied] at followed
    rw [← Option.some.inj followed, sameLevels]
    exact counted listing stored varied

end

/-! ### One call of the inventory service -/

variable {listing : Listing} {room : Stockroom} {key id listingId : Id} {variant : ListingVariant}
  {after world : World} {turn : ListingTurn} {dto : UpdateListingDto}
  {result : Except HttpException ListingEntity}

theorem items_idle_iff {posting : OrderItem → Posting} {kind : ℤ → Movement}
    (listed : ∀ item, (posting item).movementOn listing.id =
      if item.productId = listing.id then some (kind item.quantity) else none)
    (busy : ∀ {amounts : List ℤ}, amounts ≠ [] → (∀ amount ∈ amounts, 0 < amount) →
        followAll (amounts.map kind) (Shelved.levels listing) ≠ some (Shelved.levels listing))
    (items : List OrderItem) :
    followAll ((items.map posting).filterMap
          (Posting.movementOn listing.id)) (Shelved.levels listing) =
        some (Shelved.levels listing) ↔ ∀ item ∈ items, item.productId ≠ listing.id := by
  rw [movements_items listed, ← askedOf_eq_nil]
  constructor
  · grind [askedOf_pos]
  · intro unasked
    rw [unasked]
    rfl

/-- The movements of a call leave the levels of a listing as they are iff the
call spares it. -/
theorem idle_iff_spares (listing : Listing) (call : InventoryCall) :
    followAll (call.postings.filterMap (Posting.movementOn listing.id)) (Shelved.levels listing) =
        some (Shelved.levels listing) ↔
      Spares listing call := by
  cases call with
  | adjustVariantInventory | reserveInventory | releaseInventory
  | commitSale => exact iff_of_true rfl trivial
  | adjustInventory listingId userId change type note =>
    by_cases concerned : listingId = listing.id
    · rw [InventoryCall.postings, List.filterMap_cons_some
        (by rw [Posting.movementOn, if_pos concerned])]
      have idle := @restocks_idle_iff (Shelved.levels listing) [change] (List.cons_ne_nil change [])
      rw [List.sum_singleton] at idle
      exact idle.trans ⟨fun same _ => same, fun same => same concerned⟩
    · rw [InventoryCall.postings, List.filterMap_cons_none
        (by rw [Posting.movementOn, if_neg concerned])]
      exact iff_of_true rfl fun named => absurd named concerned
  | bulkUpdateInventory updates =>
    rw [InventoryCall.postings, update_movements]
    by_cases named : ∃ update ∈ updates, update.listingId = listing.id
    · have moved : (updates.filterMap fun update =>
          if update.listingId = listing.id then some update.change
          else none) ≠ [] := by simp_all
      exact (restocks_idle_iff moved).trans ⟨fun same _ => same, fun same => same named⟩
    · have unmoved : (updates.filterMap fun update =>
          if update.listingId = listing.id then some update.change
          else none) = [] := by simp_all
      rw [unmoved]
      exact iff_of_true rfl fun one => absurd one named
  | reserveForOrder order => exact items_idle_iff (fun _ => rfl) reserves_not_idle order.items
  | confirmOrder order => exact items_idle_iff (fun _ => rfl) sells_not_idle order.items
  | restoreInventoryFromRefund order =>
    refine items_idle_iff (fun _ => rfl) ?_ order.items
    intro amounts moved positive idle
    have nothing := ((restocks_idle_iff moved).mp idle).1
    have total := List.sum_pos amounts positive moved
    omega
  | cancelOrder order =>
    have movements : (InventoryCall.cancelOrder order).postings.filterMap
        (Posting.movementOn listing.id) = (askedOf listing.id order.items).map .release :=
      movements_items (fun _ => rfl) order.items
    rw [movements]
    by_cases named : ∃ item ∈ order.items, item.productId = listing.id
    · have moved : askedOf listing.id order.items ≠ [] := by simp_all [askedOf_eq_nil]
      exact (releases_idle_iff moved askedOf_pos).trans ⟨fun same _ => same, fun same => same named⟩
    · have unmoved : askedOf listing.id order.items = [] :=
        askedOf_eq_nil.mpr fun item member same => named ⟨item, member, same⟩
      rw [unmoved]
      exact iff_of_true rfl fun one => absurd one named

/-! ### A variant adjusted -/

theorem variantTotal_elsewhere (found : room.variants.row key = some variant)
    (elsewhere : variant.listingId ≠ id) (change : ℤ) (weight : ListingVariant → ℤ) :
    (room.adjusting variant change).variantTotal id weight =
      room.variantTotal id weight := by
  have stored :
      room.variants.row (Keyed.key (adjustedVariant variant change)) =
        some variant := by
    have same : Keyed.key variant = key := room.variants.keyed found
    exact (congrArg _ same).trans found
  have replaced := Table.total_replace (fun other : ListingVariant =>
      if other.listingId = id then weight other else 0) stored
  have away : (adjustedVariant variant change).listingId ≠ id := elsewhere
  rw [if_neg elsewhere, if_neg away, add_zero, add_zero] at replaced
  rw [variantTotal_eq, variantTotal_eq]
  exact replaced

theorem variantsOf_elsewhere (elsewhere : variant.listingId ≠ id)
    (change : ℤ) {other : ListingVariant}
    (member : other ∈ (room.adjusting variant change).variantsOf id) :
    other ∈ room.variantsOf id := by
  obtain ⟨listed, owned⟩ := List.mem_filter.mp member
  refine List.mem_filter.mpr ⟨?_, owned⟩
  have stored := Table.mem_rows.mp listed
  have saved : (room.variants.save (adjustedVariant variant change)).row _ =
    some other := stored
  rw [Table.row_save] at saved
  split at saved
  · cases saved
    exact absurd (of_decide_eq_true owned) elsewhere
  · exact Table.mem_rows.mpr saved

theorem variants_recounted (room : Stockroom) (listingId : Id) :
    (room.recounted listingId).variants = room.variants := by
  rw [Stockroom.recounted]
  split <;> rfl

theorem counted_adjusted {after : Stockroom} {userId : Id}
    {change : ℤ} {type : InventoryChangeType} {note : Option String} (counted : CountedAt room id)
    (posted : room.post (.variant key userId change type note) = some after) :
    CountedAt after id := by
  have variants : ∃ variant, room.variants.row key = some variant ∧
      after.variants = (room.adjusting variant change).variants := by
    rw [Stockroom.post, Option.bind_eq_bind, Option.bind_eq_some_iff] at posted
    obtain ⟨variant, found, rest⟩ := posted
    split at rest
    · cases rest
    · cases rest
      exact ⟨variant, found, variants_recounted _ _⟩
  obtain ⟨variant, found, _, recount⟩ := variant_posted posted
  obtain ⟨_, same, variants⟩ := variants
  cases same.symm.trans found
  have listed : after.variantsOf id = (room.adjusting variant change).variantsOf id := by
    rw [Stockroom.variantsOf, variants, Stockroom.variantsOf]
  have levels : after.variantLevels id = (room.adjusting variant change).variantLevels id := by
    simp only [Stockroom.variantLevels, Stockroom.variantTotal, listed]
  intro later stored varied
  rw [listed] at varied
  rw [levels]
  by_cases here : variant.listingId = id
  · subst here
    rcases recount.listings with ⟨missing, same⟩ | ⟨listing, present, anew⟩
    · rw [same, missing] at stored
      cases stored
    · have home : Keyed.key (InventoryService.aggregated listing
          ((room.adjusting variant change).variantsOf variant.listingId)) =
          variant.listingId :=
        (key_aggregated _ _).trans (room.listings.keyed present)
      rw [anew, Table.row_save, if_pos home.symm] at stored
      cases stored
      exact levels_aggregated varied
  · have elsewhere : (room.adjusting variant change).variantLevels id =
        room.variantLevels id := by
      simp only [Stockroom.variantLevels, variantTotal_elsewhere found here]
    have same : room.listings.row id = some later := by
      rcases recount.listings with ⟨_, same⟩ | ⟨listing, present, anew⟩
      · rwa [same] at stored
      · rw [anew, Table.row_save_of_ne] at stored
        · exact stored
        · have home : listing.id = variant.listingId := room.listings.keyed present
          rw [key_aggregated, home]
          exact Ne.symm here
    obtain ⟨other, member⟩ := List.exists_mem_of_ne_nil _ varied
    rw [elsewhere]
    exact counted later same (List.ne_nil_of_mem (variantsOf_elsewhere here change member))

/-- An inventory call that returns leaves the listing counted iff it spares
it. -/
theorem counted_stocktake_iff {turn : StockTurn}
    (counted : CountedAt world.stockroom id) (done : returns world turn = true) :
    CountedAt (stocktake world turn).stockroom id ↔
      ∀ listing, world.db.listings.row id = some listing →
        world.stockroom.variantsOf id ≠ [] → Spares listing turn.1 := by
  have posted := postAll_stocktake done
  obtain ⟨call, faults⟩ := turn
  have moved (moves : ∀ posting ∈ call.postings, posting.counts = false) :
      CountedAt (stocktake world (call, faults)).stockroom id ↔
        ∀ listing, world.db.listings.row id = some listing →
          world.stockroom.variantsOf id ≠ [] → Spares listing call := by
    rw [counted_postAll_iff counted moves posted]
    refine forall_congr' fun listing => forall_congr' fun stored =>
      forall_congr' fun _ => ?_
    obtain rfl : listing.id = id := world.db.listings.keyed stored
    exact idle_iff_spares listing call
  cases call with
  | adjustVariantInventory variantId userId change type note =>
    rw [InventoryCall.postings, postAll_single] at posted
    exact iff_of_true (counted_adjusted counted posted) fun _ _ _ => trivial
  | _ =>
    apply moved
    simp [InventoryCall.postings, Posting.counts,
      InventoryCall.bulkPosting, InventoryCall.reservePosting,
      InventoryCall.confirmPosting, InventoryCall.cancelPosting, InventoryCall.restorePosting]

/-! ### One update -/

section

variable {world : World} {listing : Listing} {dto : UpdateListingDto}

variable {room after : Stockroom} {id : Id}

theorem variantLevels_congr (same : after.variantsOf id = room.variantsOf id) :
    after.variantLevels id = room.variantLevels id := by
  simp only [Stockroom.variantLevels, Stockroom.variantTotal, same]

theorem CountedAt.of_same (counted : CountedAt room id)
    (listings : ∀ later, after.listings.row id = some later →
      ∃ listing, room.listings.row id = some listing ∧
        Shelved.levels later = Shelved.levels listing)
    (varied : after.variantsOf id ≠ [] → room.variantsOf id ≠ [])
    (levels : after.variantLevels id = room.variantLevels id) :
    CountedAt after id := by
  intro later stored some
  obtain ⟨listing, found, same⟩ := listings later stored
  rw [same, levels]
  exact counted listing found (varied some)

theorem counted_viewed {key : Id} (counted : CountedAt world.stockroom id)
    (found : world.db.listings.row key = some listing) :
    CountedAt (world.withListing (viewed listing)).stockroom id := by
  refine counted.of_same ?_ (fun some => some) rfl
  intro later stored
  have saved : (world.db.listings.save (viewed listing)).row id =
    some later := stored
  rw [Table.row_save] at saved
  split at saved
  next same =>
    cases saved
    have home : listing.id = key := world.db.listings.keyed found
    have here : id = key := same.trans home
    rw [here]
    exact ⟨listing, found, rfl⟩
  next => exact ⟨later, saved, rfl⟩

theorem total_storeVariants {listingId : Id} {table : Table ListingVariant}
    {variants : List VariantEntity} (new : ∀ variant ∈ variants, variant.id = none)
    (weight : ListingVariant → ℤ) :
    (storeVariants listingId table variants).2.total weight = table.total weight +
        ((storeVariants listingId table variants).1.map weight).sum := by
  induction variants generalizing table with
  | nil => exact (add_zero _).symm
  | cons variant rest ih =>
    rw [List.forall_mem_cons] at new
    rw [storeVariants]
    simp only [new.1, Option.bind_none, Option.getD_none]
    rw [ih new.2, Table.total_insert, List.map_cons, List.sum_cons, add_assoc]
    exact Table.row_next _

theorem variants_withListingEntity_loaded (given : dto.variants = none) :
    (world.withListingEntity (world.merged listing dto)).db.variants =
      world.db.variants := by
  show (storeVariants _ world.db.variants (world.merged listing dto).variants).2 = _
  rw [merged_loaded given, storeVariants_loaded]
  exact fun row member => (mem_variantsOf.mp member).1

theorem variants_elsewhere (elsewhere : listing.id ≠ id) :
    ((world.withListingEntity (world.merged listing dto)).stockroom.variantsOf id ≠ [] →
        world.stockroom.variantsOf id ≠ []) ∧ (world.withListingEntity
          (world.merged listing dto)).stockroom.variantLevels id =
        world.stockroom.variantLevels id := by
  cases given : dto.variants with
  | none =>
    grind [variants_withListingEntity_loaded, Stockroom.variantsOf,
      World.stockroom, variantLevels_congr]
  | some dtos =>
    have new : ∀ variant ∈ (world.merged listing dto).variants,
        variant.id = none := merged_new given
    have inserted : Inserted (world.merged listing dto).row.id
      world.db.variants _ _ _ := storeVariants_new new
    have key : (world.merged listing dto).row.id = listing.id := merged_id listing dto
    constructor
    · intro varied
      obtain ⟨variant, member⟩ := List.exists_mem_of_ne_nil _ varied
      obtain ⟨stored, owned⟩ := mem_variantsOf.mp member
      rcases inserted.fresh _ _ stored with before | inside
      · exact List.ne_nil_of_mem (mem_variantsOf.mpr ⟨before, owned⟩)
      · have home := inserted.owned variant inside
        simp_all
    · have sums : ∀ weight : ListingVariant → ℤ, (world.withListingEntity (world.merged listing
              dto)).stockroom.variantTotal id weight =
            world.stockroom.variantTotal id weight := by
        intro weight
        rw [variantTotal_eq, variantTotal_eq]
        refine (total_storeVariants new _).trans ?_
        rw [List.sum_eq_zero, add_zero]
        · rfl
        · rw [List.forall_mem_map]
          intro row member
          rw [inserted.owned row member, key]
          exact if_neg elsewhere
      simp only [Stockroom.variantLevels, sums]

theorem counted_elsewhere (counted : CountedAt world.stockroom id) (elsewhere : listing.id ≠ id) :
    CountedAt (world.withListingEntity (world.merged listing dto)).stockroom id := by
  obtain ⟨varied, levels⟩ := @variants_elsewhere world listing dto id elsewhere
  refine counted.of_same ?_ varied levels
  intro later stored
  have saved : (world.db.listings.save (world.merged listing dto).row).row id = some later := stored
  rw [Table.row_save_of_ne] at saved
  · exact ⟨later, saved, rfl⟩
  · show id ≠ (world.merged listing dto).row.id
    rw [merged_id]
    exact Ne.symm elsewhere

theorem levels_aggregateEntity {entity : ListingEntity} {rows : List ListingVariant}
    (loaded : entity.variants = rows.map ListingVariant.entity) (nonempty : rows ≠ []) :
    Shelved.levels (ListingsService.aggregateEntity entity).row =
      ⟨(rows.map ListingVariant.quantity).sum, (rows.map ListingVariant.reserved).sum,
        (rows.map ListingVariant.available).sum⟩ := by
  obtain ⟨row, variants⟩ := entity
  cases loaded
  rw [ListingsService.aggregateEntity_loaded]
  cases rows with
  | nil => exact absurd rfl nonempty
  | cons first rest => rfl

theorem counted_loaded (given : dto.variants = none) :
    CountedAt (world.withListingEntity (world.merged listing dto)).stockroom
      listing.id := by
  have same := @variants_withListingEntity_loaded world listing dto given
  intro later stored varied
  have saved : (world.db.listings.save (world.merged listing dto).row).row
    listing.id = some later := stored
  have key : Keyed.key (world.merged listing dto).row = listing.id := merged_id listing dto
  rw [Table.row_save, if_pos key.symm] at saved
  cases saved
  have listed : (world.withListingEntity
      (world.merged listing dto)).stockroom.variantsOf listing.id =
      world.stockroom.variantsOf listing.id := by
    simp only [Stockroom.variantsOf, World.stockroom, same]
  rw [listed] at varied
  rw [variantLevels_congr listed]
  apply levels_aggregateEntity _ varied
  rw [← aggregateEntity_variants]
  exact merged_loaded given

theorem uncounted_variants {dtos : List ListingVariantDto}
    (given : dto.variants = some dtos) (nonempty : dtos ≠ [])
    (bare : world.stockroom.variantsOf listing.id = []) :
    ¬ CountedAt (world.withListingEntity (world.merged listing dto)).stockroom
      listing.id := by
  intro counted
  have new : ∀ variant ∈ (world.merged listing dto).variants, variant.id = none := merged_new given
  have inserted : Inserted (world.merged listing dto).row.id
    world.db.variants _ _ _ := storeVariants_new new
  have key : (world.merged listing dto).row.id = listing.id := merged_id listing dto
  have length : 0 < dtos.length := List.length_pos_iff.mpr nonempty
  have total : (world.withListingEntity
      (world.merged listing dto)).stockroom.variantTotal listing.id
        ListingVariant.available = dtos.length := by
    have made := inserted.made
    rw [merged_variants given] at made
    have before : world.stockroom.variantTotal listing.id ListingVariant.available = 0 := by
      rw [Stockroom.variantTotal, bare]
      rfl
    have zero : world.db.variants.total (fun variant =>
        if variant.listingId = listing.id then variant.available
        else 0) = 0 :=
      (variantTotal_eq _ _ _).symm.trans before
    rw [variantTotal_eq]
    refine (total_storeVariants new _).trans ?_
    have counted : ∀ row ∈ (storeVariants (world.merged listing dto).row.id
        world.db.variants (world.merged listing dto).variants).1,
          (if row.listingId = listing.id then row.available else 0) =
            row.available := by
      intro row member
      rw [inserted.owned row member, key, if_pos rfl]
    rw [zero, zero_add, List.map_congr_left counted, merged_variants given, available_inserted made]
  have varied : (world.withListingEntity
      (world.merged listing dto)).stockroom.variantsOf listing.id ≠ [] := by
    grind [Stockroom.variantTotal]
  have stored : (world.withListingEntity
      (world.merged listing dto)).stockroom.listings.row listing.id =
      some (world.merged listing dto).row := by
    rw [← key]
    exact Table.row_save_self _ _
  have available := congrArg Levels.available (counted _ stored varied)
  have nothing : (world.merged listing dto).row.available = 0 := merged_available given nonempty
  have same : (world.merged listing dto).row.available = dtos.length := available.trans total
  omega

end

theorem counted_emptied (given : dto.variants = some [])
    (bare : world.stockroom.variantsOf listing.id = []) :
    CountedAt (world.withListingEntity (world.merged listing dto)).stockroom
      listing.id := by
  have same : (world.withListingEntity
      (world.merged listing dto)).db.variants = world.db.variants := by
    show (storeVariants _ _ (world.merged listing dto).variants).2 = _
    rw [merged_variants given]
    rfl
  intro later _ varied
  simp_all [Stockroom.variantsOf, World.stockroom]

theorem counted_saved_iff {faults : List Fault} (counted : CountedAt world.stockroom id)
    (settled : ListingUpdated noneSpared world listingId dto result after)
    (done : result.isOk = true) :
    CountedAt after.stockroom id ↔
      Harmless id world (.update listingId dto faults) := by
  cases settled with
  | untouched error cause | seen error found cause => cases done
  | saved found complete =>
    rename_i listing
    obtain rfl : listing.id = listingId := world.db.listings.keyed found
    by_cases here : listing.id = id
    · subst here
      cases given : dto.variants with
      | none =>
        apply iff_of_true (counted_loaded given)
        intro _ some
        rw [given] at some
        exact absurd rfl some
      | some dtos =>
        have bare : world.stockroom.variantsOf listing.id = [] :=
          (complete_iff_bare given).mp complete
        cases dtos with
        | nil =>
          apply iff_of_true (counted_emptied given bare)
          intro _ some
          rw [given] at some
          exact absurd rfl some
        | cons first rest =>
          apply iff_of_false (uncounted_variants given (List.cons_ne_nil _ _) bare)
          intro harmless
          rcases harmless rfl (by simp [given]) with missing | some <;> simp_all
    · exact iff_of_true (counted_elsewhere counted here) fun same => absurd same here

theorem counted_thrown (counted : CountedAt world.stockroom id)
    (settled : ListingUpdated noneSpared world listingId dto result after)
    (thrown : result.isOk = false) : CountedAt after.stockroom id := by
  cases settled with
  | untouched error cause => exact counted
  | seen error found cause => exact counted_viewed counted found
  | saved found complete => cases thrown

/-! ### Runs -/

theorem counted_turn_iff
    (counted : CountedAt world.stockroom id) (done : turn.returns world = true) :
    CountedAt (keepShop world turn).stockroom id ↔
      Harmless id world turn := by
  cases turn with
  | update listingId dto faults =>
    exact counted_saved_iff counted (updated_exec world listingId dto faults) done
  | inventory turn =>
    apply (counted_stocktake_iff counted done).trans
    apply (or_iff_right _).symm
    rw [postAll_stocktake done]
    exact Option.some_ne_none _

/-- A call that throws changes neither listing nor variants, apart from the
count of views. -/
theorem counted_turn_thrown
    (counted : CountedAt world.stockroom id) (thrown : turn.returns world = false) :
    CountedAt (keepShop world turn).stockroom id := by
  cases turn with
  | update listingId dto faults =>
    exact counted_thrown counted (updated_exec world listingId dto faults) thrown
  | inventory turn =>
    show CountedAt (stocktake world turn).stockroom id
    rw [stockroom_stocktake thrown]
    exact counted

theorem counted_keepShop
    (counted : CountedAt world.stockroom id) (harmless : Harmless id world turn) :
    CountedAt (keepShop world turn).stockroom id := by grind [counted_turn_iff, counted_turn_thrown]

/-- Over every run of calls that are harmless to the listing, whatever fails
in them, it stays counted after each of them. -/
theorem variants_counted {world : World} {turns : List ListingTurn} {id : Id}
    (counted : CountedAt world.stockroom id) (harmless : Along keepShop (Harmless id) world turns) :
    Along keepShop (fun world turn => CountedAt (keepShop world turn).stockroom id)
      world turns := along_of_invariant (fun _ _ => counted_keepShop)
    (fun _ _ => counted_keepShop) counted harmless

/-- A lamp with one variant, of which ten are there. -/
def variantShop : World :=
  (openShop.withListing
      { id := 0, title := "lamp", price := 90, quantity := 10
        available := 10 }).withVariant
    { id := 0, listingId := 0, price := 90, quantity := 10, available := 10 }

theorem variantShop_counted : CountedAt variantShop.stockroom 0 := by
  intro listing stored _
  have same : variantShop.stockroom.listings.row 0 =
      some { id := 0, title := "lamp", price := 90, quantity := 10
             available := 10 } := by decide
  cases same.symm.trans stored
  decide

/-- Two pieces more of the variant, and another price for the listing. -/
theorem variant_adjusted_counted :
    Along keepShop (fun world turn => CountedAt (keepShop world turn).stockroom 0) variantShop
      [.inventory (.adjustVariantInventory 0 7 2 .adjustment none, []),
        .update 0 { price := some 80 } []] := by
  refine variants_counted variantShop_counted ⟨.inr fun _ _ _ => trivial, ?_, trivial⟩
  intro _ some
  exact absurd rfl some

/-- One piece more of the listing, and none more of its variant. -/
theorem listing_adjusted_uncounted :
    CountedAt variantShop.stockroom 0 ∧ ¬ Along keepShop
        (fun world turn => CountedAt (keepShop world turn).stockroom 0) variantShop
        [.inventory (.adjustInventory 0 7 1 .adjustment none, [])] := by
  refine ⟨variantShop_counted, fun along => ?_⟩
  have counted := along.1
  have stored : (stocktake variantShop
      (.adjustInventory 0 7 1 .adjustment none, [])).stockroom.listings.row 0 =
      some { id := 0, title := "lamp", price := 90, quantity := 11
             available := 11 } := by decide
  have levels := counted _ stored (by decide)
  revert levels
  decide

end MarketX.Commerce
