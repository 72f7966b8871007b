/-
Module: MarketX.Commerce.StoredListings
Purpose: What the creation and the update of a listing leave in the tables of
  the listings and of their variants.
Trusted boundary: none
Main exports: storeVariants_loaded, Inserted, storeVariants_new, assign_overwrites
-/
import MarketX.Commerce.ListingsService
import MarketX.Commerce.Stockroom

namespace MarketX.Commerce

open Effects Handler

/-! ### Variants in the table -/

theorem updated_entity (row : ListingVariant) :
    row.entity.updated row = row := by simp [VariantEntity.updated, ListingVariant.entity]

variable {listingId id : Id} {table : Table ListingVariant} {rows : List ListingVariant}
  {world : World} {listing : Listing} {dto : UpdateListingDto} {dtos : List ListingVariantDto}

theorem storeVariants_loaded (loaded : ∀ row ∈ rows, table.row row.id = some row) :
    storeVariants listingId table (rows.map ListingVariant.entity) = (rows, table) := by
  induction rows with
  | nil => rfl
  | cons row rest ih =>
    have here : table.row row.id = some row := loaded row List.mem_cons_self
    have found : row.entity.id.bind table.row = some row := here
    grind [storeVariants, updated_entity, Table.save_stored]

/-- New variants in the table: one row for each, nothing written over. -/
structure Inserted (listingId : Id) (table : Table ListingVariant)
    (variants : List VariantEntity) (stored : List ListingVariant)
    (after : Table ListingVariant) : Prop where
  made : List.Forall₂ (fun variant row => ∃ id, row = variant.inserted id listingId) variants stored
  owned : ∀ row ∈ stored, row.listingId = listingId
  rows : ∀ row ∈ stored, after.row row.id = some row
  kept : ∀ key row, table.row key = some row → after.row key = some row
  fresh : ∀ key row, after.row key = some row → table.row key = some row ∨ row ∈ stored

theorem storeVariants_new
    {variants : List VariantEntity} (new : ∀ variant ∈ variants, variant.id = none) :
    Inserted listingId table variants (storeVariants listingId table variants).1
      (storeVariants listingId table variants).2 := by
  induction variants generalizing table with
  | nil => exact ⟨.nil, nofun, nofun, fun _ _ stored => stored, fun _ _ => .inl⟩
  | cons variant rest ih =>
    have unkeyed := new variant List.mem_cons_self
    have inserted : Inserted listingId
        (table.save (variant.inserted table.next listingId)) rest _ _ :=
      ih fun variant member => new variant (List.mem_cons_of_mem _ member)
    rw [storeVariants]
    simp only [unkeyed, Option.bind_none, Option.getD_none]
    refine ⟨.cons ⟨_, rfl⟩ inserted.made, ?_, ?_, ?_, ?_⟩
    · rw [List.forall_mem_cons]
      exact ⟨rfl, inserted.owned⟩
    · rw [List.forall_mem_cons]
      exact ⟨inserted.kept _ _ (Table.row_save_self _ _), inserted.rows⟩
    · intro key row stored
      apply inserted.kept
      rw [Table.row_save_of_ne _ _ _, stored]
      rintro rfl
      cases (Table.row_next table).symm.trans stored
    · intro key row stored
      rcases inserted.fresh key row stored with saved | member <;> grind [Table.row_save]

/-! ### The calls -/

/-- Some call may throw. -/
def Fallible (spared : Spared) : Prop := ∃ op, spared op = false

section

variable {spared : Spared} {world : World}

theorem wp_syncSearch (listing : ListingEntity) (action : SyncAction)
    (post : Except HttpException Unit → World → Prop) :
    (commerce.shield spared).wp (ListingsService.syncSearch listing action)
      post world ↔ post (.ok ()) world := by
  unfold ListingsService.syncSearch
  rw [wp_bind, wp_attempt, wp_await]
  exact ⟨And.left, fun holds => ⟨holds, fun _ _ _ => holds⟩⟩

theorem wp_saveEntity {listing : ListingEntity}
    {post : Except HttpException ListingEntity → World → Prop}
    (refused : ∀ error, (Fallible spared ∨ leavesOrphan world.db.variants listing = true) →
        post (.error error) world) (saves : leavesOrphan world.db.variants listing = false →
      post (.ok (world.savedEntity listing)) (world.withListingEntity listing)) :
    (commerce.shield spared).wp (listingRepo.saveEntity listing) post
      world := by
  apply wp_await_bind _ _ fun exposed error => refused error (.inl ⟨_, exposed⟩)
  cases orphan : leavesOrphan world.db.variants listing with
  | true => simp_all [act]
  | false => simp_all [act]

/-- The row whose page has been shown. -/
def viewed (listing : Listing) : Listing :=
  { listing with views := listing.views + 1 }

/-- What `findOne` loads for an update. -/
def World.loaded (world : World) (listing : Listing) : ListingEntity :=
  ListingsService.aggregateEntity
    { row := viewed listing
      variants :=
        (world.stockroom.variantsOf listing.id).map ListingVariant.entity }

/-- Whatever the variants have been made, the members of the request are
assigned over them. -/
theorem assign_overwrites (listing : ListingEntity) (dto : UpdateListingDto) :
    ListingsService.assign (ListingsService.prepared listing dto) dto =
      ListingsService.assign listing dto := by
  grind [ListingsService.assign, ListingsService.prepared]

/-- What an update saves. -/
def World.merged (world : World) (listing : Listing) (dto : UpdateListingDto) : ListingEntity :=
  ListingsService.aggregateEntity (ListingsService.assign (world.loaded listing) dto)

/-- What an update comes to.  The view is counted outside of any transaction,
so that it stays where the update is refused. -/
inductive ListingUpdated (spared : Spared) (world : World) (id : Id) (dto : UpdateListingDto) :
    Except HttpException ListingEntity → World → Prop where
  | untouched (error : HttpException) (cause : Fallible spared ∨ world.db.listings.row id = none) :
      ListingUpdated spared world id dto (.error error) world
  | seen (error : HttpException) {listing : Listing}
      (found : world.db.listings.row id = some listing) (cause : Fallible spared ∨
        leavesOrphan world.db.variants (world.merged listing dto) = true) :
      ListingUpdated spared world id dto (.error error) (world.withListing (viewed listing))
  | saved {listing : Listing} (found : world.db.listings.row id = some listing)
      (complete : leavesOrphan world.db.variants (world.merged listing dto) = false) :
      ListingUpdated spared world id dto (.ok (ListingsService.aggregateEntity
          (world.savedEntity (world.merged listing dto))))
        (world.withListingEntity (world.merged listing dto))

theorem aggregateEntity_id (listing : ListingEntity) :
    (ListingsService.aggregateEntity listing).row.id = listing.row.id := by
  unfold ListingsService.aggregateEntity
  split <;> rfl

theorem aggregateEntity_variants (listing : ListingEntity) :
    (ListingsService.aggregateEntity listing).variants = listing.variants := by
  unfold ListingsService.aggregateEntity
  split <;> rfl

theorem merged_id (listing : Listing) (dto : UpdateListingDto) :
    (world.merged listing dto).row.id = listing.id := by
  rw [World.merged, aggregateEntity_id]
  show (world.loaded listing).row.id = _
  rw [World.loaded, aggregateEntity_id]
  rfl

theorem withListingEntity_viewed (listing : Listing) (dto : UpdateListingDto) :
    (world.withListing (viewed listing)).withListingEntity (world.merged listing dto) =
      world.withListingEntity (world.merged listing dto) := by
  simp [Keyed.key, viewed, merged_id, World.withListingEntity, World.withListing, Table.save_save]

theorem updateListing_spec (id : Id) (dto : UpdateListingDto) :
    (commerce.shield spared).wp (ListingsService.update id dto)
      (ListingUpdated spared world id dto) world := by
  unfold ListingsService.update ListingsService.findEntity
  rw [wp_bind]
  apply wp_await_bind _ _ fun exposed error => .untouched error (.inl ⟨_, exposed⟩)
  simp only [act]
  cases found : world.db.listings.row id with
  | none => exact .untouched _ (.inr found)
  | some listing =>
    obtain rfl : listing.id = id := world.db.listings.keyed found
    apply wp_await_bind _ _ fun exposed error => .untouched error (.inl ⟨_, exposed⟩)
    apply wp_await_bind _ _ fun exposed error => .untouched error (.inl ⟨_, exposed⟩)
    rw [wp_pure, andThen_ok, assign_overwrites, wp_bind]
    apply wp_saveEntity
    · exact fun error cause => .seen error found cause
    · intro complete
      rw [andThen_ok, wp_bind, wp_syncSearch, andThen_ok, wp_pure]
      have saved : ListingUpdated spared world listing.id dto _ _ := .saved found complete
      rw [← withListingEntity_viewed] at saved
      exact saved

/-- What is inserted for a new listing. -/
def World.drafted (world : World) (dto : CreateListingDto) : ListingEntity :=
  let listing := ListingsService.composed dto
  { listing with row := { listing.row with id := world.db.listings.next } }

/-- What a creation comes to. -/
inductive ListingCreated (spared : Spared) (world : World) (dto : CreateListingDto) :
    Except HttpException ListingEntity → World → Prop where
  | untouched (error : HttpException) (cause : Fallible spared) :
      ListingCreated spared world dto (.error error) world
  | stored :
      ListingCreated spared world dto (.ok (ListingsService.aggregateEntity
          (world.savedEntity (world.drafted dto)))) (world.withListingEntity (world.drafted dto))

theorem createListing_spec (dto : CreateListingDto) :
    (commerce.shield spared).wp (ListingsService.create dto)
      (ListingCreated spared world dto) world := by
  apply wp_await_bind _ _ fun exposed error => .untouched error ⟨_, exposed⟩
  rw [wp_bind, wp_syncSearch, andThen_ok, wp_pure]
  exact .stored

end

theorem updated_exec (world : World) (id : Id) (dto : UpdateListingDto) (faults : List Fault) :
    ListingUpdated noneSpared world id dto
      (commerce.exec (ListingsService.update id dto) faults world).1
      (commerce.exec (ListingsService.update id dto) faults world).2 := by
  have spec : (commerce.shield noneSpared).wp
      (ListingsService.update id dto) _ world := updateListing_spec id dto
  rw [commerce.shield_none] at spec
  exact commerce.wp_sound spec faults

theorem exec_update (found : world.db.listings.row id = some listing)
    (complete : leavesOrphan world.db.variants (world.merged listing dto) = false) :
    commerce.exec (ListingsService.update id dto) [] world = (.ok (ListingsService.aggregateEntity
          (world.savedEntity (world.merged listing dto))),
        world.withListingEntity (world.merged listing dto)) := by
  have nothing : ¬ Fallible fun _ => true := fun ⟨_, exposed⟩ => by
    cases exposed
  have spec : (commerce.shield fun _ => true).wp
      (ListingsService.update id dto) _ world := updateListing_spec id dto
  have settled := commerce.wp_sound_spared spec (commerce.spares_nil _ _ world)
  generalize commerce.exec (ListingsService.update id dto) [] world = outcome at settled
  obtain ⟨result, after⟩ := outcome
  cases settled with
  | untouched error cause => simp_all
  | seen error stored cause => simp_all
  | saved stored kept =>
    cases stored.symm.trans found
    rfl

theorem created_exec (world : World) (dto : CreateListingDto) (faults : List Fault) :
    ListingCreated noneSpared world dto (commerce.exec (ListingsService.create dto) faults world).1
      (commerce.exec (ListingsService.create dto) faults world).2 := by
  have spec : (commerce.shield noneSpared).wp
      (ListingsService.create dto) _ world := createListing_spec dto
  rw [commerce.shield_none] at spec
  exact commerce.wp_sound spec faults

/-! ### Variants that a request names -/

theorem merged_variants (given : dto.variants = some dtos) :
    (world.merged listing dto).variants =
      dtos.map ListingVariantDto.entity := by
  rw [World.merged, aggregateEntity_variants]
  simp only [ListingsService.assign, given]

theorem merged_loaded (given : dto.variants = none) :
    (world.merged listing dto).variants =
      (world.stockroom.variantsOf listing.id).map ListingVariant.entity := by
  simp_all [World.merged, aggregateEntity_variants, ListingsService.assign, World.loaded]

theorem mem_variantsOf {variant : ListingVariant} :
    variant ∈ world.stockroom.variantsOf id ↔ world.db.variants.row variant.id = some variant ∧
        variant.listingId = id := by
  rw [Stockroom.variantsOf, List.mem_filter, decide_eq_true_iff]
  exact and_congr_left' Table.mem_rows

theorem merged_new (given : dto.variants = some dtos) :
    ∀ variant ∈ (world.merged listing dto).variants, variant.id = none := by
  rw [merged_variants given, List.forall_mem_map]
  exact fun _ _ => rfl

theorem complete_iff_bare (given : dto.variants = some dtos) :
    leavesOrphan world.db.variants (world.merged listing dto) = false ↔
      world.stockroom.variantsOf listing.id = [] := by
  have unnamed : ∀ row : ListingVariant, some row.id ∉
      (world.merged listing dto).variants.map VariantEntity.id := by grind [merged_new]
  simp [leavesOrphan, unnamed, merged_id, Stockroom.variantsOf, World.stockroom]

theorem available_raw (dtos : List ListingVariantDto) :
    ((dtos.map ListingVariantDto.entity).map fun variant => variant.available.getD 0).sum = 0 := by
  induction dtos with
  | nil => rfl
  | cons dto rest ih =>
    rw [List.map_cons, List.map_cons, List.sum_cons, ih]
    rfl

theorem merged_available (given : dto.variants = some dtos) (nonempty : dtos ≠ []) :
    (world.merged listing dto).row.available = 0 := by
  rw [World.merged, ListingsService.assign, given]
  cases dtos with
  | nil => exact absurd rfl nonempty
  | cons first rest => exact available_raw (first :: rest)

theorem available_inserted (made : List.Forall₂ (fun variant row => ∃ id,
        row = VariantEntity.inserted variant id listingId)
      (dtos.map ListingVariantDto.entity) rows) :
    (rows.map ListingVariant.available).sum = dtos.length := by
  rw [List.forall₂_map_left_iff] at made
  induction made with
  | nil => rfl
  | cons head _ ih =>
    obtain ⟨id, rfl⟩ := head
    rw [List.map_cons, List.sum_cons, ih, List.length_cons, Nat.cast_succ, add_comm]
    rfl

end MarketX.Commerce
