/-
Module: MarketX.Commerce.ListingsService
Purpose: The listings (`listing/listing.service.ts`): the page of a listing,
  which counts the view on the row it has read, and what is created and
  updated together with its variants.
Trusted boundary: human-reviewed model of the source
Main exports: aggregateListing, findOne, CreateListingDto, UpdateListingDto
-/
import Mathlib.Algebra.Order.Ring.Unbundled.Rat
import MarketX.Commerce.World

namespace MarketX.Commerce

open Effects

/-- `listing/dto/listing-variant.dto.ts`. -/
structure ListingVariantDto where
  sku : Option String := none
  attributes : Option String := none
  price : Amount
  currency : Option String := none
  quantity : Option ℤ := none
  reserved : Option ℤ := none
deriving DecidableEq

/-- The members of `listing/dto/create-listing.dto.ts` that reach the columns
of the model. -/
structure CreateListingDto where
  title : String
  price : Amount
  currency : Option String := none
  quantity : Option ℤ := none
  reserved : Option ℤ := none
  variants : Option (List ListingVariantDto) := none
deriving DecidableEq

/-- `PartialType(CreateListingDto)`. -/
structure UpdateListingDto where
  title : Option String := none
  price : Option Amount := none
  currency : Option String := none
  quantity : Option ℤ := none
  reserved : Option ℤ := none
  variants : Option (List ListingVariantDto) := none
deriving DecidableEq

/-- What is to be created, where some members might be missing. -/
def CreateListingDto.optional (dto : CreateListingDto) :
    UpdateListingDto where
  title := some dto.title
  price := some dto.price
  currency := dto.currency
  quantity := dto.quantity
  reserved := dto.reserved
  variants := dto.variants

/-- The plain object, put in the place of an entity as it is. -/
def ListingVariantDto.entity (dto : ListingVariantDto) : VariantEntity where
  sku := dto.sku
  attributes := dto.attributes
  price := dto.price
  currency := dto.currency
  quantity := dto.quantity
  reserved := dto.reserved

namespace ListingsService

/-- The listing as its variants make it, for display. -/
def aggregateListing (listing : Listing) : List ListingVariant → Listing
  | [] =>
    { listing with available := max 0 (listing.quantity - listing.reserved) }
  | first :: rest =>
    let variants := first :: rest
    { listing with
      quantity := (variants.map ListingVariant.quantity).sum
      reserved := (variants.map ListingVariant.reserved).sum
      available := (variants.map ListingVariant.available).sum
      price := (rest.map ListingVariant.price).foldl min first.price
      currency := if first.currency = "" then "USD" else first.currency }

/-- The whole row is saved, not the count alone. -/
def findOne (id : Id) : Service Listing := do
  match ← listingRepo.findOne id with
  | none => throw (.notFound "Listing not found")
  | some listing =>
    let variants ← variantRepo.find id
    let listing := { listing with views := listing.views + 1 }
    listingRepo.save listing
    pure (aggregateListing listing variants)

/-! ### Listings in memory -/

/-- `aggregateListing`, where members of the variants may be missing. -/
def aggregateEntity (listing : ListingEntity) : ListingEntity :=
  match listing.variants with
  | [] =>
    { listing with
      row := { listing.row with
        available := max 0 (listing.row.quantity - listing.row.reserved) } }
  | first :: rest =>
    let variants := first :: rest
    { listing with
      row := { listing.row with
        quantity := (variants.map (·.quantity.getD 0)).sum
        reserved := (variants.map (·.reserved.getD 0)).sum
        available := (variants.map (·.available.getD 0)).sum
        price := (rest.map VariantEntity.price).foldl min first.price
        currency :=
          if first.currency.getD "" = "" then "USD"
          else first.currency.getD "" } }

def buildVariant (dto : ListingVariantDto) : VariantEntity :=
  let quantity := dto.quantity.getD 1
  let reserved := dto.reserved.getD 0
  let available := quantity - reserved
  { sku := dto.sku
    attributes := dto.attributes
    price := dto.price
    currency := some (dto.currency.getD "USD")
    quantity := some quantity
    reserved := some reserved
    available := some (if available < 0 then 0 else available) }

/-- Legacy payloads without variants make one of their own price. -/
def prepareVariants (dto : UpdateListingDto) : List VariantEntity :=
  match dto.variants with
  | some (first :: rest) =>
    (first :: rest).map fun variantData =>
      buildVariant
        { variantData with
          quantity := some (variantData.quantity.getD 1)
          reserved := some (variantData.reserved.getD 0) }
  | some [] | none =>
    match dto.price with
    | some price =>
      [buildVariant
        { price
          currency := some (dto.currency.getD "USD")
          quantity := some (dto.quantity.getD 1)
          reserved := some (dto.reserved.getD 0) }]
    | none => []

/-- The search index may be out of reach. -/
def syncSearch (listing : ListingEntity) (action : SyncAction) :
    Service Unit := do
  let _ ← (searchSyncService.syncSingleListing listing action).attempt
  pure ()

/-- The listing made of the request, with the variants it is given. -/
def composed (dto : CreateListingDto) : ListingEntity :=
  let listing : ListingEntity :=
    { row :=
        { id := 0
          title := dto.title
          price := dto.price
          currency := dto.currency.getD "USD"
          quantity := dto.quantity.getD 1
          reserved := dto.reserved.getD 0 }
      variants := (dto.variants.getD []).map ListingVariantDto.entity }
  let variants := prepareVariants dto.optional
  if variants.isEmpty then listing
  else aggregateEntity { listing with variants }

def create (dto : CreateListingDto) : Service ListingEntity := do
  let saved ← listingRepo.insert (composed dto)
  syncSearch saved .index
  pure (aggregateEntity saved)

/-- `findOne`, with the variants the listing was loaded with. -/
def findEntity (id : Id) : Service ListingEntity := do
  match ← listingRepo.findOne id with
  | none => throw (.notFound "Listing not found")
  | some listing =>
    let variants ← variantRepo.find id
    let listing := { listing with views := listing.views + 1 }
    listingRepo.save listing
    pure (aggregateEntity { row := listing, variants := variants.map ListingVariant.entity })

/-- `Object.assign(listing, dto)`: every member that is given, the variants
among them. -/
def assign (listing : ListingEntity) (dto : UpdateListingDto) :
    ListingEntity where
  row :=
    { listing.row with
      title := dto.title.getD listing.row.title
      price := dto.price.getD listing.row.price
      currency := dto.currency.getD listing.row.currency
      quantity := dto.quantity.getD listing.row.quantity
      reserved := dto.reserved.getD listing.row.reserved }
  variants :=
    match dto.variants with
    | none => listing.variants
    | some variants => variants.map ListingVariantDto.entity

/-- The listing with the variants of the request, which may be none. -/
def prepared (listing : ListingEntity) (dto : UpdateListingDto) :
    ListingEntity :=
  match dto.variants with
  | none => listing
  | some _ => { listing with variants := prepareVariants dto }

def update (id : Id) (dto : UpdateListingDto) : Service ListingEntity := do
  let listing ← findEntity id
  let listing := assign (prepared listing dto) dto
  let saved ← listingRepo.saveEntity (aggregateEntity listing)
  syncSearch saved .update
  pure (aggregateEntity saved)

theorem aggregateEntity_loaded (listing : Listing) (rows : List ListingVariant) :
    aggregateEntity ⟨listing, rows.map ListingVariant.entity⟩ =
      ⟨aggregateListing listing rows, rows.map ListingVariant.entity⟩ := by
  cases rows with
  | nil => rfl
  | cons first rest =>
    simp only [aggregateEntity, aggregateListing, List.map_cons, List.map_map]
    rfl

end ListingsService

end MarketX.Commerce
