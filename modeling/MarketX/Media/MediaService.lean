/-
Module: MarketX.Media.MediaService
Purpose: Images of products (`media/media.service.ts`): the objects that an
  upload stores, the rows in the database, and the objects that a deletion
  takes away; in which runs the stored objects are those of the rows.
Trusted boundary: human-reviewed model of the source; storage and database
  calls succeed, and what the runtime, the moderation and the image library
  answer is given
Main exports: ProductImage, MediaState, uploadSingleImage, no_orphans_iff
-/
import Mathlib.Data.Finset.Card
import MarketX.Effects.Runs
import MarketX.Effects.Table
import MarketX.Effects.Throwing
import MarketX.Numerals.Digest
import MarketX.Security.Requests

namespace MarketX.Media

open Effects Effects.Writing Numerals
open Security (includes)

/-! ### Entities -/

inductive ImageFormat where
  | jpeg
  | png
  | webp
deriving DecidableEq

instance : ToString ImageFormat where
  toString
    | .jpeg => "jpeg"
    | .png => "png"
    | .webp => "webp"

structure ImageVariant where
  url : String
  width : ℕ
  height : ℕ
  size : ℕ

structure ImageVariants where
  thumbnail : ImageVariant
  medium : ImageVariant
  original : ImageVariant

structure ProductImage where
  id : Id
  productId : String
  originalName : String
  format : ImageFormat
  mimeType : String
  originalWidth : ℕ
  originalHeight : ℕ
  originalSize : ℕ
  variants : ImageVariants
  altText : Option String
  displayOrder : ℕ
  storageKey : String
  storageProvider : String

instance : Keyed ProductImage := ⟨ProductImage.id⟩

/-- The rows, and the keys of the objects that are stored. -/
structure MediaState where
  images : Table ProductImage := .empty
  storage : Finset String := ∅

abbrev MediaService := Writing MediaState HttpException

structure ProcessedImage where
  width : ℕ
  height : ℕ
  size : ℕ
  format : String

/-- What is not in the repository: the runtime, the moderation, the image
library and the provider of the storage. -/
structure Outside where
  toLowerCase : String → String
  decodeBase64 : String → List UInt8
  sha256 : List UInt8 → Digest
  validateImageContent : List UInt8 → Except HttpException Unit
  /-- Width, height and size of the image after it has been checked, resized
  and written as WebP. -/
  optimized : List UInt8 → Except HttpException (ℕ × ℕ × ℕ)
  getUrl : String → String
  storageProvider : String

/-! ### Names -/

/-- `fileName.replace(/\.[^/.]+$/, '')`. -/
def withoutExtension (fileName : List Char) : List Char :=
  let inExtension (c : Char) : Bool := c ≠ '/' && c ≠ '.'
  let backwards := fileName.reverse
  match backwards.takeWhile inExtension, backwards.dropWhile inExtension with
  | _ :: _, '.' :: rest => rest.reverse
  | _, _ => fileName

/-- `/[a-z0-9]/`. -/
def isPlain (c : Char) : Bool := c.isLower || c.isDigit

/-- Each run of dashes becomes a single one. -/
def singleDashes : List Char → List Char
  | '-' :: '-' :: rest => singleDashes ('-' :: rest)
  | c :: rest => c :: singleDashes rest
  | [] => []

section

variable (outside : Outside)

def sanitizeFileName (fileName : String) : String :=
  let nameWithoutExt := withoutExtension fileName.toList
  let lower := outside.toLowerCase (String.ofList nameWithoutExt)
  let dashed := lower.toList.map fun c => if isPlain c then c else '-'
  String.ofList ((singleDashes dashed).take 50)

def getFormatFromMimeType (mimeType : String) : ImageFormat :=
  if mimeType = "image/jpeg" then .jpeg
  else if mimeType = "image/png" then .png
  else if mimeType = "image/webp" then .webp
  else .jpeg

def computeContentHash (buffer : List UInt8) : String := String.ofList (hex (outside.sha256 buffer))

/-- The key of one of the three variants. -/
def variantKey (baseKey variantName format : String) : String :=
  s!"{baseKey}/{variantName}.{format}"

/-! ### Upload -/

structure UploadImageDto where
  altText : Option String := none
  displayOrder : Option ℕ := none

structure ImageProcessingJobData where
  productId : String
  bufferBase64 : String
  originalname : String
  mimetype : String
  dto : Option UploadImageDto := none
  displayOrder : ℕ

structure UploadedImageResult where
  id : Id
  productId : String
  originalName : String
  variants : ImageVariants
  displayOrder : ℕ
  altText : Option String

def ProductImage.result (image : ProductImage) : UploadedImageResult where
  id := image.id
  productId := image.productId
  originalName := image.originalName
  variants := image.variants
  displayOrder := image.displayOrder
  altText := image.altText

def createMarketXAsset (buffer : List UInt8) :
    Except HttpException ProcessedImage := do
  let (width, height, size) ← outside.optimized buffer
  pure { width, height, size, format := "webp" }

/-- One turn of the loop over the variants. -/
def uploadVariant (baseKey : String) (processed : ProcessedImage)
    (variantName : String) : MediaService ImageVariant := do
  let key := variantKey baseKey variantName processed.format
  modify fun state => { state with storage := insert key state.storage }
  pure
    { url := outside.getUrl key
      width := processed.width
      height := processed.height
      size := processed.size }

/-- The product has an image with this hash in its key. -/
def existingImage (state : MediaState) (productId contentHash : String) :
    Option ProductImage := state.images.rows.find? fun image =>
    image.productId = productId && includes image.storageKey contentHash

def baseKeyOf (now : ℕ) (productId contentHash originalname : String) :
    String := s!"products/{productId}/{now}-{contentHash}-" ++ sanitizeFileName outside originalname

def uploadSingleImage (now : ℕ) (job : ImageProcessingJobData) :
    MediaService UploadedImageResult := do
  let buffer := outside.decodeBase64 job.bufferBase64
  let contentHash := computeContentHash outside buffer
  let state ← get
  match existingImage state job.productId contentHash with
  | some image => pure image.result
  | none => do
      liftM (outside.validateImageContent buffer)
      let optimizedImage ← liftM (createMarketXAsset outside buffer)
      let baseKey := baseKeyOf outside now job.productId contentHash job.originalname
      let thumbnail ← uploadVariant outside baseKey optimizedImage "thumbnail"
      let medium ← uploadVariant outside baseKey optimizedImage "medium"
      let original ← uploadVariant outside baseKey optimizedImage "original"
      let state ← get
      let image : ProductImage :=
        { id := state.images.next
          productId := job.productId
          originalName := job.originalname
          format := getFormatFromMimeType job.mimetype
          mimeType := "image/webp"
          originalWidth := optimizedImage.width
          originalHeight := optimizedImage.height
          originalSize := optimizedImage.size
          variants := { thumbnail, medium, original }
          altText := job.dto.bind UploadImageDto.altText
          displayOrder :=
            (job.dto.bind UploadImageDto.displayOrder).getD job.displayOrder
          storageKey := baseKey
          storageProvider := outside.storageProvider }
      set { state with images := state.images.save image }
      pure image.result

def processQueuedImage (now : ℕ) (job : ImageProcessingJobData) :
    MediaService UploadedImageResult := uploadSingleImage outside now job

end

/-! ### Deletion -/

/-- The keys of the objects of a row. -/
def keysToDelete (image : ProductImage) : List String :=
  [variantKey image.storageKey "thumbnail" (toString image.format),
    variantKey image.storageKey "medium" (toString image.format),
    variantKey image.storageKey "original" (toString image.format)]

def deleteMany (keys : List String) : MediaService Unit := modify fun state =>
    { state with storage := state.storage.filter (· ∉ keys) }

def getImageById (id : Id) : MediaService ProductImage := do
  match (← get).images.row id with
  | some image => pure image
  | none => throw (.notFound s!"Image with ID {id} not found")

/-- `remove` of rows. -/
def removeAll (ids : List Id) : MediaService Unit := modify fun state =>
    { state with images := ids.foldl Table.delete state.images }

def deleteImage (id : Id) : MediaService Unit := do
  let image ← getImageById id
  deleteMany (keysToDelete image)
  removeAll [image.id]

def deleteProductImages (productId : String) : MediaService ℕ := do
  let images := (← get).images.rows.filter (·.productId = productId)
  if images.length = 0 then
    pure 0
  else do
    deleteMany (images.flatMap keysToDelete)
    removeAll (images.map ProductImage.id)
    pure images.length

/-! ### Calls -/

inductive Call where
  | processQueuedImage (now : ℕ) (job : ImageProcessingJobData)
  | deleteImage (id : Id)
  | deleteProductImages (productId : String)

/-- What a call leaves. -/
def perform (outside : Outside) (state : MediaState) : Call → MediaState
  | .processQueuedImage now job =>
    (processQueuedImage outside now job state).2
  | .deleteImage id => (Media.deleteImage id state).2
  | .deleteProductImages productId =>
    (Media.deleteProductImages productId state).2

/-- The stored objects are those of the rows. -/
def Tidy (state : MediaState) : Prop := ∀ key, key ∈ state.storage ↔
    ∃ image ∈ state.images.rows, key ∈ keysToDelete image

/-! ### Keys -/

theorem append_separator_inj {α : Type} {separator : α} {a b r s : List α}
    (same : a ++ separator :: r = b ++ separator :: s)
    (first : separator ∉ r) (second : separator ∉ s) : a = b ∧ r = s := by
  rcases List.append_eq_append_iff.mp same with
    ⟨between, rfl, rest⟩ | ⟨between, rfl, rest⟩
  · cases between <;> simp_all
  · cases between <;> simp_all

def variantNames : List String := ["thumbnail", "medium", "original"]

variable {image row : ProductImage} {key : String} {job : ImageProcessingJobData}
  {rows : List ProductImage}

theorem mem_keysToDelete :
    key ∈ keysToDelete image ↔ ∃ variantName ∈ variantNames, key =
      variantKey image.storageKey variantName (toString image.format) := by
  simp [keysToDelete, variantNames]

theorem toList_variantKey (baseKey variantName format : String) :
    (variantKey baseKey variantName format).toList = baseKey.toList ++
      '/' :: (variantName.toList ++ '.' :: format.toList) := by
  simp only [variantKey, String.toList_append, List.append_assoc]
  rfl

theorem variantKey_inj {baseKey other variantName otherName : String}
    {format otherFormat : ImageFormat} (named : variantName ∈ variantNames)
    (otherNamed : otherName ∈ variantNames)
    (same : variantKey baseKey variantName (toString format) =
      variantKey other otherName (toString otherFormat)) :
    baseKey = other ∧ format = otherFormat := by
  have noSlash : ∀ name ∈ variantNames, ∀ format : ImageFormat,
      '/' ∉ name.toList ++ '.' :: (toString format).toList := by
    intro name member format
    cases format <;> revert name <;> decide
  have formats : ∀ name ∈ variantNames, ∀ otherName ∈ variantNames,
      name.toList ++ '.' :: (toString format).toList =
          otherName.toList ++ '.' :: (toString otherFormat).toList → format = otherFormat := by
    cases format <;> cases otherFormat <;> decide
  have texts := congrArg String.toList same
  rw [toList_variantKey, toList_variantKey] at texts
  obtain ⟨bases, names⟩ := append_separator_inj texts (noSlash _ named _) (noSlash _ otherNamed _)
  exact ⟨String.toList_inj.mp bases, formats _ named _ otherNamed names⟩

/-! ### What a call does -/

/-- Where the images are, and that no two are at one place. -/
structure Placed (state : MediaState) : Prop where
  place : ∀ image ∈ state.images.rows, ∃ name : List Char, '/' ∉ name ∧ image.storageKey.toList =
      "products/".toList ++ image.productId.toList ++ '/' :: name
  distinct : ∀ image ∈ state.images.rows, ∀ other ∈ state.images.rows,
    image.storageKey = other.storageKey → image.id = other.id

/-- The upload is no duplicate, and the image is accepted. -/
structure Stores (outside : Outside) (state : MediaState)
    (job : ImageProcessingJobData) : Prop where
  unseen : existingImage state job.productId
    (computeContentHash outside (outside.decodeBase64 job.bufferBase64)) = none
  moderated : Succeeds (outside.validateImageContent (outside.decodeBase64 job.bufferBase64))
  optimized : Succeeds (outside.optimized (outside.decodeBase64 job.bufferBase64))

/-- One more row, and its three objects. -/
def withImage (state : MediaState) (image : ProductImage) : MediaState where
  images := state.images.save image
  storage := variantNames.foldl (fun storage variantName =>
    insert (variantKey image.storageKey variantName "webp") storage) state.storage

/-- Without these rows and their objects. -/
def withoutImages (state : MediaState) (rows : List ProductImage) :
    MediaState where
  images := (rows.map ProductImage.id).foldl Table.delete state.images
  storage := state.storage.filter (· ∉ rows.flatMap keysToDelete)

variable {outside : Outside} {state : MediaState}

theorem upload_stores (now : ℕ) (stores : Stores outside state job) :
    ∃ image : ProductImage, perform outside state (.processQueuedImage now job) =
        withImage state image ∧ image.id = state.images.next ∧ image.productId = job.productId ∧
      image.format = getFormatFromMimeType job.mimetype ∧
      image.storageKey = baseKeyOf outside now job.productId (computeContentHash outside
          (outside.decodeBase64 job.bufferBase64)) job.originalname := by
  obtain ⟨unseen, ⟨_, moderated⟩, ⟨width, height, size⟩, optimized⟩ := stores
  unfold perform processQueuedImage uploadSingleImage createMarketXAsset
  dsimp only
  rw [get_bind]
  simp only [unseen, moderated, optimized]
  exact ⟨_, rfl, rfl, rfl, rfl, rfl⟩

theorem upload_skips (now : ℕ) (skips : ¬ Stores outside state job) :
    perform outside state (.processQueuedImage now job) = state := by
  unfold perform processQueuedImage uploadSingleImage createMarketXAsset
  dsimp only
  rw [get_bind]
  cases existing : existingImage state job.productId (computeContentHash
      outside (outside.decodeBase64 job.bufferBase64)) with
  | some image => rfl
  | none =>
    cases moderated : outside.validateImageContent (outside.decodeBase64 job.bufferBase64) with
    | error error => rfl
    | ok _ =>
      cases optimized : outside.optimized (outside.decodeBase64 job.bufferBase64) with
      | error error => rfl
      | ok sizes => exact absurd ⟨existing, ⟨_, moderated⟩, ⟨_, optimized⟩⟩ skips

theorem withoutImages_nil (state : MediaState) :
    withoutImages state [] = state := by simp [withoutImages]

theorem deleteImage_apply (outside : Outside) (state : MediaState) (id : Id) :
    perform outside state (.deleteImage id) =
      withoutImages state (state.images.row id).toList := by
  unfold perform Media.deleteImage
  dsimp only
  rw [bind_apply]
  cases found : state.images.row id with
  | none =>
    have missing : getImageById id state =
        (.error (.notFound s!"Image with ID {id} not found"), state) := by
      unfold getImageById
      rw [get_bind]
      simp only [found]
      rfl
    rw [missing]
    exact (withoutImages_nil state).symm
  | some image =>
    have there : getImageById id state = (.ok image, state) := by
      unfold getImageById
      rw [get_bind]
      simp only [found]
      rfl
    rw [there, Option.toList_some, withoutImages, List.flatMap_singleton]
    rfl

theorem deleteProductImages_apply (outside : Outside) (state : MediaState) (productId : String) :
    perform outside state (.deleteProductImages productId) = withoutImages state
        (state.images.rows.filter (·.productId = productId)) := by
  unfold perform Media.deleteProductImages
  dsimp only
  rw [get_bind]
  cases rows : state.images.rows.filter (·.productId = productId) with
  | nil => exact (withoutImages_nil state).symm
  | cons image images => rfl

/-! ### Places -/

theorem slash_not_mem_hex (digest : Digest) : '/' ∉ hex digest := by
  have all : ∀ digit < 16, Nat.digitChar digit ≠ '/' := by decide
  intro member
  obtain ⟨digit, among, is⟩ := List.mem_map.mp member
  exact all digit (digitsOf_lt (by decide) among) is

theorem mem_of_singleDashes {c : Char} {text : List Char}
    (member : c ∈ singleDashes text) : c ∈ text := by
  induction text using singleDashes.induct <;> grind [singleDashes]

theorem slash_not_mem_sanitizeFileName (fileName : String) :
    '/' ∉ (sanitizeFileName outside fileName).toList := by
  intro member
  rw [sanitizeFileName, String.toList_ofList] at member
  obtain ⟨c, -, is⟩ := List.mem_map.mp (mem_of_singleDashes (List.mem_of_mem_take member))
  by_cases plain : isPlain c = true <;> simp_all [isPlain]

theorem toList_baseKeyOf (outside : Outside) (now : ℕ)
    (productId originalname : String) (digest : Digest) :
    ∃ front back : List Char, (baseKeyOf outside now productId (String.ofList (hex digest))
          originalname).toList = "products/".toList ++ productId.toList ++
          '/' :: (front ++ hex digest ++ back) ∧ '/' ∉ front ++ hex digest ++ back := by
  refine ⟨(toString now).toList ++ ['-'],
    '-' :: (sanitizeFileName outside originalname).toList, ?_, ?_⟩
  · have text : baseKeyOf outside now productId (String.ofList (hex digest)) originalname =
        "products/" ++ productId ++ "/" ++ toString now ++ "-" ++
          String.ofList (hex digest) ++ "-" ++
            sanitizeFileName outside originalname := rfl
    simp_all
  · have digits : '/' ∉ Nat.toDigits 10 now :=
      (allDigits_toDigits now).not_mem (by decide)
    simp [digits, slash_not_mem_hex, slash_not_mem_sanitizeFileName]

theorem includes_baseKeyOf (now : ℕ) (productId originalname : String) (buffer : List UInt8) :
    includes (baseKeyOf outside now productId (computeContentHash outside buffer) originalname)
        (computeContentHash outside buffer) = true := by
  obtain ⟨front, back, is, -⟩ := toList_baseKeyOf outside now productId
    originalname (outside.sha256 buffer)
  have within : (computeContentHash outside buffer).toList <:+:
      (baseKeyOf outside now productId (computeContentHash outside buffer)
        originalname).toList := by grind [computeContentHash, String.toList_ofList]
  simpa only [includes, decide_eq_true_eq] using within

theorem fresh_baseKey (placed : Placed state) (now : ℕ) (stores : Stores outside state job) :
    ∀ image ∈ state.images.rows, image.storageKey ≠
      baseKeyOf outside now job.productId (computeContentHash outside
        (outside.decodeBase64 job.bufferBase64)) job.originalname := by
  intro image stored same
  obtain ⟨name, noSlash, place⟩ := placed.place image stored
  obtain ⟨front, back, is, notBehind⟩ := toList_baseKeyOf outside now job.productId job.originalname
    (outside.sha256 (outside.decodeBase64 job.bufferBase64))
  have texts := congrArg String.toList same
  rw [place, computeContentHash, is] at texts
  obtain ⟨products, -⟩ := append_separator_inj texts noSlash notBehind
  have product : image.productId = job.productId :=
    String.toList_inj.mp (List.append_cancel_left products)
  have unseen := List.find?_eq_none.mp stores.unseen image stored
  simp_all [includes_baseKeyOf]

/-! ### The invariant -/

theorem mem_withImage (new : image.id = state.images.next) :
    row ∈ (withImage state image).images.rows ↔ row ∈ state.images.rows ∨ row = image := by
  have rows : (state.images.save image).rows = state.images.rows ++ [image] :=
    Table.rows_save_of_next_le new.ge
  rw [withImage, rows, List.mem_append, List.mem_singleton]

theorem mem_storage_withImage :
    key ∈ (withImage state image).storage ↔ key ∈ state.storage ∨ ∃ variantName ∈ variantNames,
        key = variantKey image.storageKey variantName "webp" := by
  simp only [withImage, variantNames, List.foldl_cons, List.foldl_nil,
    Finset.mem_insert, List.mem_cons, List.not_mem_nil, or_false, exists_eq_or_imp, exists_eq_left]
  tauto

theorem tidy_withImage (tidy : Tidy state)
    (new : image.id = state.images.next) (fresh : ∀ other ∈ state.images.rows,
      other.storageKey ≠ image.storageKey) :
    Tidy (withImage state image) ↔ image.format = .webp := by
  constructor
  · intro after
    have own : variantKey image.storageKey "thumbnail"
        (toString image.format) ∈ keysToDelete image := List.mem_cons_self
    have stored := (after _).mpr ⟨image, (mem_withImage new).mpr (.inr rfl), own⟩
    rcases mem_storage_withImage.mp stored with old | ⟨name, named, same⟩
    · obtain ⟨other, there, member⟩ := (tidy _).mp old
      obtain ⟨name, named, same⟩ := mem_keysToDelete.mp member
      exact absurd (variantKey_inj (by decide) named same).1.symm (fresh other there)
    · have webp : toString ImageFormat.webp = "webp" := rfl
      exact (variantKey_inj (by decide) named same).2
  · intro webp key
    rw [mem_storage_withImage, tidy key]
    have own : (∃ variantName ∈ variantNames,
        key = variantKey image.storageKey variantName "webp") ↔ key ∈ keysToDelete image := by
      rw [mem_keysToDelete, webp]
      rfl
    simp_all [mem_withImage]

theorem mem_withoutImages :
    row ∈ (withoutImages state rows).images.rows ↔
      row ∈ state.images.rows ∧ row.id ∉ rows.map ProductImage.id := by
  have key : Keyed.key row = row.id := rfl
  grind [Table.mem_rows, withoutImages, Table.row_foldl_delete]

theorem tidy_withoutImages (tidy : Tidy state)
    (placed : Placed state) (stored : ∀ row ∈ rows, row ∈ state.images.rows) :
    Tidy (withoutImages state rows) := by
  intro key
  have storage : key ∈ (withoutImages state rows).storage ↔
      key ∈ state.storage ∧ key ∉ rows.flatMap keysToDelete := Finset.mem_filter
  rw [storage, tidy key]
  constructor
  · rintro ⟨⟨image, there, member⟩, kept⟩
    refine ⟨image, mem_withoutImages.mpr ⟨there, fun gone => kept ?_⟩, member⟩
    obtain ⟨row, among, same⟩ := List.mem_map.mp gone
    have is : row = image := Table.eq_of_key (stored row among) there same
    exact List.mem_flatMap.mpr ⟨row, among, is ▸ member⟩
  · rintro ⟨image, there, member⟩
    obtain ⟨there, stays⟩ := mem_withoutImages.mp there
    refine ⟨⟨image, there, member⟩, fun taken => stays ?_⟩
    obtain ⟨row, among, memberToo⟩ := List.mem_flatMap.mp taken
    obtain ⟨name, named, is⟩ := mem_keysToDelete.mp member
    obtain ⟨nameToo, namedToo, isToo⟩ := mem_keysToDelete.mp memberToo
    have place := (variantKey_inj namedToo named (isToo.symm.trans is)).1
    exact List.mem_map.mpr ⟨row, among, placed.distinct row (stored row among) image there place⟩

theorem placed_withImage (placed : Placed state) (new : image.id = state.images.next)
    (place : ∃ name : List Char, '/' ∉ name ∧ image.storageKey.toList =
      "products/".toList ++ image.productId.toList ++ '/' :: name)
    (fresh : ∀ other ∈ state.images.rows, other.storageKey ≠ image.storageKey) :
    Placed (withImage state image) where
  place row there := by
    rcases (mem_withImage new).mp there with old | rfl
    · exact placed.place row old
    · exact place
  distinct row there other thereToo same := by
    rcases (mem_withImage new).mp there with old | rfl <;>
      rcases (mem_withImage new).mp thereToo with oldToo | rfl
    · exact placed.distinct row old other oldToo same
    · exact absurd same (fresh row old)
    · exact absurd same.symm (fresh other oldToo)
    · rfl

theorem placed_withoutImages (placed : Placed state)
    (rows : List ProductImage) : Placed (withoutImages state rows) where
  place row there := placed.place row (mem_withoutImages.mp there).1
  distinct row there other thereToo := placed.distinct row (mem_withoutImages.mp there).1
      other (mem_withoutImages.mp thereToo).1

/-! ### Runs -/

/-- The objects that an upload writes. -/
def writtenKeys (image : ProductImage) : List String :=
  variantNames.map (variantKey image.storageKey · "webp")

/-- The stored objects are those of the rows, and to delete an image takes away
exactly those that its upload wrote. -/
structure NoOrphans (outside : Outside) (state : MediaState) : Prop where
  tidy : Tidy state
  exactly : ∀ image ∈ state.images.rows, (perform outside state (.deleteImage image.id)).storage =
      state.storage.filter (· ∉ writtenKeys image)

/-- An upload that stores an image is one of a WebP file. -/
def StoredAsWebp (outside : Outside) (state : MediaState) : Call → Prop
  | .processQueuedImage _ job => Stores outside state job → job.mimetype = "image/webp"
  | .deleteImage _ => True
  | .deleteProductImages _ => True

structure Kept (state : MediaState) : Prop where
  tidy : Tidy state
  placed : Placed state
  webp : ∀ image ∈ state.images.rows, image.format = .webp

theorem getFormatFromMimeType_eq_webp {mimeType : String} :
    getFormatFromMimeType mimeType = .webp ↔ mimeType = "image/webp" := by
  grind [getFormatFromMimeType]

theorem kept_empty : Kept {} where
  tidy key := by simp
  placed := ⟨by simp, by simp⟩
  webp := by simp

theorem upload_kept (kept : Kept state) (now : ℕ) (stores : Stores outside state job) :
    (Tidy (perform outside state (.processQueuedImage now job)) → job.mimetype = "image/webp") ∧
    (job.mimetype = "image/webp" →
      Kept (perform outside state (.processQueuedImage now job))) := by
  obtain ⟨image, performed, new, product, format, key⟩ := upload_stores now stores
  have fresh : ∀ other ∈ state.images.rows, other.storageKey ≠ image.storageKey := by
    rw [key]
    exact fresh_baseKey kept.placed now stores
  have tidy := tidy_withImage kept.tidy new fresh
  rw [format, getFormatFromMimeType_eq_webp] at tidy
  rw [performed]
  refine ⟨tidy.mp, fun webp => ⟨tidy.mpr webp, ?_, ?_⟩⟩
  · refine placed_withImage kept.placed new ?_ fresh
    obtain ⟨front, back, is, noSlash⟩ := toList_baseKeyOf outside now job.productId job.originalname
      (outside.sha256 (outside.decodeBase64 job.bufferBase64))
    rw [key, product]
    exact ⟨_, noSlash, is⟩
  · intro row there
    rcases (mem_withImage new).mp there with old | rfl
    · exact kept.webp row old
    · exact format.trans (getFormatFromMimeType_eq_webp.mpr webp)

theorem kept_withoutImages (kept : Kept state) (stored : ∀ row ∈ rows, row ∈ state.images.rows) :
    Kept (withoutImages state rows) where
  tidy := tidy_withoutImages kept.tidy kept.placed stored
  placed := placed_withoutImages kept.placed rows
  webp row there := kept.webp row (mem_withoutImages.mp there).1

theorem perform_kept (state : MediaState) (call : Call) (kept : Kept state)
    (condition : StoredAsWebp outside state call) :
    Kept (perform outside state call) := by
  cases call with
  | processQueuedImage now job =>
    by_cases stores : Stores outside state job
    · exact (upload_kept kept now stores).2 (condition stores)
    · rw [upload_skips now stores]
      exact kept
  | deleteImage id => grind [deleteImage_apply, kept_withoutImages, Table.mem_rows_of_row]
  | deleteProductImages productId => simp_all [deleteProductImages_apply, kept_withoutImages]

theorem storedAsWebp_of_tidy (state : MediaState) (call : Call)
    (kept : Kept state) (after : Tidy (perform outside state call)) :
    StoredAsWebp outside state call := by
  cases call with
  | processQueuedImage now job => exact fun stores => (upload_kept kept now stores).1 after
  | deleteImage => trivial
  | deleteProductImages => trivial

theorem noOrphans_of_kept (state : MediaState) (kept : Kept state) :
    NoOrphans outside state where
  tidy := kept.tidy
  exactly image there := by
    have row : state.images.row image.id = some image := Table.mem_rows.mp there
    have keys : keysToDelete image = writtenKeys image := by
      rw [keysToDelete, kept.webp image there]
      rfl
    rw [deleteImage_apply, row, Option.toList_some, withoutImages, List.flatMap_singleton, keys]

/-- At all times the stored objects are those of the rows iff every upload that
is stored has the MIME type of WebP. -/
theorem no_orphans_iff (outside : Outside) (calls : List Call) :
    (∀ front back, calls = front ++ back → NoOrphans outside (run (perform outside) {} front)) ↔
      Along (perform outside) (StoredAsWebp outside) {} calls :=
  reached_iff_along_of_invariant noOrphans_of_kept (fun state call kept after =>
      storedAsWebp_of_tidy state call kept after.tidy)
    perform_kept kept_empty

/-! ### A photograph -/

def localOutside : Outside where
  toLowerCase text := text
  decodeBase64 _ := [0xFF, 0xD8, 0xFF]
  sha256 _ := 0
  validateImageContent _ := .ok ()
  optimized _ := .ok (1200, 800, 90000)
  getUrl key := "/uploads/" ++ key
  storageProvider := "local"

def photograph : ImageProcessingJobData where
  productId := "7"
  bufferBase64 := "/9j/"
  originalname := "photo.jpg"
  mimetype := "image/jpeg"
  displayOrder := 0

/-- The upload of a JPEG file and the deletion of the image: no row is left, and
the three objects that the upload wrote are still stored. -/
theorem photograph_orphaned :
    let uploaded := run (perform localOutside) {} [.processQueuedImage 0 photograph]
    let deleted := perform localOutside uploaded (.deleteImage 0)
    ¬ NoOrphans localOutside uploaded ∧ uploaded.images.rows.length = 1 ∧
      deleted.images.rows.length = 0 ∧ deleted.storage.card = 3 := by
  intro uploaded deleted
  have unlisted : ∃ key ∈ uploaded.storage,
      ¬ ∃ image ∈ uploaded.images.rows, key ∈ keysToDelete image := by decide
  obtain ⟨key, stored, unlisted⟩ := unlisted
  refine ⟨fun noOrphans => unlisted ((noOrphans.tidy key).mp stored), ?_⟩
  decide

end MarketX.Media
