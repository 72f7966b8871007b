/-
Module: MarketX.Verification.VerificationService
Purpose: Verifications of users (`verification/verification.service.ts`) and
  what the user rows say of them after each call.
Trusted boundary: human-reviewed model of the source; the clock is read once a
  call, requests come one after the other, and what storing a document answers
  is part of the request
Main exports: UserVerification, User, submitVerification, uploadDocuments
-/
import MarketX.Caching.OrderedMap
import MarketX.Commerce.CouponsService
import MarketX.Effects.Throwing
import MarketX.Numerals.Json
import MarketX.Security.Requests

namespace MarketX.Verification

open Caching Effects Effects.Writing Numerals
open Commerce (columnError)
open Security (includes)

/-! ### Entities -/

inductive VerificationType where
  | email
  | phone
  | identity
  | seller
  | business
deriving DecidableEq

inductive VerificationStatus where
  | pending
  | underReview
  | verified
  | rejected
  | expired
  | requiresAction
deriving DecidableEq

inductive VerificationLevel where
  | basic
  | standard
  | premium
  | verifiedSeller
deriving DecidableEq

inductive VerificationStep where
  | personalInfo
  | documentUpload
  | businessVerification
  | adminReview
  | completed
deriving DecidableEq

inductive DocumentType where
  | idCard
  | passport
  | driversLicense
  | businessLicense
  | taxDocument
  | addressProof
  | bankStatement
deriving DecidableEq

structure PersonalInfo where
  firstName : String
  lastName : String
  dateOfBirth : String
  address : String
  city : String
  country : String
  postalCode : String

structure BusinessInfo where
  businessName : String
  businessType : String
  registrationNumber : String
  taxId : String
  businessAddress : String
  website : Option String := none
  description : Option String := none

structure Document where
  url : String
  type : DocumentType
  uploadedAt : Date
  verified : Bool
  iv : Option String := none
  authTag : Option String := none

abbrev Documents := OrderedMap DocumentType Document

abbrev Metadata := OrderedMap String Json

structure UserVerification where
  id : Id
  userId : Id
  verificationType : VerificationType
  status : VerificationStatus := .pending
  level : VerificationLevel := .basic
  currentStep : VerificationStep := .personalInfo
  personalInfo : Option PersonalInfo := none
  businessInfo : Option BusinessInfo := none
  documents : Option Documents := none
  adminNotes : Option String := none
  rejectionReason : Option String := none
  expiresAt : Option Date := none
  reviewedBy : Option Id := none
  verifiedAt : Option Date := none
  retryCount : ℕ := 0
  metadata : Option Metadata := none

/-- The columns of a user that are about verifications. -/
structure User where
  id : Id
  verificationStatus : Option VerificationStatus := none
  verificationLevel : VerificationLevel := .basic
  isVerifiedSeller : Bool := false
  verificationExpiryAt : Option Date := none
  trustScore : ℕ := 0

instance : Keyed UserVerification := ⟨UserVerification.id⟩
instance : Keyed User := ⟨User.id⟩

structure Database where
  verifications : Table UserVerification := .empty
  users : Table User := .empty

abbrev Verifications := Writing Database HttpException

/-! ### The user row -/

/-- `status === VERIFIED && (!expiresAt || expiresAt > new Date())`. -/
def UserVerification.isValid (now : Date) (row : UserVerification) : Bool :=
  row.status = .verified && row.expiresAt.all (now < ·)

def Database.verificationsOf (db : Database) (userId : Id) :
    List UserVerification := db.verifications.rows.filter fun row => row.userId = userId

/-- `update` of the row of a user, if there is one. -/
def Database.updateUser (db : Database) (userId : Id) (set : User → User) :
    Database :=
  match db.users.row userId with
  | some user => { db with users := db.users.save (set user) }
  | none => db

/-- What a verification of a type counts. -/
def VerificationType.weight : VerificationType → ℕ
  | .email => 10
  | .phone => 20
  | .identity => 40
  | .seller => 60
  | .business => 50

def trustScore (now : Date) (verifications : List UserVerification) : ℕ :=
  ((verifications.filter (·.isValid now)).map fun row => row.verificationType.weight).sum

def calculateTrustScore (now : Date) (userId : Id) (db : Database) :
    ℕ × Database :=
  let score := trustScore now (db.verificationsOf userId)
  (score, db.updateUser userId fun user => { user with trustScore := score })

def getHighestVerificationLevel (now : Date)
    (verifications : List UserVerification) : VerificationLevel :=
  let validVerifications := verifications.filter (·.isValid now)
  let has (type : VerificationType) : Bool := validVerifications.any (·.verificationType = type)
  if has .seller then .verifiedSeller
  else if has .identity then .premium
  else if has .phone then .standard
  else .basic

/-- The rows are taken by their status alone. -/
def getEarliestExpiryDate (verifications : List UserVerification) :
    Option Date :=
  ((verifications.filter fun row => row.status = .verified).filterMap
    UserVerification.expiresAt).min?

def updateUserVerificationStatus (now : Date) (userId : Id) (db : Database) :
    Database :=
  let verifications := db.verificationsOf userId
  let hasValidVerification := verifications.any (·.isValid now)
  let isVerifiedSeller := verifications.any fun row =>
    row.verificationType = .seller && row.isValid now
  let highestLevel := getHighestVerificationLevel now verifications
  let (trustScore, db) := calculateTrustScore now userId db
  db.updateUser userId fun user =>
    { user with
      verificationStatus :=
        some (if hasValidVerification then .verified else .pending)
      verificationLevel := highestLevel
      isVerifiedSeller
      trustScore
      -- a value that is `undefined` is left out of the update
      verificationExpiryAt :=
        (getEarliestExpiryDate verifications).or user.verificationExpiryAt }

/-- Save a verification and bring the row of its user up to date. -/
def saveAndUpdate (now : Date) (verification : UserVerification) :
    Verifications Unit := modify fun db => updateUserVerificationStatus now verification.userId
    { db with verifications := db.verifications.save verification }

/-! ### Submission -/

structure DocumentUploadDto where
  documentType : DocumentType
  documentUrl : String
  filename : String

structure SubmitVerificationDto where
  verificationType : VerificationType
  personalInfo : Option PersonalInfo := none
  businessInfo : Option BusinessInfo := none
  documents : Option (List DocumentUploadDto) := none

/-- What is submitted, step by step. -/
def submitted (now : Date) (dto : SubmitVerificationDto)
    (verification : UserVerification) : UserVerification :=
  let verification :=
    match dto.personalInfo with
    | some personalInfo =>
      { verification with
        personalInfo
        currentStep := VerificationStep.documentUpload }
    | none => verification
  let verification :=
    match dto.verificationType, dto.businessInfo with
    | .seller, some businessInfo =>
      { verification with
        businessInfo
        currentStep := VerificationStep.documentUpload }
    | _, _ => verification
  match dto.documents with
  | some (first :: others) =>
    let documents := (first :: others).foldl (fun documents doc =>
      documents.set doc.documentType
        { url := doc.documentUrl
          type := doc.documentType
          uploadedAt := now
          verified := false }) (verification.documents.getD .empty)
    { verification with
      documents
      currentStep := .adminReview
      status := .underReview }
  | _ => verification

def submitVerification (now : Date) (userId : Id)
    (dto : SubmitVerificationDto) : Verifications Unit := do
  let db ← get
  let existing := db.verifications.rows.find? fun row =>
    row.userId = userId ∧ row.verificationType = dto.verificationType
  match existing with
  | some row =>
    if row.status = .verified then
      throw (.badRequest "User is already verified for this type")
    saveAndUpdate now (submitted now dto row)
  | none =>
    -- the foreign key
    if (db.users.row userId).isNone then throw columnError
    saveAndUpdate now (submitted now dto
      { id := db.verifications.next
        userId
        verificationType := dto.verificationType
        status := .pending
        currentStep := .personalInfo
        level := .basic })

/-! ### Upload -/

structure DocumentMetadata where
  filename : String
  uploadedAt : Date
  iv : Option String
  authTag : Option String

/-- A file, and what storing it encrypted comes to. -/
structure UploadedFile where
  originalname : String
  stored : Except HttpException DocumentMetadata

-- `toLowerCase()` of the runtime
variable (toLowerCase : String → String)

def getDocumentTypeFromFilename (filename : String) : DocumentType :=
  let lowerFilename := toLowerCase filename
  if includes lowerFilename "passport" then .passport
  else if includes lowerFilename "driver" || includes lowerFilename "license"
    then .driversLicense
  else if includes lowerFilename "business" || includes lowerFilename "license"
    then .businessLicense
  else if includes lowerFilename "tax" then .taxDocument
  else if includes lowerFilename "bank" then .bankStatement
  else if includes lowerFilename "address" then .addressProof
  else .idCard

/-- The documents with one more file. -/
def addFile (documents : Documents) (file : UploadedFile) :
    Except HttpException Documents := do
  let documentType := getDocumentTypeFromFilename toLowerCase file.originalname
  let metadata ← file.stored
  pure (documents.set documentType
    { url := metadata.filename
      type := documentType
      uploadedAt := metadata.uploadedAt
      verified := false
      iv := metadata.iv
      authTag := metadata.authTag })

def uploadDocuments (now : Date) (userId verificationId : Id)
    (files : List UploadedFile) : Verifications Unit := do
  let db ← get
  match (db.verifications.row verificationId).filter (·.userId = userId) with
  | none => throw (.notFound "Verification not found")
  | some verification =>
    if verification.status = .verified then
      throw (.badRequest "Cannot upload documents for a verified account")
    let documents ← liftM (files.foldlM (addFile toLowerCase) (verification.documents.getD .empty))
    saveAndUpdate now
      { verification with
        documents
        currentStep := .adminReview
        status := .underReview }

/-! ### Review -/

structure AdminReviewDto where
  verificationId : Id
  action : VerificationStatus
  adminNotes : Option String := none
  rejectionReason : Option String := none
  verificationLevel : Option VerificationLevel := none
  expiresInSeconds : Option ℚ := none
  metadata : Option Metadata := none

/-- `new Date(x)` of a number of milliseconds, unless it is invalid. -/
def dateOf (x : ℚ) : Option Date :=
  let milliseconds := if 0 ≤ x then ⌊x⌋ else ⌈x⌉
  if |milliseconds| ≤ 8640000000000000 then some milliseconds else none

/-- When a verification expires; zero seconds count as none given. -/
def expiryOf (now : Date) (expiresInSeconds : Option ℚ) : Option Date :=
  let expiryDays := (expiresInSeconds.filter (· ≠ 0)).getD (365 * 24 * 60 * 60)
  dateOf (now + expiryDays * 1000)

/-- The verification after the review; without a result, the date it has is
invalid. -/
def reviewed (now : Date) (adminId : Id) (dto : AdminReviewDto)
    (verification : UserVerification) : Option UserVerification := do
  let verification :=
    { verification with
      status := dto.action
      reviewedBy := adminId
      adminNotes := dto.adminNotes }
  let verification ←
    match dto.action with
    | .rejected =>
      pure
        { verification with
          rejectionReason := dto.rejectionReason
          retryCount := verification.retryCount + 1 }
    | .verified => do
        let expiresAt ← expiryOf now dto.expiresInSeconds
        pure
          { verification with
            verifiedAt := now
            level := dto.verificationLevel.getD .verifiedSeller
            expiresAt }
    | _ => pure verification
  match dto.metadata with
  | some metadata =>
    pure
      { verification with
        metadata := some (metadata.entries.foldl
          (fun all entry => all.set entry.1 entry.2)
          (verification.metadata.getD .empty)) }
  | none => pure verification

def adminReview (now : Date) (adminId : Id) (dto : AdminReviewDto) :
    Verifications Unit := do
  let db ← get
  match db.verifications.row dto.verificationId with
  | none => throw (.notFound "Verification not found")
  | some verification =>
    match reviewed now adminId dto verification with
    | none => throw columnError
    | some verification =>
      -- the foreign key
      if (db.users.row adminId).isNone then throw columnError
      saveAndUpdate now verification

structure BulkReviewDto where
  verificationIds : List Id
  action : VerificationStatus
  adminNotes : Option String := none
  rejectionReason : Option String := none

/-- The review of one of them. -/
def BulkReviewDto.review (dto : BulkReviewDto) (verificationId : Id) :
    AdminReviewDto where
  verificationId
  action := dto.action
  adminNotes := dto.adminNotes
  rejectionReason := dto.rejectionReason

def Database.withIds (db : Database) (ids : List Id) : List UserVerification :=
  db.verifications.rows.filter fun row => row.id ∈ ids

def bulkReview (now : Date) (adminId : Id) (dto : BulkReviewDto) :
    Verifications Unit := do
  let db ← get
  (db.withIds dto.verificationIds).forM fun verification =>
    adminReview now adminId (dto.review verification.id)

/-! ### Expiry -/

/-- What the search for expired verifications finds. -/
def Database.expired (db : Database) (now : Date) : List UserVerification :=
  db.verifications.rows.filter fun row => row.status = .verified && row.expiresAt.any (· < now)

def checkExpiredVerifications (now : Date) : Verifications Unit := do
  let db ← get
  (db.expired now).forM fun verification =>
    saveAndUpdate now { verification with status := .expired }

end MarketX.Verification
