/-
Module: MarketX.Retention.PIIRetentionService
Purpose: The retention of personal data (`policy/pii-retention-policy.ts` and
  `policy/services/pii-retention.service.ts`): the rules, the queries for what
  is due under each of them, the legal holds with their cache, and the purge
  of what was found, batch by batch.
Trusted boundary: human-reviewed model of the source
Main exports: PIIDataType, PII_RETENTION_POLICY, PII_RETENTION_SCHEDULES, World
-/
import Mathlib.Algebra.Ring.Int.Defs
import MarketX.Caching.Store
import MarketX.Common.Service
import MarketX.Effects.Table

namespace MarketX.Retention

open Effects

/-! ### The policy -/

inductive PIIDataType where
  | email
  | phone
  | name
  | address
  | ipAddress
  | financialData
  | communicationPreferences
  | verificationDocuments
  | transactionHistory
  | supportTickets
  | auditLogs
  | analyticsData
deriving DecidableEq

def PIIDataType.text : PIIDataType → String
  | .email => "email"
  | .phone => "phone"
  | .name => "name"
  | .address => "address"
  | .ipAddress => "ip_address"
  | .financialData => "financial_data"
  | .communicationPreferences => "communication_preferences"
  | .verificationDocuments => "verification_documents"
  | .transactionHistory => "transaction_history"
  | .supportTickets => "support_tickets"
  | .auditLogs => "audit_logs"
  | .analyticsData => "analytics_data"

inductive RetentionTrigger where
  | accountDeletion
  | accountInactive
  | legalHold
  | consentWithdrawn
  | businessNecessityExpired
  | regulatoryRequirement
deriving DecidableEq

inductive PurgeMethod where
  | softDelete
  | anonymize
  | secureDelete
  | archiveThenDelete
deriving DecidableEq

structure PIIRetentionRule where
  retentionPeriodDays : ℕ
  purgeMethod : PurgeMethod
  retentionTrigger : RetentionTrigger
  requiresLegalHold : Bool
deriving DecidableEq

def PII_RETENTION_POLICY : PIIDataType → PIIRetentionRule
  | .email => ⟨365, .anonymize, .accountInactive, true⟩
  | .phone => ⟨365, .anonymize, .accountInactive, true⟩
  | .name => ⟨2555, .anonymize, .accountDeletion, true⟩
  | .address => ⟨1825, .anonymize, .businessNecessityExpired, true⟩
  | .ipAddress => ⟨90, .secureDelete, .regulatoryRequirement, false⟩
  | .financialData =>
    ⟨2555, .archiveThenDelete, .businessNecessityExpired, true⟩
  | .communicationPreferences =>
    ⟨365, .secureDelete, .consentWithdrawn, false⟩
  | .verificationDocuments =>
    ⟨1825, .secureDelete, .businessNecessityExpired, true⟩
  | .transactionHistory =>
    ⟨2555, .archiveThenDelete, .businessNecessityExpired, true⟩
  | .supportTickets => ⟨1825, .anonymize, .businessNecessityExpired, false⟩
  | .auditLogs => ⟨2555, .secureDelete, .regulatoryRequirement, true⟩
  | .analyticsData => ⟨730, .anonymize, .businessNecessityExpired, false⟩

structure PIIRetentionSchedule where
  batchSize : ℕ
  retryDelayMinutes : ℕ
deriving DecidableEq

def PII_RETENTION_SCHEDULES : PIIDataType → PIIRetentionSchedule
  | .email => ⟨1000, 60⟩
  | .phone => ⟨1000, 60⟩
  | .name => ⟨500, 60⟩
  | .address => ⟨500, 60⟩
  | .ipAddress => ⟨5000, 30⟩
  | .financialData => ⟨100, 120⟩
  | .communicationPreferences => ⟨2000, 60⟩
  | .verificationDocuments => ⟨50, 120⟩
  | .transactionHistory => ⟨200, 120⟩
  | .supportTickets => ⟨500, 60⟩
  | .auditLogs => ⟨1000, 120⟩
  | .analyticsData => ⟨1000, 60⟩

theorem batchSize_pos (dataType : PIIDataType) :
    0 < (PII_RETENTION_SCHEDULES dataType).batchSize := by
  cases dataType <;> decide

/-! ### The rows -/

inductive UserStatus where
  | active
  | inactive
  | suspended
  | deleted
  | locked
deriving DecidableEq

structure User where
  id : Id
  email : String
  firstName : String
  lastName : String
  phoneNumber : Option String
  status : UserStatus
  createdAt : Date
  deletedAt : Option Date
deriving DecidableEq

instance : Keyed User := ⟨User.id⟩

structure LoginLog where
  id : Id
  userId : Id
  ipAddress : Option String
  createdAt : Date
deriving DecidableEq

structure FinancialRecord where
  id : Id
  userId : Id
  paymentMethod : Option String
  amount : Amount
  createdAt : Date
  archived : Bool
deriving DecidableEq

structure CommunicationPreferences where
  id : Id
  userId : Id
  emailPreferences : Option String
  smsPreferences : Option String
  updatedAt : Date
  consentWithdrawn : Bool
deriving DecidableEq

structure LegalHold where
  userId : Id
  dataType : PIIDataType
  isActive : Bool
  expiresAt : Option Date
deriving DecidableEq

/-- What one of the queries returns. -/
inductive PIIRecord where
  | ofUser (user : User)
  | ofLoginLog (log : LoginLog)
  | ofFinancialRecord (record : FinancialRecord)
  | ofPreferences (preferences : CommunicationPreferences)
deriving DecidableEq

def PIIRecord.id : PIIRecord → Id
  | .ofUser user => user.id
  | .ofLoginLog log => log.id
  | .ofFinancialRecord record => record.id
  | .ofPreferences preferences => preferences.id

/-- `record.user_id || record.id`. -/
def PIIRecord.owner : PIIRecord → Id
  | .ofUser user => user.id
  | .ofLoginLog log => log.userId
  | .ofFinancialRecord record => record.userId
  | .ofPreferences preferences => preferences.userId

/-- What is purged: a text, or the JSON of an object with two members. -/
inductive PIIValue where
  | text (text : String)
  | payment (paymentMethod : Option String) (amount : Amount)
  | consents (email sms : Option String)
deriving DecidableEq

structure PIIPurgeRecord where
  id : String
  userId : Id
  dataType : PIIDataType
  originalValue : PIIValue
  purgeMethod : PurgeMethod
  purgedAt : Date
  purgedBy : String
  retentionTrigger : RetentionTrigger
deriving DecidableEq

structure PIIArchive where
  dataType : PIIDataType
  userId : Id
  originalRecord : PIIRecord
  purgeRecord : PIIPurgeRecord
  archivedAt : Date
deriving DecidableEq

/-- The columns an `update` of a user sets. -/
structure UserChanges where
  email : Option String := none
  firstName : Option String := none
  lastName : Option String := none
  phoneNumber : Option (Option String) := none
  status : Option UserStatus := none
deriving DecidableEq

def UserChanges.apply (changes : UserChanges) (user : User) : User :=
  { user with
    email := changes.email.getD user.email
    firstName := changes.firstName.getD user.firstName
    lastName := changes.lastName.getD user.lastName
    phoneNumber := changes.phoneNumber.getD user.phoneNumber
    status := changes.status.getD user.status }

/-! ### The state -/

/-- The tables, the cache, the clock, and the digits that are drawn at random.
`purged` lists the owners of the rows that have been updated, archived or
deleted, for the statements only. -/
structure World where
  users : Table User
  loginLogs : List LoginLog
  financialRecords : List FinancialRecord
  preferences : List CommunicationPreferences
  holds : List LegalHold
  archives : List PIIArchive
  purgeLog : List PIIPurgeRecord
  cache : Caching.Store String (List Id) Date
  now : Date
  random : ℕ → String
  drawn : ℕ
  purged : List Id

namespace World

variable (world : World)

/-- A query that does not ask for the soft-deleted users does not see
them. -/
def undeleted : List User := world.users.rows.filter fun user => user.deletedAt = none

/-- Created before the cutoff, and inactive, deleted or suspended. -/
def dormant (cutoffDate : Date) : List User := world.undeleted.filter fun user =>
    user.createdAt < cutoffDate ∧ user.status ∈ [UserStatus.inactive, .deleted, .suspended]

def dueLoginLogs (cutoffDate : Date) : List LoginLog :=
  (world.loginLogs.filter fun log => log.createdAt < cutoffDate ∧ log.ipAddress.isSome).take 1000

def dueFinancialRecords (cutoffDate : Date) : List FinancialRecord :=
  (world.financialRecords.filter fun record =>
    record.createdAt < cutoffDate ∧ record.archived = false).take 100

def duePreferences (cutoffDate : Date) : List CommunicationPreferences :=
  (world.preferences.filter fun preferences =>
    preferences.updatedAt < cutoffDate ∧ preferences.consentWithdrawn = true).take 2000

/-- The holds of a type that are in force. -/
def activeHolds (dataType : PIIDataType) : List LegalHold := world.holds.filter fun hold =>
    hold.dataType = dataType ∧ hold.isActive = true ∧
      ∀ expiresAt ∈ hold.expiresAt, world.now < expiresAt

def updateUser (id : Id) (changes : UserChanges) : World :=
  match world.users.row id with
  | none => world
  | some user =>
    { world with
      users := world.users.save (changes.apply user)
      purged := world.purged ++ [id] }

def deleteLoginLog (id : Id) : World :=
  { world with
    loginLogs := world.loginLogs.filter fun log => log.id ≠ id
    purged := world.purged ++
      (world.loginLogs.filter fun log => log.id = id).map LoginLog.userId }

def deletePreferences (id : Id) : World :=
  { world with
    preferences := world.preferences.filter fun row => row.id ≠ id
    purged := world.purged ++
      (world.preferences.filter fun row => row.id = id).map
        CommunicationPreferences.userId }

def insertArchive (archive : PIIArchive) : World :=
  { world with
    archives := world.archives ++ [archive]
    purged := world.purged ++ [archive.userId] }

end World

/-! ### The effects -/

/-- An `info` of a logger that has none throws. -/
inductive Op where
  | findDormantUsers (cutoffDate : Date) (legalHoldUsers : List Id)
  | findUsersWithPhone (cutoffDate : Date)
  | findDeletedUsers (cutoffDate : Date)
  | findLoginLogs (cutoffDate : Date)
  | findFinancialRecords (cutoffDate : Date)
  | findPreferences (cutoffDate : Date)
  | findHolders (dataType : PIIDataType)
  | cacheGet (key : String)
  | cacheSet (key : String) (userIds : List Id) (ttl : Date)
  | updateUser (id : Id) (changes : UserChanges)
  | deleteLoginLog (id : Id)
  | deletePreferences (id : Id)
  | insertArchive (archive : PIIArchive)
  | insertPurgeLog (record : PIIPurgeRecord)
  | info (message : String)
  | delay (milliseconds : ℕ)
  | dateNow
  | random

@[reducible] def Reply : Op → Type
  | .findDormantUsers _ _ | .findUsersWithPhone _ | .findDeletedUsers _ => List User
  | .findLoginLogs _ => List LoginLog
  | .findFinancialRecords _ => List FinancialRecord
  | .findPreferences _ => List CommunicationPreferences
  | .findHolders _ => List Id
  | .cacheGet _ => Option (List Id)
  | .dateNow => Date
  | .random => String
  | _ => Unit

/-- An address drawn at random that another user has is among the failures of
an update. -/
def act : (op : Op) → World → Reply op × World
  | .findDormantUsers cutoffDate legalHoldUsers, world =>
    ((world.dormant cutoffDate).filter fun user => user.id ∉ legalHoldUsers, world)
  | .findUsersWithPhone cutoffDate, world =>
    ((world.dormant cutoffDate).filter fun user => user.phoneNumber.isSome, world)
  | .findDeletedUsers cutoffDate, world =>
    (world.undeleted.filter fun user => user.deletedAt.any (· < cutoffDate), world)
  | .findLoginLogs cutoffDate, world => (world.dueLoginLogs cutoffDate, world)
  | .findFinancialRecords cutoffDate, world =>
    (world.dueFinancialRecords cutoffDate, world)
  | .findPreferences cutoffDate, world =>
    (world.duePreferences cutoffDate, world)
  | .findHolders dataType, world =>
    (((world.activeHolds dataType).map LegalHold.userId).dedup, world)
  | .cacheGet key, world => (world.cache.get world.now key, world)
  | .cacheSet key userIds ttl, world =>
    ((), { world with cache := world.cache.set world.now key userIds ttl })
  | .updateUser id changes, world => ((), world.updateUser id changes)
  | .deleteLoginLog id, world => ((), world.deleteLoginLog id)
  | .deletePreferences id, world => ((), world.deletePreferences id)
  | .insertArchive archive, world => ((), world.insertArchive archive)
  | .insertPurgeLog record, world =>
    ((), { world with purgeLog := world.purgeLog ++ [record] })
  | .info _, world => ((), world)
  | .delay milliseconds, world =>
    ((), { world with now := world.now + milliseconds })
  | .dateNow, world => (world.now, world)
  | .random, world =>
    (world.random world.drawn, { world with drawn := world.drawn + 1 })

def mayFail : Op → Bool
  | .delay _ | .dateNow | .random => false
  | _ => true

abbrev signature : Signature := ⟨Op, Reply⟩

def retention : Handler signature World := ⟨act, mayFail⟩

abbrev Service (α : Type) := Program signature HttpException α

def await (op : Op) : Service (Reply op) := Program.perform (S := signature) op

abbrev userRepository.update (id : Id) (changes : UserChanges) :
    Service Unit := await (.updateUser id changes)

abbrev logger.info (message : String) : Service Unit := await (.info message)

abbrev dateNow : Service Date := await .dateNow

/-! ### The service -/

/-- A date so many days earlier, in the time zone of the process:
`setDate`. -/
abbrev Calendar := Date → ℕ → Date

namespace PIIRetentionService

variable (subDays : Calendar)

def legalHoldCachePrefix : String := "legal_hold:"

def getUsersWithLegalHolds (dataType : PIIDataType) : Service (List Id) := do
  let cacheKey := legalHoldCachePrefix ++ dataType.text
  match ← await (.cacheGet cacheKey) with
  | some cached => pure cached
  | none =>
    let userIds ← await (.findHolders dataType)
    await (.cacheSet cacheKey userIds 3600)
    pure userIds

def findEmailsForPurge (cutoffDate : Date) (rule : PIIRetentionRule) :
    Service (List User) := do
  if rule.requiresLegalHold = true then
    let usersWithLegalHolds ← getUsersWithLegalHolds .email
    await (.findDormantUsers cutoffDate usersWithLegalHolds)
  else
    await (.findDormantUsers cutoffDate [])

def findPhoneNumbersForPurge (cutoffDate : Date) (_ : PIIRetentionRule) :
    Service (List User) := await (.findUsersWithPhone cutoffDate)

def findNamesForPurge (cutoffDate : Date) (_ : PIIRetentionRule) :
    Service (List User) := await (.findDeletedUsers cutoffDate)

def findIPAddressesForPurge (cutoffDate : Date) (_ : PIIRetentionRule) :
    Service (List LoginLog) := await (.findLoginLogs cutoffDate)

def findFinancialDataForPurge (cutoffDate : Date) (_ : PIIRetentionRule) :
    Service (List FinancialRecord) := await (.findFinancialRecords cutoffDate)

def findCommunicationPreferencesForPurge (cutoffDate : Date)
    (_ : PIIRetentionRule) : Service (List CommunicationPreferences) :=
  await (.findPreferences cutoffDate)

def findRecordsForPurge (dataType : PIIDataType) (rule : PIIRetentionRule) :
    Service (List PIIRecord) := do
  let now ← dateNow
  let cutoffDate := subDays now rule.retentionPeriodDays
  match dataType with
  | .email => do
      let found ← findEmailsForPurge cutoffDate rule
      pure (found.map .ofUser)
  | .phone => do
      let found ← findPhoneNumbersForPurge cutoffDate rule
      pure (found.map .ofUser)
  | .name => do
      let found ← findNamesForPurge cutoffDate rule
      pure (found.map .ofUser)
  | .ipAddress => do
      let found ← findIPAddressesForPurge cutoffDate rule
      pure (found.map .ofLoginLog)
  | .financialData => do
      let found ← findFinancialDataForPurge cutoffDate rule
      pure (found.map .ofFinancialRecord)
  | .communicationPreferences => do
      let found ← findCommunicationPreferencesForPurge cutoffDate rule
      pure (found.map .ofPreferences)
  | _ => pure []

/-- An empty text counts as no value. -/
def textValue (text : Option String) : Option PIIValue :=
  (text.filter (· ≠ "")).map .text

/-- The value of a record, unless it is missing or empty. -/
def extractPIIValue : PIIRecord → PIIDataType → Option PIIValue
  | .ofUser user, .email => textValue (some user.email)
  | .ofUser user, .phone => textValue user.phoneNumber
  | .ofUser user, .name => textValue (some s!"{user.firstName} {user.lastName}")
  | .ofLoginLog log, .ipAddress => textValue log.ipAddress
  | .ofFinancialRecord record, .financialData => some (.payment record.paymentMethod record.amount)
  | .ofPreferences preferences, .communicationPreferences =>
    some (.consents preferences.emailPreferences preferences.smsPreferences)
  | _, _ => none

def lastTen (text : String) : String := .ofList (text.toList.drop (text.length - 10))

def generateAnonymizedValue (dataType : PIIDataType) : Service String := do
  let timestamp ← dateNow
  let random ← await .random
  pure <|
    match dataType with
    | .email => s!"anonymous_{timestamp}_{random}@anonymized.local"
    | .phone => "+1" ++ lastTen (toString timestamp)
    | _ => s!"anonymous_{timestamp}_{random}"

def softDeleteRecord (record : PIIRecord) (dataType : PIIDataType)
    (purgeRecord : PIIPurgeRecord) : Service PIIPurgeRecord := do
  match dataType with
  | .email =>
    userRepository.update record.id
      { email := some s!"deleted_{record.id}@deleted.local"
        status := some .deleted }
  | .phone => userRepository.update record.id { phoneNumber := some none }
  | _ => pure ()
  pure purgeRecord

def anonymizeRecord (record : PIIRecord) (dataType : PIIDataType)
    (purgeRecord : PIIPurgeRecord) : Service PIIPurgeRecord := do
  let anonymizedValue ← generateAnonymizedValue dataType
  match dataType with
  | .email => userRepository.update record.id { email := some anonymizedValue }
  | .phone => userRepository.update record.id { phoneNumber := some (some anonymizedValue) }
  | .name =>
    userRepository.update record.id { firstName := some "Anonymous", lastName := some "User" }
  | _ => pure ()
  pure purgeRecord

def secureDeleteRecord (record : PIIRecord) (dataType : PIIDataType)
    (purgeRecord : PIIPurgeRecord) : Service PIIPurgeRecord := do
  match dataType with
  | .ipAddress => await (.deleteLoginLog record.id)
  | .communicationPreferences => await (.deletePreferences record.id)
  | _ => pure ()
  pure purgeRecord

def archiveRecord (record : PIIRecord) (dataType : PIIDataType)
    (purgeRecord : PIIPurgeRecord) : Service Unit := do
  let archivedAt ← dateNow
  await (.insertArchive
    { dataType
      userId := record.owner
      originalRecord := record
      purgeRecord
      archivedAt })

def archiveAndDeleteRecord (record : PIIRecord) (dataType : PIIDataType)
    (purgeRecord : PIIPurgeRecord) : Service PIIPurgeRecord := do
  archiveRecord record dataType purgeRecord
  let _ ← secureDeleteRecord record dataType purgeRecord
  pure purgeRecord

/-- The switch of `purgeRecord`. -/
def purgeBy (purgeMethod : PurgeMethod) (record : PIIRecord)
    (dataType : PIIDataType) (purgeRecord : PIIPurgeRecord) :
    Service PIIPurgeRecord :=
  match purgeMethod with
  | .softDelete => softDeleteRecord record dataType purgeRecord
  | .anonymize => anonymizeRecord record dataType purgeRecord
  | .secureDelete => secureDeleteRecord record dataType purgeRecord
  | .archiveThenDelete => archiveAndDeleteRecord record dataType purgeRecord

def purgeRecord (record : PIIRecord) (dataType : PIIDataType)
    (rule : PIIRetentionRule) : Service (Option PIIPurgeRecord) := do
  match extractPIIValue record dataType with
  | none => pure none
  | some originalValue =>
    let now ← dateNow
    let random ← await .random
    let purgedAt ← dateNow
    let purged ← purgeBy rule.purgeMethod record dataType
      { id := s!"purge_{now}_{random}"
        userId := record.owner
        dataType
        originalValue
        purgeMethod := rule.purgeMethod
        purgedAt
        purgedBy := "pii_retention_service"
        retentionTrigger := rule.retentionTrigger }
    pure (some purged)

def logPurgeRecords (purgeRecords : List PIIPurgeRecord) : Service Unit := do
  let _ ← Program.attempt do
    purgeRecords.forM fun record => await (.insertPurgeLog record)
    logger.info s!"Logged {purgeRecords.length} purge records"
  pure ()

/-- A record that throws is passed over. -/
def collectPurged (dataType : PIIDataType) (rule : PIIRetentionRule)
    (purgeRecords : List PIIPurgeRecord) (record : PIIRecord) :
    Service (List PIIPurgeRecord) := do
  match ← (purgeRecord record dataType rule).attempt with
  | .ok (some purged) => pure (purgeRecords ++ [purged])
  | _ => pure purgeRecords

def processBatch (records : List PIIRecord) (dataType : PIIDataType)
    (rule : PIIRetentionRule) : Service Unit := do
  let purgeRecords ← records.foldlM (collectPurged dataType rule) []
  if purgeRecords.length > 0 then
    logPurgeRecords purgeRecords
  else
    pure ()

/-- The number of batches: `i` runs through the multiples of the size below
the number of records. -/
def batchCount (records : List PIIRecord) (batchSize : ℕ) : ℕ :=
  (records.length + batchSize - 1) / batchSize

def batchAt (records : List PIIRecord) (batchSize index : ℕ) :
    List PIIRecord :=
  (records.drop (index * batchSize)).take batchSize

def processBatchAt (recordsToPurge : List PIIRecord) (dataType : PIIDataType)
    (index : ℕ) : Service Unit := do
  let schedule := PII_RETENTION_SCHEDULES dataType
  processBatch (batchAt recordsToPurge schedule.batchSize index) dataType
    (PII_RETENTION_POLICY dataType)
  if index * schedule.batchSize + schedule.batchSize < recordsToPurge.length
  then
    await (.delay (schedule.retryDelayMinutes * 60 * 1000))
  else
    pure ()

def processPIIRetentionForType (dataType : PIIDataType) : Service Unit := do
  let recordsToPurge ← findRecordsForPurge subDays dataType (PII_RETENTION_POLICY dataType)
  if recordsToPurge.length = 0 then
    pure ()
  else
    logger.info s!"Found {recordsToPurge.length} records to purge for {dataType.text}"
    (List.range (batchCount recordsToPurge (PII_RETENTION_SCHEDULES dataType).batchSize)).forM
      (processBatchAt recordsToPurge dataType)
    logger.info (s!"Successfully processed {recordsToPurge.length} records for " ++ dataType.text)

end PIIRetentionService

end MarketX.Retention
