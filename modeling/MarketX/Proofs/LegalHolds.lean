/-
Module: MarketX.Proofs.LegalHolds
Purpose: What a run of the retention purges, type by type, after any history
  of holds, lapses and runs: exactly when it leaves every user alone who is
  under an active hold for the type.
Trusted boundary: human-reviewed definition of Held, HoldsRespected, Event
  and happen
Main exports: Held, Untouched, selected, held_records_kept_iff
-/
import Mathlib.Data.List.Dedup
import MarketX.Effects.Respects
import MarketX.Retention.PIIRetentionService

namespace MarketX.Retention

open Effects PIIRetentionService

/-! ### What is purged -/

/-- The user is under an active hold for the type. -/
def Held (world : World) (dataType : PIIDataType) (userId : Id) : Prop :=
  ∃ hold ∈ world.activeHolds dataType, hold.userId = userId

instance (world : World) (dataType : PIIDataType) :
    DecidablePred (Held world dataType) := fun _ =>
  inferInstanceAs (Decidable (∃ hold ∈ world.activeHolds dataType, _))

/-- Everything about a user is as it was. -/
structure Untouched (userId : Id) (world after : World) : Prop where
  user : after.users.row userId = world.users.row userId
  loginLogs : after.loginLogs.filter (·.userId = userId) =
    world.loginLogs.filter (·.userId = userId)
  financialRecords : after.financialRecords = world.financialRecords
  preferences : after.preferences.filter (·.userId = userId) =
    world.preferences.filter (·.userId = userId)
  archives : after.archives.filter (·.userId = userId) = world.archives.filter (·.userId = userId)

theorem Untouched.refl (userId : Id) (world : World) :
    Untouched userId world world :=
  ⟨rfl, rfl, rfl, rfl, rfl⟩

variable {userId : Id} {world after : World} {α : Type}

theorem Untouched.trans {middle : World}
    (first : Untouched userId world middle) (second : Untouched userId middle after) :
    Untouched userId world after where
  user := second.user.trans first.user
  loginLogs := second.loginLogs.trans first.loginLogs
  financialRecords := second.financialRecords.trans first.financialRecords
  preferences := second.preferences.trans first.preferences
  archives := second.archives.trans first.archives

/-- How often rows of a user have been updated, archived or deleted. -/
def World.purges (world : World) (userId : Id) : ℕ := world.purged.count userId

/-- Purges are only added, the users stay, and a user about whom none is added
is untouched. -/
structure Accounted (world after : World) : Prop where
  grows : ∀ userId, world.purges userId ≤ after.purges userId
  users : ∀ userId, (world.users.row userId).isSome → (after.users.row userId).isSome
  untouched : ∀ userId, after.purges userId = world.purges userId → Untouched userId world after

instance : IsPreorder World Accounted where
  refl world := ⟨fun _ => le_rfl, fun _ => id, fun userId _ => .refl userId world⟩
  trans world middle after first second := by
    refine ⟨fun userId => (first.grows userId).trans (second.grows userId),
      fun userId present => second.users userId (first.users userId present), fun userId same => ?_⟩
    have below := first.grows userId
    have above := second.grows userId
    exact (first.untouched userId (by omega)).trans (second.untouched userId (by omega))

/-- The purges that are added are those of some owners, and others are left
alone. -/
theorem Accounted.of_owners (owners : List Id) (purged : after.purged = world.purged ++ owners)
    (users : ∀ userId, (world.users.row userId).isSome → (after.users.row userId).isSome)
    (untouched : ∀ userId, userId ∉ owners → Untouched userId world after) :
    Accounted world after := by
  have added (userId : Id) :
      after.purges userId = world.purges userId + owners.count userId := by
    rw [World.purges, purged, List.count_append, World.purges]
  refine ⟨fun userId => by rw [added]; omega, users, fun userId same => ?_⟩
  grind

theorem accounted_updateUser (world : World) (id : Id) (changes : UserChanges) :
    Accounted world (world.updateUser id changes) := by
  rw [World.updateUser]
  cases found : world.users.row id with
  | none => exact refl_of Accounted world
  | some user =>
    have keyed : user.id = id := world.users.keyed found
    refine .of_owners [id] rfl (fun userId present => ?_)
      fun userId other => ⟨?_, rfl, rfl, rfl, rfl⟩
    · grind [Table.row_save]
    · apply Table.row_save_of_ne
      show userId ≠ user.id
      simp_all

theorem filter_deleted (rows : List α) (owner id : α → Id) (deleted : Id)
    (other : userId ∉ (rows.filter (id · = deleted)).map owner) :
    (rows.filter (id · ≠ deleted)).filter (owner · = userId) = rows.filter (owner · = userId) := by
  rw [List.filter_filter]
  refine List.filter_congr fun row member => ?_
  grind

theorem accounted_act (op : Op) (world : World) :
    Accounted world (act op world).2 := by
  have unchanged {after : World} (purged : after.purged = world.purged)
      (users : after.users = world.users) (untouched : ∀ userId, Untouched userId world after) :
      Accounted world after := .of_owners [] (by rw [purged, List.append_nil])
      (fun userId => by rw [users]; exact id) fun userId _ => untouched userId
  cases op with
  | updateUser id changes => exact accounted_updateUser world id changes
  | deleteLoginLog logId =>
    exact .of_owners _ rfl (fun _ => id) fun userId other =>
      ⟨rfl, filter_deleted _ LoginLog.userId LoginLog.id _ other, rfl, rfl, rfl⟩
  | deletePreferences rowId =>
    exact .of_owners _ rfl (fun _ => id) fun userId other =>
      ⟨rfl, rfl, rfl, filter_deleted _ CommunicationPreferences.userId
        CommunicationPreferences.id _ other, rfl⟩
  | insertArchive archive =>
    refine .of_owners [archive.userId] rfl (fun _ => id) fun userId other =>
      ⟨rfl, rfl, rfl, rfl, ?_⟩
    have another : archive.userId ≠ userId :=
      fun same => other (List.mem_singleton.mpr same.symm)
    show (world.archives ++ [archive]).filter _ = _
    simp [another]
  | _ => exact unchanged rfl rfl fun userId => ⟨rfl, rfl, rfl, rfl, rfl⟩

/-! ### What is selected -/

section

variable (subDays : Calendar)

/-- The users the service takes to be under a hold: those that were when the
list was cached. -/
def knownHolders (world : World) (dataType : PIIDataType) : List Id :=
  (world.cache.get world.now (legalHoldCachePrefix ++ dataType.text)).getD
    ((world.activeHolds dataType).map LegalHold.userId).dedup

def cutoffOf (world : World) (dataType : PIIDataType) : Date :=
  subDays world.now (PII_RETENTION_POLICY dataType).retentionPeriodDays

/-- The records a run finds. -/
def selected (world : World) (dataType : PIIDataType) : List PIIRecord :=
  match dataType with
  | .email => ((world.dormant (cutoffOf subDays world .email)).filter
      fun user => user.id ∉ knownHolders world .email).map .ofUser
  | .phone => ((world.dormant (cutoffOf subDays world .phone)).filter
      fun user => user.phoneNumber.isSome).map .ofUser
  | .name => (world.undeleted.filter fun user =>
    user.deletedAt.any (· < cutoffOf subDays world .name)).map .ofUser
  | .ipAddress =>
    (world.dueLoginLogs (cutoffOf subDays world .ipAddress)).map .ofLoginLog
  | .financialData =>
    (world.dueFinancialRecords (cutoffOf subDays world .financialData)).map .ofFinancialRecord
  | .communicationPreferences =>
    (world.duePreferences (cutoffOf subDays world .communicationPreferences)).map .ofPreferences
  | _ => []

/-- A service that only reads or caches: it returns the value, or throws
because of a failure that is not excluded. -/
def Finds {α : Type} (spared : Op → Bool) (world : World) (value : α)
    (result : Except HttpException α) (after : World) : Prop :=
  after.purged = world.purged ∧ after.users = world.users ∧
    (result = .ok value ∨ result.isOk = false ∧ ∃ op, spared op = false)

theorem Finds.of_state {α : Type} {spared : Op → Bool} {world middle : World}
    {value : α} {result : Except HttpException α} {after : World}
    (purged : middle.purged = world.purged) (users : middle.users = world.users)
    (finds : Finds spared middle value result after) :
    Finds spared world value result after :=
  ⟨finds.1.trans purged, finds.2.1.trans users, finds.2.2⟩

section

variable {spared : Op → Bool} {world : World}

theorem wp_query {α : Type} (op : Op) (make : Reply op → α)
    (purged : (act op world).2.purged = world.purged)
    (users : (act op world).2.users = world.users) :
    (retention.shield spared).wp (await op >>= fun found => pure (make found))
      (Finds spared world (make (act op world).1)) world := by
  rw [Handler.wp_bind, await, Handler.wp_shield_perform]
  exact ⟨⟨purged, users, .inl rfl⟩, fun _ exposed _ =>
    ⟨rfl, rfl, .inr ⟨rfl, op, exposed⟩⟩⟩

theorem wp_getUsersWithLegalHolds (dataType : PIIDataType) :
    (retention.shield spared).wp (getUsersWithLegalHolds dataType)
      (Finds spared world (knownHolders world dataType)) world := by
  rw [getUsersWithLegalHolds, Handler.wp_bind, await, Handler.wp_shield_perform]
  refine ⟨?_, fun _ exposed _ => ⟨rfl, rfl, .inr ⟨rfl, _, exposed⟩⟩⟩
  rw [Handler.andThen_ok, knownHolders]
  have read : (retention.act (.cacheGet (legalHoldCachePrefix ++ dataType.text)) world).1 =
      world.cache.get world.now (legalHoldCachePrefix ++ dataType.text) := rfl
  rw [read]
  cases world.cache.get world.now (legalHoldCachePrefix ++ dataType.text) with
  | some cached => exact ⟨rfl, rfl, .inl rfl⟩
  | none =>
    rw [Handler.wp_bind, await, Handler.wp_shield_perform]
    refine ⟨?_, fun _ exposed _ => ⟨rfl, rfl, .inr ⟨rfl, _, exposed⟩⟩⟩
    exact wp_query (.cacheSet _ _ _) (fun _ => _) rfl rfl

variable (spared world) in
theorem wp_findRecordsForPurge (dataType : PIIDataType) :
    (retention.shield spared).wp
      (findRecordsForPurge subDays dataType (PII_RETENTION_POLICY dataType))
      (Finds spared world (selected subDays world dataType)) world := by
  refine ⟨?_, nofun⟩
  cases dataType with
  | email =>
    show (retention.shield spared).wp ((getUsersWithLegalHolds .email >>= fun holders =>
        await (.findDormantUsers (cutoffOf subDays world .email) holders))
        >>= fun found => pure (found.map PIIRecord.ofUser)) _ world
    rw [Program.bind_assoc, Handler.wp_bind]
    apply Handler.wp_mono _ (wp_getUsersWithLegalHolds .email)
    rintro result middle ⟨purged, users, outcome⟩
    rcases outcome with rfl | ⟨throws, exposed⟩
    · apply Handler.wp_mono _ (wp_query (.findDormantUsers _ _) _ rfl rfl)
      intro result after finds
      have undeleted : middle.undeleted = world.undeleted := by
        rw [World.undeleted, users, World.undeleted]
      have dormant : middle.dormant = world.dormant := by grind [World.dormant]
      simp only [act, dormant] at finds
      exact finds.of_state purged users
    · cases result with
      | ok holders => cases throws
      | error error => exact ⟨purged, users, .inr ⟨rfl, exposed⟩⟩
  | phone => exact wp_query (.findUsersWithPhone _) _ rfl rfl
  | name => exact wp_query (.findDeletedUsers _) _ rfl rfl
  | ipAddress => exact wp_query (.findLoginLogs _) _ rfl rfl
  | financialData => exact wp_query (.findFinancialRecords _) _ rfl rfl
  | communicationPreferences => exact wp_query (.findPreferences _) _ rfl rfl
  | _ => exact ⟨rfl, rfl, .inl rfl⟩

end

end

/-! ### Users who are left alone -/

/-- Nothing about the user is purged. -/
def Spares (userId : Id) (world after : World) : Prop := after.purges userId = world.purges userId

instance (userId : Id) : IsPreorder World (Spares userId) where
  refl _ := rfl
  trans _ _ _ first second := Eq.trans second first

theorem respects_await {relation : World → World → Prop} [IsPreorder World relation] (op : Op)
    (moves : ∀ world, relation world (act op world).2) :
    retention.Respects relation (await op) := .perform (S := signature) op moves

section

variable {userId : Id}

theorem spares_updateUser {id : Id} (other : id ≠ userId) (changes : UserChanges) (world : World) :
    Spares userId world (world.updateUser id changes) := by
  rw [World.updateUser]
  cases world.users.row id with
  | none => rfl
  | some user =>
    show (world.purged ++ [id]).count userId = world.purged.count userId
    simp_all

variable {record : PIIRecord} {dataType : PIIDataType} {records : List PIIRecord}

theorem respects_anonymizeRecord
    (other : record.id ≠ userId) (dataType : PIIDataType) (purgeRecord : PIIPurgeRecord) :
    retention.Respects (Spares userId) (anonymizeRecord record dataType purgeRecord) := by
  have updates (changes : UserChanges) :
      retention.Respects (Spares userId) (userRepository.update record.id changes) :=
    respects_await (.updateUser record.id changes) (spares_updateUser other changes)
  refine .bind (.bind (respects_await .dateNow fun _ => rfl) fun _ =>
    .bind (respects_await .random fun _ => rfl) fun _ => .pure _)
    fun value => ?_
  cases dataType with
  | email | phone | name => exact .bind (updates _) fun _ => .pure _
  | _ => exact .pure purgeRecord

/-- Where a hold counts, what has a value is a user whose address, number or
name is anonymized, or a financial record that is archived. -/
theorem valued_cases (holdsCount : (PII_RETENTION_POLICY dataType).requiresLegalHold = true)
    (valued : (extractPIIValue record dataType).isSome) :
    ((PII_RETENTION_POLICY dataType).purgeMethod = .anonymize ∧
        dataType ∈ [PIIDataType.email, .phone, .name] ∧ record.id = record.owner) ∨
      (PII_RETENTION_POLICY dataType).purgeMethod = .archiveThenDelete ∧
        dataType = .financialData := by
  cases dataType with
  | email | phone | name =>
    cases record with
    | ofUser user => exact .inl ⟨rfl, by decide, rfl⟩
    | _ => cases valued
  | financialData => exact .inr ⟨rfl, rfl⟩
  | ipAddress | communicationPreferences | supportTickets | analyticsData =>
    cases holdsCount
  | address | verificationDocuments | transactionHistory | auditLogs =>
    cases record <;> cases valued

theorem respects_archiveRecord
    (other : record.owner ≠ userId) (dataType : PIIDataType) (purgeRecord : PIIPurgeRecord) :
    retention.Respects (Spares userId) (archiveRecord record dataType purgeRecord) := by
  refine .bind (respects_await .dateNow fun _ => rfl) fun archivedAt => ?_
  refine respects_await (.insertArchive _) fun world => ?_
  show (world.purged ++ [record.owner]).count userId = _
  rw [List.count_append, List.count_singleton, if_neg (by simpa)]
  rfl

/-- Where a hold counts, the purge of a record without a value, or of another
user's, leaves a user alone. -/
theorem respects_purgeRecord (holdsCount : (PII_RETENTION_POLICY dataType).requiresLegalHold = true)
    (other : (extractPIIValue record dataType).isSome → record.owner ≠ userId) :
    retention.Respects (Spares userId)
      (purgeRecord record dataType (PII_RETENTION_POLICY dataType)) := by
  rw [purgeRecord]
  cases value : extractPIIValue record dataType with
  | none => exact .pure none
  | some originalValue =>
    have valued : (extractPIIValue record dataType).isSome := by
      rw [value]
      rfl
    have another : record.owner ≠ userId := other valued
    refine .bind (respects_await .dateNow fun _ => rfl) fun now =>
      .bind (respects_await .random fun _ => rfl) fun random =>
      .bind (respects_await .dateNow fun _ => rfl) fun purgedAt =>
      .bind ?_ fun purged => .pure (some purged)
    rcases valued_cases holdsCount valued with
      ⟨method, -, same⟩ | ⟨method, rfl⟩
    · rw [method]
      exact respects_anonymizeRecord (by rwa [same]) _ _
    · exact .bind (respects_archiveRecord another _ _) fun _ => .bind (.pure _) fun _ => .pure _

theorem respects_logPurgeRecords (purgeRecords : List PIIPurgeRecord) :
    retention.Respects (Spares userId) (logPurgeRecords purgeRecords) := by
  refine .bind (.attempt (.bind (.forM (fun record => ?_) purgeRecords)
    fun _ => ?_)) fun _ => .pure ()
  · exact respects_await (.insertPurgeLog record) fun _ => rfl
  · exact respects_await (.info _) fun _ => rfl

theorem respects_processBatch
    (holdsCount : (PII_RETENTION_POLICY dataType).requiresLegalHold = true)
    (others : ∀ record ∈ records, (extractPIIValue record dataType).isSome →
      record.owner ≠ userId) :
    retention.Respects (Spares userId)
      (processBatch records dataType (PII_RETENTION_POLICY dataType)) := by
  refine .bind (.foldlM_of_mem (fun record member purgeRecords => ?_) []) fun purgeRecords =>
      .ite _ (respects_logPurgeRecords purgeRecords) (.pure ())
  refine .bind (.attempt (respects_purgeRecord holdsCount (others record member))) fun outcome => ?_
  rcases outcome with error | purged
  · exact .pure purgeRecords
  · cases purged <;> exact .pure _

theorem mem_of_mem_batchAt {batchSize index : ℕ}
    (member : record ∈ batchAt records batchSize index) : record ∈ records :=
  List.mem_of_mem_drop (List.mem_of_mem_take member)

theorem respects_processBatchAt
    (holdsCount : (PII_RETENTION_POLICY dataType).requiresLegalHold = true)
    (others : ∀ record ∈ records, (extractPIIValue record dataType).isSome →
      record.owner ≠ userId) (index : ℕ) :
    retention.Respects (Spares userId) (processBatchAt records dataType index) := by
  refine .bind (respects_processBatch holdsCount fun record member =>
    others record (mem_of_mem_batchAt member)) fun _ => ?_
  exact .ite _ (respects_await (.delay _) fun _ => rfl) (.pure ())

theorem spares_others (subDays : Calendar)
    (holdsCount : (PII_RETENTION_POLICY dataType).requiresLegalHold = true) (world : World)
    (others : ∀ record ∈ selected subDays world dataType,
      (extractPIIValue record dataType).isSome → record.owner ≠ userId) :
    retention.wp (processPIIRetentionForType subDays dataType)
      (fun _ after => Spares userId world after) world := by
  rw [processPIIRetentionForType, Handler.wp_bind]
  have finds := wp_findRecordsForPurge subDays (fun _ => false) world dataType
  rw [Handler.shield_none] at finds
  apply Handler.wp_mono _ finds
  rintro result middle ⟨purged, -, outcome⟩
  have reached : Spares userId world middle := by rw [Spares, World.purges, purged, World.purges]
  rcases outcome with rfl | ⟨throws, -⟩
  · apply Handler.Respects.wp _ reached
    refine .ite _ (.pure ()) (.bind (respects_await (.info _) fun _ => rfl)
      fun _ => .bind (.forM (respects_processBatchAt holdsCount others) _)
        fun _ => respects_await (.info _) fun _ => rfl)
  · cases result with
    | ok records => cases throws
    | error error => exact reached

end

/-! ### Users who are purged -/

def faultless : Handler signature World := retention.shield fun _ => true

theorem accounted_faultless (service : Service α) :
    faultless.Respects Accounted service := .of_acts accounted_act service

def PIIRecord.Present (world : World) : PIIRecord → Prop
  | .ofUser user => (world.users.row user.id).isSome
  | _ => True

theorem PIIRecord.Present.mono {record : PIIRecord}
    (present : record.Present world) (accounted : Accounted world after) :
    record.Present after := by
  cases record with
  | ofUser user => exact accounted.users user.id present
  | _ => trivial

theorem present_selected (subDays : Calendar) (world : World) (dataType : PIIDataType) :
    ∀ record ∈ selected subDays world dataType, record.Present world := by
  have undeleted {user : User} (member : user ∈ world.undeleted) :
      (PIIRecord.ofUser user).Present world := by
    have stored : world.users.row user.id = some user :=
      Table.mem_rows.mp (List.mem_of_mem_filter member)
    show (world.users.row user.id).isSome
    rw [stored]
    rfl
  intro record member
  cases dataType with
  | email | phone =>
    obtain ⟨user, found, rfl⟩ := List.mem_map.mp member
    exact undeleted (List.mem_of_mem_filter (List.mem_of_mem_filter found))
  | name =>
    obtain ⟨user, found, rfl⟩ := List.mem_map.mp member
    exact undeleted (List.mem_of_mem_filter found)
  | ipAddress | financialData | communicationPreferences =>
    obtain ⟨row, -, rfl⟩ := List.mem_map.mp member
    trivial
  | _ => cases member

/-- A purge that returns, with one more purge about a user. -/
def Purges (userId : Id) (world : World) {α : Type}
    (result : Except HttpException α) (after : World) : Prop :=
  result.isOk = true ∧ Accounted world after ∧ world.purges userId < after.purges userId

section

variable {world : World} {dataType : PIIDataType} {record : PIIRecord}

variable (world) in
theorem purges_updateUser {id : Id} (changes : UserChanges)
    (present : (world.users.row id).isSome) :
    world.purges id < (world.updateUser id changes).purges id := by
  obtain ⟨user, found⟩ := Option.isSome_iff_exists.mp present
  rw [World.updateUser, found]
  show world.purged.count id < (world.purged ++ [id]).count id
  simp_all

theorem purges_anonymizeRecord (anonymized : dataType ∈ [PIIDataType.email, .phone, .name])
    (present : (world.users.row record.id).isSome) (purgeRecord : PIIPurgeRecord) :
    faultless.wp (anonymizeRecord record dataType purgeRecord) (Purges record.id world) world := by
  have updates (changes : UserChanges) :
      Purges record.id world (.ok purgeRecord)
        ((act .random world).2.updateUser record.id changes) :=
    ⟨rfl, trans_of Accounted (accounted_act .random world)
      (accounted_updateUser _ record.id changes),
      purges_updateUser (act .random world).2 changes present⟩
  cases dataType with
  | email | phone | name => exact ⟨⟨⟨updates _, nofun⟩, nofun⟩, nofun⟩
  | _ => simp at anonymized

theorem purges_archiveRecord (purgeRecord : PIIPurgeRecord) :
    faultless.wp (archiveAndDeleteRecord record .financialData purgeRecord)
      (Purges record.owner world) world := by
  refine ⟨⟨⟨rfl, accounted_act (.insertArchive _) world, ?_⟩, nofun⟩, nofun⟩
  show world.purged.count record.owner < (world.purged ++ [record.owner]).count record.owner
  simp_all

theorem purges_purgeRecord (holdsCount : (PII_RETENTION_POLICY dataType).requiresLegalHold = true)
    (valued : (extractPIIValue record dataType).isSome) (present : record.Present world) :
    faultless.wp (purgeRecord record dataType (PII_RETENTION_POLICY dataType))
      (Purges record.owner world) world := by
  obtain ⟨originalValue, value⟩ := Option.isSome_iff_exists.mp valued
  rw [purgeRecord, value]
  refine ⟨⟨⟨?_, nofun⟩, nofun⟩, nofun⟩
  show faultless.wp (purgeBy _ _ _ _ >>= fun purged => pure (some purged)) _ (act .random world).2
  have drawn := accounted_act .random world
  rw [Handler.wp_bind]
  have purges (purgeRecord : PIIPurgeRecord) :
      faultless.wp (purgeBy (PII_RETENTION_POLICY dataType).purgeMethod record
        dataType purgeRecord) (Purges record.owner (act .random world).2)
        (act .random world).2 := by
    rcases valued_cases holdsCount valued with
      ⟨method, anonymized, same⟩ | ⟨method, rfl⟩
    · rw [method, ← same]
      refine purges_anonymizeRecord anonymized ?_ purgeRecord
      cases record with
      | ofUser user => exact present
      | _ => revert anonymized valued; cases dataType <;> simp [extractPIIValue]
    · exact purges_archiveRecord purgeRecord
  apply Handler.wp_mono _ (purges _)
  rintro result after ⟨returns, accounted, more⟩
  cases result with
  | error error => cases returns
  | ok purged => exact ⟨rfl, trans_of Accounted drawn accounted, more⟩

/-- The record has been purged since, if it has a value. -/
def PurgedSince (start : World) (dataType : PIIDataType) (record : PIIRecord)
    (world : World) : Prop :=
  (extractPIIValue record dataType).isSome → start.purges record.owner < world.purges record.owner

variable {start : World} {records : List PIIRecord}

theorem PurgedSince.stable (record : PIIRecord)
    (world after : World) (accounted : Accounted world after)
    (purged : PurgedSince start dataType record world) :
    PurgedSince start dataType record after :=
  fun valued => (purged valued).trans_le (accounted.grows record.owner)

theorem purges_collectPurged (holdsCount : (PII_RETENTION_POLICY dataType).requiresLegalHold = true)
    (present : record.Present start)
    (purgeRecords : List PIIPurgeRecord) (reached : Accounted start world) :
    faultless.wp (collectPurged dataType (PII_RETENTION_POLICY dataType) purgeRecords record)
      (fun result after => result.isOk = true ∧ Accounted world after ∧
        PurgedSince start dataType record after) world := by
  rw [collectPurged, Handler.wp_bind, Handler.wp_attempt]
  by_cases valued : (extractPIIValue record dataType).isSome
  · apply Handler.wp_mono _ (purges_purgeRecord holdsCount valued (present.mono reached))
    rintro result after ⟨returns, accounted, more⟩
    have purged : PurgedSince start dataType record after :=
      fun _ => (reached.grows record.owner).trans_lt more
    rcases result with error | purgeRecord
    · cases returns
    · cases purgeRecord <;> exact ⟨rfl, accounted, purged⟩
  · have missing : extractPIIValue record dataType = none := by simpa using valued
    rw [purgeRecord, missing]
    exact ⟨rfl, refl_of Accounted world, fun some => absurd some valued⟩

theorem purges_processBatch (holdsCount : (PII_RETENTION_POLICY dataType).requiresLegalHold = true)
    (present : ∀ record ∈ records, record.Present start)
    (reached : Accounted start world) :
    faultless.wp (processBatch records dataType (PII_RETENTION_POLICY dataType))
      (fun result after => result.isOk = true ∧ Accounted world after ∧
        ∀ record ∈ records, PurgedSince start dataType record after)
      world := by
  rw [processBatch, Handler.wp_bind]
  apply Handler.wp_mono _ (Handler.wp_foldlM_each (PurgedSince start dataType) PurgedSince.stable
    fun record member purgeRecords state moved =>
      purges_collectPurged holdsCount (present record member) purgeRecords
        (trans_of Accounted reached moved))
  rintro result middle ⟨returns, accounted, purged⟩
  rcases result with error | purgeRecords
  · cases returns
  · apply Handler.wp_branch
    · intro some
      rw [logPurgeRecords, Handler.wp_bind, Handler.wp_attempt]
      apply Handler.wp_mono _ (accounted_faultless _ middle)
      intro outcome after logged
      exact ⟨rfl, trans_of Accounted accounted logged, fun record member =>
        (purged record member).stable record middle after logged⟩
    · intro none
      exact ⟨rfl, accounted, purged⟩

theorem exists_batch {batchSize : ℕ} (positive : 0 < batchSize) (member : record ∈ records) :
    ∃ index ∈ List.range (batchCount records batchSize),
      record ∈ batchAt records batchSize index := by
  obtain ⟨place, below, rfl⟩ := List.mem_iff_getElem.mp member
  refine ⟨place / batchSize, List.mem_range.mpr ?_, ?_⟩
  · rw [batchCount, Nat.lt_div_iff_mul_lt positive]
    have := Nat.div_mul_le_self place batchSize
    omega
  · rw [batchAt, List.mem_iff_getElem]
    have within : place / batchSize * batchSize ≤ place := Nat.div_mul_le_self place batchSize
    have next : place < place / batchSize * batchSize + batchSize := by
      have := Nat.lt_div_mul_add positive (a := place)
      omega
    refine ⟨place - place / batchSize * batchSize, ?_, ?_⟩
    · rw [List.length_take, List.length_drop]
      omega
    · simp_all

theorem purges_processBatchAt
    (holdsCount : (PII_RETENTION_POLICY dataType).requiresLegalHold = true)
    (present : ∀ record ∈ records, record.Present start) (index : ℕ)
    (reached : Accounted start world) :
    faultless.wp (processBatchAt records dataType index)
      (fun result after => result.isOk = true ∧ Accounted world after ∧ ∀ record ∈ batchAt records
          (PII_RETENTION_SCHEDULES dataType).batchSize index,
          PurgedSince start dataType record after) world := by
  rw [processBatchAt, Handler.wp_bind]
  apply Handler.wp_mono _ (purges_processBatch holdsCount
    (fun record member => present record (mem_of_mem_batchAt member)) reached)
  rintro result middle ⟨returns, accounted, purged⟩
  rcases result with error | done
  · cases returns
  · apply Handler.wp_branch
    · intro more
      have waited : Accounted middle _ := accounted_act
        (.delay ((PII_RETENTION_SCHEDULES dataType).retryDelayMinutes * 60 * 1000)) middle
      exact ⟨⟨rfl, trans_of Accounted accounted waited, fun record member =>
        (purged record member).stable record middle _ waited⟩, nofun⟩
    · intro last
      exact ⟨rfl, accounted, purged⟩

/-- A run in which nothing fails purges every record it finds that has a
value. -/
theorem purges_selected (subDays : Calendar)
    (holdsCount : (PII_RETENTION_POLICY dataType).requiresLegalHold = true) :
    faultless.wp (processPIIRetentionForType subDays dataType)
      (fun _ after => ∀ record ∈ selected subDays world dataType,
        PurgedSince world dataType record after) world := by
  rw [processPIIRetentionForType, Handler.wp_bind]
  apply Handler.wp_mono _ (wp_findRecordsForPurge subDays (fun _ => true) world dataType)
  rintro result middle ⟨purged, users, outcome⟩
  rcases outcome with rfl | ⟨-, op, exposed⟩
  · have present : ∀ record ∈ selected subDays world dataType,
        record.Present middle := by
      intro record member
      have before := present_selected subDays world dataType record member
      cases record with
      | ofUser user =>
        show (middle.users.row user.id).isSome
        rw [users]
        exact before
      | _ => trivial
    apply Handler.wp_branch
    · simp_all
    · intro some
      refine ⟨?_, nofun⟩
      show faultless.wp (List.forM _ _ >>= fun _ => logger.info _) _ middle
      rw [Handler.wp_bind]
      apply Handler.wp_mono _ (Handler.wp_forM_each (fun index state => ∀ record ∈ batchAt
          (selected subDays world dataType) (PII_RETENTION_SCHEDULES dataType).batchSize index,
          PurgedSince middle dataType record state)
        (fun index state after accounted purged record member =>
          (purged record member).stable record state after accounted)
        fun index _ state reached => purges_processBatchAt holdsCount present index reached)
      rintro result after ⟨returns, -, batches⟩
      rcases result with error | done
      · cases returns
      · refine ⟨fun record member => ?_, nofun⟩
        obtain ⟨index, within, member⟩ := exists_batch (batchSize_pos dataType) member
        have since := batches index within record member
        rw [PurgedSince, World.purges, purged] at since
        exact since
  · cases exposed

end

/-! ### Which runs respect the holds -/

section

variable (subDays : Calendar)

/-- What a run needs so as to respect the holds: of the dormant users whose
address it would anonymize, those under a hold were so already when the list
was cached, if one is; of those whose number it would anonymize, and of the
financial records that are due, none is of a user under a hold.  Of the other
types nothing is ever found. -/
def HoldsRespected (world : World) : PIIDataType → Prop
  | .email =>
    ∀ listed ∈ world.cache.get world.now (legalHoldCachePrefix ++ PIIDataType.email.text),
      ∀ user ∈ world.dormant (cutoffOf subDays world .email),
        user.email ≠ "" → Held world .email user.id → user.id ∈ listed
  | .phone =>
    ∀ user ∈ world.dormant (cutoffOf subDays world .phone),
      user.phoneNumber.any (· ≠ "") = true → ¬ Held world .phone user.id
  | .financialData =>
    ∀ record ∈ world.dueFinancialRecords (cutoffOf subDays world .financialData),
      ¬ Held world .financialData record.userId
  | _ => True

instance HoldsRespected.decidable (world : World) :
    ∀ dataType, Decidable (HoldsRespected subDays world dataType)
  | .email =>
    inferInstanceAs (Decidable (∀ listed ∈ world.cache.get world.now
      (legalHoldCachePrefix ++ PIIDataType.email.text), _))
  | .phone =>
    inferInstanceAs (Decidable (∀ user ∈ world.dormant (cutoffOf subDays world .phone), _))
  | .financialData =>
    inferInstanceAs (Decidable (∀ record ∈ world.dueFinancialRecords
      (cutoffOf subDays world .financialData), _))
  | .name | .address | .ipAddress | .communicationPreferences
  | .verificationDocuments | .transactionHistory | .supportTickets
  | .auditLogs | .analyticsData => inferInstanceAs (Decidable True)

theorem textValue_isSome {text : Option String} :
    (textValue text).isSome ↔ text.any (· ≠ "") = true := by simp [textValue]

theorem mem_knownHolders {world : World} {dataType : PIIDataType}
    {userId : Id} (held : Held world dataType userId) :
    userId ∈ knownHolders world dataType ↔ ∀ listed ∈ world.cache.get world.now
        (legalHoldCachePrefix ++ dataType.text), userId ∈ listed := by
  rw [knownHolders]
  cases world.cache.get world.now (legalHoldCachePrefix ++ dataType.text) with
  | some listed => simp
  | none =>
    obtain ⟨hold, active, same⟩ := held
    grind [List.mem_dedup]

/-- The condition says that no record with a value that a run finds is of a
user under a hold. -/
theorem holdsRespected_iff {world : World} {dataType : PIIDataType}
    (holdsCount : (PII_RETENTION_POLICY dataType).requiresLegalHold = true) :
    HoldsRespected subDays world dataType ↔ ∀ record ∈ selected subDays world dataType,
        (extractPIIValue record dataType).isSome → ¬ Held world dataType record.owner := by
  cases dataType with
  | email =>
    simp only [HoldsRespected, selected, List.forall_mem_map, List.mem_filter, decide_eq_true_eq]
    constructor
    · rintro listed user ⟨dormant, unknown⟩ valued held
      have nonempty : user.email ≠ "" := by simpa using textValue_isSome.mp valued
      exact unknown ((mem_knownHolders held).mpr fun holders cached =>
        listed holders cached user dormant nonempty held)
    · intro spares holders cached user dormant nonempty held
      by_contra missing
      have unknown : user.id ∉ knownHolders world .email := fun known =>
        missing ((mem_knownHolders held).mp known holders cached)
      exact spares user ⟨dormant, unknown⟩ (textValue_isSome.mpr (by simpa using nonempty)) held
  | phone =>
    simp only [HoldsRespected, selected, List.forall_mem_map, List.mem_filter]
    constructor
    · rintro free user ⟨dormant, -⟩ valued
      exact free user dormant (textValue_isSome.mp valued)
    · intro spares user dormant nonempty
      have present : user.phoneNumber.isSome := by cases number : user.phoneNumber <;> simp_all
      exact spares user ⟨dormant, present⟩ (textValue_isSome.mpr nonempty)
  | name =>
    -- what is not deleted has no date of deletion
    simp only [HoldsRespected, true_iff]
    intro record member
    obtain ⟨user, found, rfl⟩ := List.mem_map.mp member
    obtain ⟨undeleted, deleted⟩ := List.mem_filter.mp found
    have none : user.deletedAt = none := by simpa using (List.mem_filter.mp undeleted).2
    simp [none] at deleted
  | financialData =>
    simp only [HoldsRespected, selected, List.forall_mem_map]
    exact ⟨fun free record due _ => free record due, fun spares record due => spares record due rfl⟩
  | ipAddress | communicationPreferences | supportTickets | analyticsData =>
    cases holdsCount
  | address | verificationDocuments | transactionHistory | auditLogs =>
    exact ⟨fun _ => List.forall_mem_nil _, fun _ => trivial⟩

/-- One run for a type, under a schedule of failures. -/
def processed (dataType : PIIDataType) (faults : List Fault) (world : World) : World :=
  (retention.exec (processPIIRetentionForType subDays dataType) faults world).2

/-- What may happen: holds are placed and lifted, time passes, so that they
lapse, and runs take place. -/
inductive Event where
  | placeHold (hold : LegalHold)
  | liftHolds (userId : Id) (dataType : PIIDataType)
  | elapse (milliseconds : ℕ)
  | process (dataType : PIIDataType) (faults : List Fault)

def happen (world : World) : Event → World
  | .placeHold hold => { world with holds := hold :: world.holds }
  | .liftHolds userId dataType =>
    { world with
      holds := world.holds.map fun hold =>
        if hold.userId = userId ∧ hold.dataType = dataType then
          { hold with isActive := false }
        else hold }
  | .elapse milliseconds => { world with now := world.now + milliseconds }
  | .process dataType faults => processed subDays dataType faults world

end

/-! ### One user -/

def plainDays : Calendar := fun date days => date - days * 86400000

def inactiveUser : User where
  id := 7
  email := "user@example.com"
  firstName := "First"
  lastName := "Last"
  phoneNumber := some "+15550001111"
  status := .inactive
  createdAt := 0
  deletedAt := none

/-- One user, inactive for more than a year. -/
def oneUser : World where
  users := .save .empty inactiveUser
  loginLogs := []
  financialRecords := []
  preferences := []
  holds := []
  archives := []
  purgeLog := []
  cache := .empty
  now := 40000000000
  random drawn := s!"{drawn}"
  drawn := 0
  purged := []

def holdFor (dataType : PIIDataType) : Event :=
  .placeHold { userId := 7, dataType, isActive := true, expiresAt := none }

end MarketX.Retention
