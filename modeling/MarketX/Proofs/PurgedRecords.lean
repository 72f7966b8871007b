/-
Module: MarketX.Proofs.PurgedRecords
Purpose: Whether a purge of personal data takes effect: what a run of the
  retention in which nothing fails makes of the tables and the log, record by
  record, and when a second run right after it finds nothing more to do for
  the records of the first.
Trusted boundary: human-reviewed definition of LoggedFor, StillHeld,
  Effective, Due, ReplacesOnce and PurgeSettles
Main exports: processed_eq, LoggedFor, Effective, effective_iff
-/
import MarketX.Proofs.LegalHolds

namespace MarketX.Retention

open Effects PIIRetentionService

/-! ### The run, record by record -/

section

variable (dataType : PIIDataType)

def valued (record : PIIRecord) : Bool :=
  (extractPIIValue record dataType).isSome

def afterPurge (record : PIIRecord) (world : World) : World :=
  (retention.exec (purgeRecord record dataType (PII_RETENTION_POLICY dataType)) [] world).2

def entriesOf (record : PIIRecord) (world : World) : List PIIPurgeRecord :=
  match (retention.exec (purgeRecord record dataType
    (PII_RETENTION_POLICY dataType)) [] world).1 with
  | .ok (some purged) => [purged]
  | _ => []

theorem exec_collectPurged (purgeRecords : List PIIPurgeRecord)
    (record : PIIRecord) (world : World) :
    retention.exec (collectPurged dataType (PII_RETENTION_POLICY dataType)
        purgeRecords record) [] world = (.ok (purgeRecords ++ entriesOf dataType record world),
        afterPurge dataType record world) := by
  rw [collectPurged, Handler.exec_bind, Handler.exec_attempt, entriesOf, afterPurge]
  cases (retention.exec (purgeRecord record dataType
      (PII_RETENTION_POLICY dataType)) [] world).1 with
  | error error =>
    rw [List.append_nil]
    rfl
  | ok purged =>
    cases purged with
    | none =>
      rw [List.append_nil]
      rfl
    | some purged => rfl

/-- The entries of records that are purged one after another. -/
def entries : List PIIRecord → World → List PIIPurgeRecord
  | [], _ => []
  | record :: records, world =>
    entriesOf dataType record world ++ entries records (afterPurge dataType record world)

theorem exec_collectAll (records : List PIIRecord)
    (purgeRecords : List PIIPurgeRecord) (world : World) :
    retention.exec (records.foldlM (collectPurged dataType
        (PII_RETENTION_POLICY dataType)) purgeRecords) [] world =
      (.ok (purgeRecords ++ entries dataType records world),
        records.foldl (fun world record => afterPurge dataType record world) world) := by
  induction records generalizing purgeRecords world with
  | nil =>
    rw [entries, List.append_nil]
    rfl
  | cons record records ih => simp_all [Handler.exec_bind, exec_collectPurged, entries]

def World.logging (world : World) (added : List PIIPurgeRecord) : World :=
  { world with purgeLog := world.purgeLog ++ added }

theorem exec_insertPurgeLog (added : List PIIPurgeRecord) (world : World) :
    retention.exec (added.forM fun record => await (.insertPurgeLog record))
      [] world = (.ok ⟨⟩, world.logging added) := by
  have each : ∀ (record : PIIPurgeRecord) (world : World),
      retention.exec (await (.insertPurgeLog record)) [] world =
        ((.ok ⟨⟩ : Except HttpException PUnit), world.logging [record]) :=
    fun _ _ => rfl
  rw [Handler.exec_forM retention each]
  have logged : added.foldl (fun world record => world.logging [record])
      world = world.logging added := by
    induction added generalizing world <;> simp_all [World.logging]
  rw [logged]

theorem exec_logPurgeRecords (added : List PIIPurgeRecord) (world : World) :
    retention.exec (logPurgeRecords added) [] world = (.ok (), world.logging added) := by
  rw [logPurgeRecords, Handler.exec_bind, Handler.exec_attempt,
    Handler.exec_bind, exec_insertPurgeLog]
  rfl

theorem exec_processBatch (records : List PIIRecord) (world : World) :
    retention.exec (processBatch records dataType (PII_RETENTION_POLICY dataType)) [] world =
      (.ok (), (records.foldl (fun world record =>
        afterPurge dataType record world) world).logging (entries dataType records world)) := by
  rw [processBatch, Handler.exec_bind, exec_collectAll]
  dsimp only
  split
  next some => exact exec_logPurgeRecords _ _
  next none =>
    have empty : entries dataType records world = [] := by simpa using none
    rw [empty, World.logging, List.append_nil]
    rfl

/-! ### One record -/

/-- What the purge of a user's data sets. -/
def renewal (time : Date) (random : String) : UserChanges :=
  match dataType with
  | .email =>
    { email := some s!"anonymous_{time}_{random}@anonymized.local" }
  | .phone => { phoneNumber := some (some ("+1" ++ lastTen (toString time))) }
  | .name => { firstName := some "Anonymous", lastName := some "User" }
  | _ => {}

variable {dataType}

variable {record row : PIIRecord} {user : User} {world : World} {time : Date} {id : Id}
  {items : List (Date × PIIRecord)}

/-- What has something to purge is a row of the table that the type is
about. -/
theorem valued_kinds (some : valued dataType record = true) :
    (∃ user, record = .ofUser user ∧ dataType ∈ [PIIDataType.email, .phone, .name]) ∨
      (∃ log, record = .ofLoginLog log ∧ dataType = .ipAddress) ∨
      (∃ row, record = .ofFinancialRecord row ∧ dataType = .financialData) ∨
      ∃ row, record = .ofPreferences row ∧ dataType = .communicationPreferences := by
  revert some
  cases record <;> cases dataType <;> simp [valued, extractPIIValue]

theorem exec_purgeRecord_none (none : valued dataType record = false) (world : World) :
    retention.exec (purgeRecord record dataType
      (PII_RETENTION_POLICY dataType)) [] world = (.ok .none, world) := by
  have missing : extractPIIValue record dataType = .none := by simpa [valued] using none
  rw [purgeRecord, missing]
  rfl

theorem afterPurge_none (none : valued dataType record = false) (world : World) :
    afterPurge dataType record world = world := by rw [afterPurge, exec_purgeRecord_none none]

theorem entriesOf_none (none : valued dataType record = false) (world : World) :
    entriesOf dataType record world = [] := by rw [entriesOf, exec_purgeRecord_none none]

theorem afterPurge_user (kind : dataType ∈ [PIIDataType.email, .phone, .name])
    (some : valued dataType (.ofUser user) = true) (world : World) :
    afterPurge dataType (.ofUser user) world =
      { world with drawn := world.drawn + 2 }.updateUser user.id
        (renewal dataType world.now (world.random (world.drawn + 1))) := by
  obtain ⟨value, found⟩ := Option.isSome_iff_exists.mp some
  rw [afterPurge, purgeRecord, found]
  simp only [List.mem_cons, List.not_mem_nil, or_false] at kind
  rcases kind with rfl | rfl | rfl <;> rfl

theorem afterPurge_loginLog {log : LoginLog}
    (some : valued .ipAddress (.ofLoginLog log) = true) (world : World) :
    afterPurge .ipAddress (.ofLoginLog log) world =
      { world with drawn := world.drawn + 1 }.deleteLoginLog log.id := by
  obtain ⟨value, found⟩ := Option.isSome_iff_exists.mp some
  rw [afterPurge, purgeRecord, found]
  rfl

theorem afterPurge_preferences (row : CommunicationPreferences) (world : World) :
    afterPurge .communicationPreferences (.ofPreferences row) world =
      { world with drawn := world.drawn + 1 }.deletePreferences row.id := rfl

theorem entriesOf_some (some : valued dataType record = true) (world : World) :
    ∃ entry, entriesOf dataType record world = [entry] ∧ entry.userId = record.owner ∧
      extractPIIValue record dataType = .some entry.originalValue := by
  obtain ⟨value, found⟩ := Option.isSome_iff_exists.mp some
  rw [entriesOf, purgeRecord, found]
  obtain ⟨user, rfl, kind⟩ | ⟨log, rfl, rfl⟩ | ⟨row, rfl, rfl⟩ |
    ⟨row, rfl, rfl⟩ := valued_kinds some
  · simp only [List.mem_cons, List.not_mem_nil, or_false] at kind
    rcases kind with rfl | rfl | rfl <;> exact ⟨_, rfl, rfl, rfl⟩
  all_goals exact ⟨_, rfl, rfl, rfl⟩

structure Framed (world after : World) : Prop where
  holds : after.holds = world.holds
  cache : after.cache = world.cache
  random : after.random = world.random
  financialRecords : after.financialRecords = world.financialRecords

theorem framed_updateUser (world : World) (id : Id) (changes : UserChanges) :
    Framed world (world.updateUser id changes) := by
  unfold World.updateUser
  split <;> exact ⟨rfl, rfl, rfl, rfl⟩

theorem framed_afterPurge (record : PIIRecord) (world : World) :
    Framed world (afterPurge dataType record world) := by
  cases some : valued dataType record with
  | false =>
    rw [afterPurge_none some]
    exact ⟨rfl, rfl, rfl, rfl⟩
  | true =>
    obtain ⟨user, rfl, kind⟩ | ⟨log, rfl, rfl⟩ | ⟨row, rfl, rfl⟩ |
      ⟨row, rfl, rfl⟩ := valued_kinds some
    · rw [afterPurge_user kind some]
      obtain ⟨holds, cache, random, financial⟩ := framed_updateUser
        { world with drawn := world.drawn + 2 } user.id
        (renewal dataType world.now (world.random (world.drawn + 1)))
      exact ⟨holds, cache, random, financial⟩
    · rw [afterPurge_loginLog some]
      exact ⟨rfl, rfl, rfl, rfl⟩
    · exact ⟨rfl, rfl, rfl, rfl⟩
    · exact ⟨rfl, rfl, rfl, rfl⟩

theorem now_afterPurge (record : PIIRecord) (world : World) :
    (afterPurge dataType record world).now = world.now := by
  cases some : valued dataType record with
  | false => rw [afterPurge_none some]
  | true =>
    obtain ⟨user, rfl, kind⟩ | ⟨log, rfl, rfl⟩ | ⟨row, rfl, rfl⟩ |
      ⟨row, rfl, rfl⟩ := valued_kinds some
    · grind [afterPurge_user, World.updateUser]
    · rw [afterPurge_loginLog some]
      rfl
    · rfl
    · rfl

theorem afterPurge_log (record : PIIRecord) (world : World) (log : List PIIPurgeRecord) :
    afterPurge dataType record { world with purgeLog := log } =
      { afterPurge dataType record world with purgeLog := log } := by
  cases some : valued dataType record with
  | false => rw [afterPurge_none some, afterPurge_none some]
  | true =>
    obtain ⟨user, rfl, kind⟩ | ⟨log, rfl, rfl⟩ | ⟨row, rfl, rfl⟩ |
      ⟨row, rfl, rfl⟩ := valued_kinds some
    · grind [afterPurge_user, World.updateUser]
    · rw [afterPurge_loginLog some, afterPurge_loginLog some]
      rfl
    · rfl
    · rfl

theorem entriesOf_log (record : PIIRecord) (world : World) (log : List PIIPurgeRecord) :
    entriesOf dataType record { world with purgeLog := log } =
      entriesOf dataType record world := by
  cases some : valued dataType record with
  | false => rw [entriesOf_none some, entriesOf_none some]
  | true =>
    obtain ⟨value, found⟩ := Option.isSome_iff_exists.mp some
    rw [entriesOf, entriesOf, purgeRecord, found]
    obtain ⟨user, rfl, kind⟩ | ⟨log, rfl, rfl⟩ | ⟨row, rfl, rfl⟩ |
      ⟨row, rfl, rfl⟩ := valued_kinds some
    · simp only [List.mem_cons, List.not_mem_nil, or_false] at kind
      rcases kind with rfl | rfl | rfl <;> rfl
    all_goals rfl

/-! ### The whole run -/

variable (dataType)

def pause : ℕ :=
  (PII_RETENTION_SCHEDULES dataType).retryDelayMinutes * 60 * 1000

/-- The records of the first batches, each with the time of its purge. -/
def scheduled (records : List PIIRecord) (start : Date) (count : ℕ) :
    List (Date × PIIRecord) :=
  (List.range count).flatMap fun index =>
    (batchAt records (PII_RETENTION_SCHEDULES dataType).batchSize index).map
      fun record => (start + (index * pause dataType : ℕ), record)

def purgeAt (world : World) (item : Date × PIIRecord) : World :=
  afterPurge dataType item.2 { world with now := item.1 }

def entriesAt : List (Date × PIIRecord) → World → List PIIPurgeRecord
  | [], _ => []
  | item :: items, world =>
    entriesOf dataType item.2 { world with now := item.1 } ++
      entriesAt items (purgeAt dataType world item)

theorem entriesAt_append (front back : List (Date × PIIRecord)) (world : World) :
    entriesAt dataType (front ++ back) world = entriesAt dataType front world ++
      entriesAt dataType back (front.foldl (purgeAt dataType) world) := by
  induction front generalizing world <;> simp_all [entriesAt]

/-- The same tables, at another time and with another log. -/
def World.stamped (world : World) (time : Date) (log : List PIIPurgeRecord) :
    World :=
  { world with now := time, purgeLog := log }

theorem World.stamped_logging (world : World) (time : Date) (log added : List PIIPurgeRecord) :
    (world.stamped time log).logging added = world.stamped time (log ++ added) := rfl

theorem World.stamped_now (here : world.now = time) (log : List PIIPurgeRecord) :
    { world with purgeLog := log } = world.stamped time log := by
  subst here
  rfl

theorem batch_purged (records : List PIIRecord) (time : Date)
    (log : List PIIPurgeRecord) (world : World) :
    records.foldl (fun world record => afterPurge dataType record world) (world.stamped time log) =
      ((records.map fun record => (time, record)).foldl (purgeAt dataType) world).stamped time log ∧
    entries dataType records (world.stamped time log) =
      entriesAt dataType (records.map fun record => (time, record)) world := by
  induction records generalizing world with
  | nil => exact ⟨rfl, rfl⟩
  | cons record records ih =>
    let before : World := { world with now := time }
    have stays : (purgeAt dataType world (time, record)).now = time := now_afterPurge record before
    have purged : afterPurge dataType record (world.stamped time log) =
        (purgeAt dataType world (time, record)).stamped time log :=
      (afterPurge_log record before log).trans (World.stamped_now stays log)
    have logged : entriesOf dataType record (world.stamped time log) =
        entriesOf dataType record before := entriesOf_log record before log
    obtain ⟨first, second⟩ := ih (purgeAt dataType world (time, record))
    rw [List.foldl_cons, purged, first, entries, logged, purged, second]
    exact ⟨rfl, rfl⟩

variable {dataType} in
theorem lt_batchCount {records : List PIIRecord} {index : ℕ} :
    index < batchCount records (PII_RETENTION_SCHEDULES dataType).batchSize ↔
      index * (PII_RETENTION_SCHEDULES dataType).batchSize <
        records.length := by grind [batchSize_pos, batchCount, Nat.lt_div_iff_mul_lt]

def afterBatch (records : List PIIRecord) (world : World) (index : ℕ) : World :=
  let batch := batchAt records (PII_RETENTION_SCHEDULES dataType).batchSize index
  let purged := (batch.foldl (fun world record => afterPurge dataType record world) world).logging
      (entries dataType batch world)
  if index * (PII_RETENTION_SCHEDULES dataType).batchSize +
      (PII_RETENTION_SCHEDULES dataType).batchSize < records.length then
    purged.stamped (purged.now + pause dataType) purged.purgeLog
  else purged

theorem exec_processBatchAt (records : List PIIRecord) (index : ℕ) (world : World) :
    retention.exec (processBatchAt records dataType index) [] world =
      (.ok ⟨⟩, afterBatch dataType records world index) := by
  rw [processBatchAt, Handler.exec_bind, exec_processBatch, afterBatch]
  dsimp only
  split <;> rfl

/-- The first batches: what they leave is what the purges leave that are
scheduled in them, with the log and the time. -/
theorem batches_purged (records : List PIIRecord) (world : World) {count : ℕ}
    (most : count ≤ batchCount records (PII_RETENTION_SCHEDULES dataType).batchSize) :
    (List.range count).foldl (afterBatch dataType records) world =
      ((scheduled dataType records world.now count).foldl (purgeAt dataType) world).stamped
          (world.now + (min count (batchCount records
            (PII_RETENTION_SCHEDULES dataType).batchSize - 1) * pause dataType : ℕ))
          (world.purgeLog ++ entriesAt dataType
            (scheduled dataType records world.now count) world) := by
  induction count with
  | zero => simp [scheduled, entriesAt, World.stamped]
  | succ count ih =>
    have this : count ≤ batchCount records
        (PII_RETENTION_SCHEDULES dataType).batchSize - 1 := by omega
    have more : scheduled dataType records world.now (count + 1) =
        scheduled dataType records world.now count ++
          (batchAt records (PII_RETENTION_SCHEDULES dataType).batchSize count).map fun record =>
              (world.now + (count * pause dataType : ℕ), record) := by
      simp [scheduled, List.range_succ]
    rw [List.range_succ, List.foldl_append, ih (Nat.le_of_succ_le most), min_eq_left this, more,
      entriesAt_append, List.foldl_append]
    generalize (scheduled dataType records world.now count).foldl (purgeAt dataType) world = middle
    generalize entriesAt dataType (scheduled dataType records world.now count) world = added
    obtain ⟨purged, logged⟩ := batch_purged dataType
      (batchAt records (PII_RETENTION_SCHEDULES dataType).batchSize count)
      (world.now + (count * pause dataType : ℕ)) (world.purgeLog ++ added) middle
    rw [List.foldl_cons, List.foldl_nil, afterBatch, purged, logged,
      World.stamped_logging, ← List.append_assoc]
    by_cases last : count + 1 < batchCount records (PII_RETENTION_SCHEDULES dataType).batchSize
    · have waits := lt_batchCount.mp last
      rw [Nat.succ_mul] at waits
      have earlier : count + 1 ≤ batchCount records
          (PII_RETENTION_SCHEDULES dataType).batchSize - 1 := by omega
      have next : world.now + ((count + 1) * pause dataType : ℕ) =
          world.now + (count * pause dataType : ℕ) + pause dataType := by
        simp [Nat.succ_mul, Int.add_assoc]
      rw [if_pos waits, min_eq_left earlier, next]
      rfl
    · have done := fun waits => last (lt_batchCount.mpr waits)
      grind

def lastTime (records : List PIIRecord) (start : Date) : Date :=
  start + ((batchCount records (PII_RETENTION_SCHEDULES dataType).batchSize -
    1) * pause dataType : ℕ)

/-- All records that a run finds, each with the time of its purge. -/
def schedule (records : List PIIRecord) (start : Date) :
    List (Date × PIIRecord) := scheduled dataType records start
    (batchCount records (PII_RETENTION_SCHEDULES dataType).batchSize)

theorem map_schedule (records : List PIIRecord) (start : Date) :
    (schedule dataType records start).map Prod.snd = records := by
  have front : ∀ count, (scheduled dataType records start count).map Prod.snd =
      records.take (count * (PII_RETENTION_SCHEDULES dataType).batchSize) := by
    intro count
    induction count <;> simp_all [scheduled, List.range_succ, Nat.succ_mul, List.take_add, batchAt]
  have all := @lt_batchCount dataType records
    (batchCount records (PII_RETENTION_SCHEDULES dataType).batchSize)
  simp_all [schedule, List.take_of_length_le]

/-! ### What a run finds -/

variable (subDays : Calendar)

/-- The world once the records have been found: the list of the holders may
have been cached. -/
def foundAt (world : World) : World :=
  match dataType with
  | .email =>
    match world.cache.get world.now (legalHoldCachePrefix ++ PIIDataType.email.text) with
    | some _ => world
    | none =>
      { world with
        cache := world.cache.set world.now
          (legalHoldCachePrefix ++ PIIDataType.email.text)
          ((world.activeHolds .email).map LegalHold.userId).dedup 3600 }
  | _ => world

theorem exec_findRecordsForPurge (world : World) :
    retention.exec (findRecordsForPurge subDays dataType (PII_RETENTION_POLICY dataType)) [] world =
      (.ok (selected subDays world dataType), foundAt dataType world) := by
  cases dataType with
  | email =>
    have holders : retention.exec (getUsersWithLegalHolds .email) [] world =
        (.ok (knownHolders world .email), foundAt .email world) := by
      have read : retention.exec (await (.cacheGet (legalHoldCachePrefix ++
          PIIDataType.email.text))) [] world =
            ((.ok (world.cache.get world.now (legalHoldCachePrefix ++
              PIIDataType.email.text)) : Except HttpException _), world) := rfl
      rw [getUsersWithLegalHolds, Handler.exec_bind, read, foundAt, knownHolders]
      cases world.cache.get world.now (legalHoldCachePrefix ++ PIIDataType.email.text) <;> rfl
    have unseen : (foundAt .email world).users = world.users := by grind [foundAt]
    show retention.exec ((getUsersWithLegalHolds .email >>= fun holders =>
      await (.findDormantUsers (cutoffOf subDays world .email) holders)) >>=
        fun found => pure (found.map PIIRecord.ofUser)) [] world = _
    rw [Handler.exec_bind, Handler.exec_bind, holders]
    show ((.ok ((((foundAt .email world).dormant _).filter _).map _) :
      Except HttpException _), foundAt .email world) = _
    rw [World.dormant, World.undeleted, unseen]
    rfl
  | _ => rfl

theorem foundAt_eq (world : World) :
    ∃ cache, foundAt dataType world = { world with cache } := by
  unfold foundAt
  split
  · split <;> exact ⟨_, rfl⟩
  · exact ⟨_, rfl⟩

theorem processed_eq (world : World) :
    processed subDays dataType [] world = ((schedule dataType (selected subDays world dataType)
          world.now).foldl (purgeAt dataType) (foundAt dataType world)).stamped
        (lastTime dataType (selected subDays world dataType) world.now)
        (world.purgeLog ++ entriesAt dataType
          (schedule dataType (selected subDays world dataType) world.now)
          (foundAt dataType world)) := by
  rw [processed, processPIIRetentionForType, Handler.exec_bind, exec_findRecordsForPurge]
  dsimp only
  have run := batches_purged dataType (selected subDays world dataType)
    (foundAt dataType world) le_rfl
  obtain ⟨cache, found⟩ := foundAt_eq dataType world
  have now : (foundAt dataType world).now = world.now := by rw [found]
  have log : (foundAt dataType world).purgeLog = world.purgeLog := by rw [found]
  rw [now, log, min_eq_right (Nat.sub_le _ _)] at run
  split
  next none =>
    rw [List.length_eq_zero_iff.mp none] at run ⊢
    have counted : batchCount ([] : List PIIRecord)
        (PII_RETENTION_SCHEDULES dataType).batchSize = 0 := Nat.div_eq_of_lt (by
        have := batchSize_pos dataType
        simp only [List.length_nil]
        omega)
    rw [schedule, lastTime, ← run, counted]
    rfl
  next some =>
    have batches := Handler.exec_forM retention
      (exec_processBatchAt dataType (selected subDays world dataType))
      (List.range (batchCount (selected subDays world dataType)
        (PII_RETENTION_SCHEDULES dataType).batchSize)) (foundAt dataType world)
    show (retention.exec (((List.range _).forM _) >>= fun _ =>
      logger.info _) [] (foundAt dataType world)).2 = _
    rw [Handler.exec_bind, batches]
    exact run

/-! ### The rows -/

def liveRows (world : World) : PIIDataType → List PIIRecord
  | .email | .phone | .name => world.users.rows.map .ofUser
  | .ipAddress => world.loginLogs.map .ofLoginLog
  | .financialData => world.financialRecords.map .ofFinancialRecord
  | .communicationPreferences => world.preferences.map .ofPreferences
  | _ => []

variable {dataType}

theorem mem_liveRows_user (kind : dataType ∈ [PIIDataType.email, .phone, .name]) :
    row ∈ liveRows world dataType ↔
      ∃ user, row = .ofUser user ∧ world.users.row row.id = some user := by
  have rows : liveRows world dataType = world.users.rows.map .ofUser := by
    simp only [List.mem_cons, List.not_mem_nil, or_false] at kind
    rcases kind with rfl | rfl | rfl <;> rfl
  rw [rows, List.mem_map]
  constructor
  · rintro ⟨user, stored, rfl⟩
    exact ⟨user, rfl, Table.mem_rows.mp stored⟩
  · grind [Table.mem_rows_of_row]

theorem row_updateUser_of_ne (world : World) {other : Id}
    (changes : UserChanges) (apart : other ≠ id) :
    (world.updateUser id changes).users.row other =
      world.users.row other := by
  unfold World.updateUser
  cases stored : world.users.row id with
  | none => rfl
  | some user =>
    refine Table.row_save_of_ne world.users _ ?_
    have key : Keyed.key user = id := world.users.keyed stored
    exact key ▸ apart

theorem row_updateUser_self (world : World)
    (changes : UserChanges) (stored : world.users.row id = some user) :
    (world.updateUser id changes).users.row id =
      some (changes.apply user) := by
  have key : Keyed.key user = id := world.users.keyed stored
  rw [World.updateUser, stored]
  rw [← key]
  exact Table.row_save_self world.users (changes.apply user)

theorem row_afterPurge_of_ne (kind : dataType ∈ [PIIDataType.email, .phone, .name])
    (apart : id ≠ record.id) (world : World) :
    (afterPurge dataType record world).users.row id =
      world.users.row id := by
  cases some : valued dataType record with
  | false => rw [afterPurge_none some]
  | true =>
    obtain ⟨user, rfl, -⟩ | ⟨log, rfl, rfl⟩ | ⟨entry, rfl, rfl⟩ |
      ⟨entry, rfl, rfl⟩ := valued_kinds some
    · rw [afterPurge_user kind some]
      exact row_updateUser_of_ne { world with drawn := world.drawn + 2 } _ apart
    all_goals simp at kind

theorem liveRows_afterPurge_of_ne
    (apart : valued dataType record = true → row.id ≠ record.id) (world : World) :
    row ∈ liveRows (afterPurge dataType record world) dataType ↔ row ∈ liveRows world dataType := by
  cases some : valued dataType record with
  | false => rw [afterPurge_none some]
  | true =>
    have other := apart some
    obtain ⟨user, rfl, kind⟩ | ⟨log, rfl, rfl⟩ | ⟨entry, rfl, rfl⟩ |
      ⟨entry, rfl, rfl⟩ := valued_kinds some
    · have rows := row_updateUser_of_ne { world with drawn := world.drawn + 2 }
        (renewal dataType world.now (world.random (world.drawn + 1))) other
      rw [mem_liveRows_user kind, mem_liveRows_user kind, afterPurge_user kind some]
      exact exists_congr fun user => and_congr_right fun _ =>
        Iff.of_eq (congrArg (· = Option.some user) rows)
    · rw [afterPurge_loginLog some]
      simp only [liveRows, World.deleteLoginLog, List.mem_map, List.mem_filter]
      constructor
      · grind
      · rintro ⟨log, stored, rfl⟩
        exact ⟨log, ⟨stored, decide_eq_true other⟩, rfl⟩
    · exact Iff.rfl
    · rw [afterPurge_preferences]
      simp only [liveRows, World.deletePreferences, List.mem_map, List.mem_filter]
      constructor
      · grind
      · rintro ⟨log, stored, rfl⟩
        exact ⟨log, ⟨stored, decide_eq_true other⟩, rfl⟩

theorem liveRows_fold_of_ne
    (apart : ∀ item ∈ items, valued dataType item.2 = true → row.id ≠ item.2.id) (world : World) :
    row ∈ liveRows (items.foldl (purgeAt dataType) world) dataType ↔
      row ∈ liveRows world dataType := by
  induction items generalizing world with
  | nil => exact Iff.rfl
  | cons item items ih =>
    obtain ⟨here, behind⟩ := List.forall_mem_cons.mp apart
    rw [List.foldl_cons, ih behind]
    exact liveRows_afterPurge_of_ne here _

theorem gone_afterPurge (deletes : dataType = .ipAddress ∨ dataType = .communicationPreferences)
    (some : valued dataType record = true)
    (member : row ∈ liveRows (afterPurge dataType record world) dataType) :
    row.id ≠ record.id := by
  rcases deletes with rfl | rfl
  · obtain ⟨log, rfl⟩ : ∃ log, record = .ofLoginLog log := by simpa using valued_kinds some
    rw [afterPurge_loginLog some] at member
    simp only [liveRows, World.deleteLoginLog, List.mem_map, List.mem_filter] at member
    obtain ⟨log, ⟨-, other⟩, rfl⟩ := member
    exact of_decide_eq_true other
  · obtain ⟨entry, rfl⟩ : ∃ entry, record = .ofPreferences entry := by simpa using valued_kinds some
    rw [afterPurge_preferences] at member
    simp only [liveRows, World.deletePreferences, List.mem_map, List.mem_filter] at member
    obtain ⟨entry, ⟨-, other⟩, rfl⟩ := member
    exact of_decide_eq_true other

theorem gone_fold (deletes : dataType = .ipAddress ∨ dataType = .communicationPreferences)
    (member : row ∈ liveRows (items.foldl (purgeAt dataType) world) dataType) :
    row ∈ liveRows world dataType ∧ ∀ item ∈ items, valued dataType item.2 = true →
        row.id ≠ item.2.id := by
  induction items generalizing world with
  | nil => exact ⟨member, List.forall_mem_nil _⟩
  | cons item items ih =>
    obtain ⟨here, behind⟩ := ih member
    have apart : valued dataType item.2 = true → row.id ≠ item.2.id :=
      fun some => gone_afterPurge deletes some here
    exact ⟨(liveRows_afterPurge_of_ne apart { world with now := item.1 }).mp
      here, List.forall_mem_cons.mpr ⟨apart, behind⟩⟩

theorem framed_fold (items : List (Date × PIIRecord)) (world : World) :
    Framed world (items.foldl (purgeAt dataType) world) := by
  induction items generalizing world with
  | nil => exact ⟨rfl, rfl, rfl, rfl⟩
  | cons item items ih =>
    have first := @framed_afterPurge dataType item.2 { world with now := item.1 }
    have rest := ih (purgeAt dataType world item)
    exact ⟨rest.holds.trans first.holds, rest.cache.trans first.cache,
      rest.random.trans first.random, rest.financialRecords.trans first.financialRecords⟩

theorem archives_fold (other : dataType ≠ .financialData)
    (items : List (Date × PIIRecord)) (world : World) :
    (items.foldl (purgeAt dataType) world).archives = world.archives := by
  have once : ∀ (record : PIIRecord) (world : World),
      (afterPurge dataType record world).archives = world.archives := by
    intro record world
    cases some : valued dataType record with
    | false => rw [afterPurge_none some]
    | true =>
      obtain ⟨user, rfl, kind⟩ | ⟨log, rfl, rfl⟩ | ⟨entry, rfl, rfl⟩ |
        ⟨entry, rfl, rfl⟩ := valued_kinds some
      · grind [afterPurge_user, World.updateUser]
      · rw [afterPurge_loginLog some]
        rfl
      · exact absurd rfl other
      · rfl
  induction items generalizing world with
  | nil => rfl
  | cons item items ih =>
    rw [List.foldl_cons, ih]
    exact once item.2 _

theorem drawn_fold (kind : dataType ∈ [PIIDataType.email, .phone, .name])
    (items : List (Date × PIIRecord)) (world : World) :
    (items.foldl (purgeAt dataType) world).drawn = world.drawn +
        2 * items.countP fun item => valued dataType item.2 := by
  have once : ∀ (record : PIIRecord) (world : World), (afterPurge dataType record world).drawn =
        world.drawn + if valued dataType record then 2 else 0 := by
    grind [afterPurge_none, valued_kinds, afterPurge_user, World.updateUser]
  induction items generalizing world with
  | nil => rfl
  | cons item items ih =>
    rw [List.foldl_cons, ih, purgeAt, once, List.countP_cons]
    dsimp only
    split <;> omega

theorem entriesAt_matched (items : List (Date × PIIRecord)) (world : World) :
    List.Forall₂ (fun record entry => entry.userId = record.owner ∧
        extractPIIValue record dataType = some entry.originalValue)
      ((items.map Prod.snd).filter (valued dataType)) (entriesAt dataType items world) := by
  induction items generalizing world with
  | nil => exact .nil
  | cons item items ih =>
    rw [List.map_cons, entriesAt]
    cases some : valued dataType item.2 with
    | false => simp_all [entriesOf_none]
    | true =>
      obtain ⟨entry, single, matched⟩ := entriesOf_some some { world with now := item.1 }
      simp_all

theorem row_fold_user (kind : dataType ∈ [PIIDataType.email, .phone, .name])
    {before behind : List (Date × PIIRecord)} (some : valued dataType (.ofUser user) = true)
    (apart : ∀ item ∈ before ++ behind, item.2.id ≠ user.id)
    (stored : world.users.row user.id = .some user) :
    ((before ++ (time, .ofUser user) :: behind).foldl (purgeAt dataType) world).users.row user.id =
      .some ((renewal dataType time (world.random (world.drawn +
        2 * (before.countP fun item => valued dataType item.2) + 1))).apply user) := by
  have others {items : List (Date × PIIRecord)} (world : World)
      (among : ∀ item ∈ items, item.2.id ≠ user.id) :
      (items.foldl (purgeAt dataType) world).users.row user.id =
        world.users.row user.id := by
    induction items generalizing world with
    | nil => rfl
    | cons item items ih =>
      obtain ⟨here, behind⟩ := List.forall_mem_cons.mp among
      rw [List.foldl_cons, ih _ behind]
      exact row_afterPurge_of_ne kind here.symm { world with now := item.1 }
  rw [List.foldl_append, List.foldl_cons, others _ fun item member =>
    apart item (List.mem_append_right _ member)]
  have unmoved := others world fun item member => apart item (List.mem_append_left _ member)
  rw [stored] at unmoved
  have drawn := drawn_fold kind before world
  have random := (@framed_fold dataType before world).random
  rw [← drawn, ← random]
  generalize before.foldl (purgeAt dataType) world = middle at unmoved ⊢
  rw [purgeAt, afterPurge_user kind some]
  exact row_updateUser_self { middle with now := time, drawn := middle.drawn + 2 } _ unmoved

end

section

variable (subDays : Calendar) {dataType : PIIDataType}

/-! ### The tables after a run -/

theorem liveRows_stamped (world : World) (time : Date) (log : List PIIPurgeRecord) :
    liveRows (world.stamped time log) dataType = liveRows world dataType := by
  cases dataType <;> rfl

theorem liveRows_foundAt (world : World) :
    liveRows (foundAt dataType world) dataType = liveRows world dataType := by
  obtain ⟨cache, found⟩ := foundAt_eq dataType world
  rw [found]
  cases dataType <;> rfl

theorem liveRows_processed (world : World) :
    liveRows (processed subDays dataType [] world) dataType =
      liveRows ((schedule dataType (selected subDays world dataType)
        world.now).foldl (purgeAt dataType) (foundAt dataType world))
          dataType := by rw [processed_eq, liveRows_stamped]

variable {world : World} {record row : PIIRecord} {records : List PIIRecord}
  {before behind : List (Date × PIIRecord)} {time : Date} {user : User}

theorem mem_liveRows_of_selected (member : record ∈ selected subDays world dataType) :
    record ∈ liveRows world dataType := by
  cases dataType with
  | email | phone | name =>
    obtain ⟨user, found, rfl⟩ := List.mem_map.mp member
    have undeleted := (List.mem_filter.mp found).1
    simp only [World.dormant, World.undeleted, List.mem_filter] at undeleted
    exact List.mem_map_of_mem (by tauto)
  | ipAddress | financialData | communicationPreferences =>
    obtain ⟨row, found, rfl⟩ := List.mem_map.mp member
    exact List.mem_map_of_mem (List.mem_filter.mp (List.mem_of_mem_take found)).1
  | _ => cases member

theorem mem_schedule {start : Date} {item : Date × PIIRecord}
    (member : item ∈ schedule dataType records start) : item.2 ∈ records := by grind [map_schedule]

theorem mem_processed_of_ne (apart : ∀ record ∈ selected subDays world dataType,
      valued dataType record = true → row.id ≠ record.id) :
    row ∈ liveRows (processed subDays dataType [] world) dataType ↔
      row ∈ liveRows world dataType := by
  rw [liveRows_processed, liveRows_fold_of_ne fun item member =>
    apart item.2 (mem_schedule member), liveRows_foundAt]

theorem ne_of_mem_processed (deletes : dataType = .ipAddress ∨ dataType = .communicationPreferences)
    (member : row ∈ liveRows (processed subDays dataType [] world) dataType)
    (found : record ∈ selected subDays world dataType)
    (some : valued dataType record = true) : row.id ≠ record.id := by
  rw [liveRows_processed] at member
  rw [← map_schedule dataType (selected subDays world dataType) world.now] at found
  obtain ⟨item, scheduled, rfl⟩ := List.mem_map.mp found
  exact (gone_fold deletes member).2 item scheduled some

theorem archives_processed (other : dataType ≠ .financialData) (world : World) :
    (processed subDays dataType [] world).archives = world.archives := by
  obtain ⟨cache, found⟩ := foundAt_eq dataType world
  rw [processed_eq]
  show World.archives (List.foldl _ _ _) = _
  rw [archives_fold other, found]

/-! ### Users whose data is replaced -/

theorem selected_pairwise (kind : dataType ∈ [PIIDataType.email, .phone, .name]) (world : World) :
    (selected subDays world dataType).Pairwise fun record other => record.id ≠ other.id := by
  have undeleted : world.undeleted.Pairwise fun user other =>
      user.id ≠ other.id := world.users.rows_pairwise.filter _
  simp only [List.mem_cons, List.not_mem_nil, or_false] at kind
  rcases kind with rfl | rfl | rfl
  · exact ((undeleted.filter _).filter _).map _ fun _ _ apart => apart
  · exact ((undeleted.filter _).filter _).map _ fun _ _ apart => apart
  · exact (undeleted.filter _).map _ fun _ _ apart => apart

variable (dataType) in
/-- What a run makes of a user whose turn comes at a time, after others. -/
def renewed (world : World) (before : List (Date × PIIRecord)) (time : Date) (user : User) : User :=
  (renewal dataType time (world.random (world.drawn +
    2 * (before.countP fun item => valued dataType item.2) + 1))).apply user

theorem row_processed (kind : dataType ∈ [PIIDataType.email, .phone, .name])
    (turn : schedule dataType (selected subDays world dataType) world.now =
      before ++ (time, .ofUser user) :: behind) (some : valued dataType (.ofUser user) = true) :
    (processed subDays dataType [] world).users.row user.id =
      .some (renewed dataType world before time user) := by
  have records := map_schedule dataType (selected subDays world dataType) world.now
  rw [turn, List.map_append, List.map_cons] at records
  have pairwise := selected_pairwise subDays kind world
  rw [← records, List.pairwise_append, List.pairwise_cons] at pairwise
  obtain ⟨-, ⟨after, -⟩, earlier⟩ := pairwise
  have apart : ∀ item ∈ before ++ behind, item.2.id ≠ user.id := by
    intro item member
    rcases List.mem_append.mp member with front | back
    · exact earlier item.2 (List.mem_map_of_mem front) (.ofUser user) (List.mem_cons_self ..)
    · exact (after item.2 (List.mem_map_of_mem back)).symm
  have found : PIIRecord.ofUser user ∈ selected subDays world dataType := by grind
  obtain ⟨_, same, stored⟩ := (mem_liveRows_user kind).mp (mem_liveRows_of_selected subDays found)
  cases same
  obtain ⟨cache, cached⟩ := foundAt_eq dataType world
  have kept : ({ world with cache } : World).users.row user.id =
      .some user := stored
  rw [processed_eq, turn, cached]
  exact row_fold_user kind some apart kept

/-! ### Users found again -/

variable (dataType) in
/-- A query would find the user. -/
def Due (world : World) (user : User) : Prop :=
  user.deletedAt = none ∧ user.createdAt < cutoffOf subDays world dataType ∧
    user.status ∈ [UserStatus.inactive, .deleted, .suspended] ∧
    match dataType with
    | .email => user.id ∉ knownHolders world .email
    | _ => user.phoneNumber.isSome

theorem mem_selected_user (kind : dataType = .email ∨ dataType = .phone) :
    .ofUser user ∈ selected subDays world dataType ↔ world.users.row user.id = some user ∧
        Due subDays dataType world user := by
  have injective : Function.Injective PIIRecord.ofUser := fun _ _ same => by
    cases same
    rfl
  have stored : user ∈ world.users.rows ↔ world.users.row user.id = some user := Table.mem_rows
  rcases kind with rfl | rfl
  all_goals
    rw [selected, List.mem_map_of_injective injective, ← stored]
    simp only [Due, World.dormant, World.undeleted, List.mem_filter, decide_eq_true_eq]
    tauto

variable (dataType) in
def atEnd (world : World) : World :=
  (foundAt dataType world).stamped (lastTime dataType (selected subDays world dataType) world.now)
    world.purgeLog

/-- A user with a new address or number is due as the user would have been
with the old one. -/
theorem due_renewed (kind : dataType = .email ∨ dataType = .phone)
    (world : World) (before : List (Date × PIIRecord)) (time : Date)
    (some : valued dataType (.ofUser user) = true) :
    Due subDays dataType (processed subDays dataType [] world)
        (renewed dataType world before time user) ↔
      Due subDays dataType (atEnd subDays dataType world) user := by
  have framed := @framed_fold dataType (schedule dataType
    (selected subDays world dataType) world.now) (foundAt dataType world)
  rw [processed_eq]
  rcases kind with rfl | rfl
  · have known : ∀ log, knownHolders ((List.foldl (purgeAt .email)
        (foundAt .email world) (schedule .email (selected subDays world .email) world.now)).stamped
            (lastTime .email (selected subDays world .email) world.now) log)
              .email = knownHolders (atEnd subDays .email world) .email := by
      intro log
      simp only [knownHolders, World.activeHolds, World.stamped, atEnd, framed.cache, framed.holds]
      rfl
    simp only [Due, known]
    exact Iff.rfl
  · have present : user.phoneNumber.isSome := by
      cases number : user.phoneNumber <;> simp_all [valued, extractPIIValue, textValue]
    exact and_congr_right fun _ => and_congr_right fun _ =>
      and_congr_right fun _ => ⟨fun _ => present, fun _ => rfl⟩

theorem valued_renewed (kind : dataType = .email ∨ dataType = .phone)
    (world : World) (before : List (Date × PIIRecord)) (time : Date) (user : User) :
    valued dataType (.ofUser (renewed dataType world before time user)) =
      true := by rcases kind with rfl | rfl <;> rfl

theorem selected_name (world : World) :
    selected subDays world .name = [] := by
  rw [selected, List.map_eq_nil_iff, List.filter_eq_nil_iff]
  intro user undeleted
  have none : user.deletedAt = none := by simpa using (List.mem_filter.mp undeleted).2
  simp [none]

/-! ### Effective purges -/

variable (dataType)

/-- A run has logged a purge of the records: they are among those it found,
and the new entries tell their owners and what they held. -/
structure LoggedFor (world after : World) (records : List PIIRecord) :
    Prop where
  found : records.Sublist (selected subDays world dataType)
  logged : ∃ added, after.purgeLog = world.purgeLog ++ added ∧
    List.Forall₂ (fun record entry => entry.userId = record.owner ∧
      extractPIIValue record dataType = some entry.originalValue) records added

/-- The row of the record holds what the record held. -/
def StillHeld (world : World) (record : PIIRecord) : Prop :=
  ∃ row ∈ liveRows world dataType, row.id = record.id ∧
    extractPIIValue row dataType = extractPIIValue record dataType

/-- Of what a run has purged nothing is held any more, and a second run right
after it logs, archives and changes nothing about it. -/
structure Effective (world first second : World) : Prop where
  cleared : ∀ purged, LoggedFor subDays dataType world first purged →
    ∀ record ∈ purged, ¬ StillHeld dataType first record
  unlogged : ∀ purged, LoggedFor subDays dataType world first purged →
    ∀ again, LoggedFor subDays dataType first second again →
      ∀ record ∈ purged, ∀ other ∈ again, other.id ≠ record.id
  unarchived : ∀ purged, LoggedFor subDays dataType world first purged →
    ∀ record ∈ purged, ∃ archived, second.archives = first.archives ++ archived ∧
        ∀ archive ∈ archived, archive.originalRecord.id ≠ record.id
  unchanged : ∀ purged, LoggedFor subDays dataType world first purged →
    ∀ record ∈ purged, ∀ row : PIIRecord, row.id = record.id →
      (row ∈ liveRows second dataType ↔ row ∈ liveRows first dataType)

/-- No user whose address or number is replaced is due when the run ends, and
the new one is not the one that was there. -/
def ReplacesOnce (world : World) : Prop := ∀ before time user behind,
    schedule dataType (selected subDays world dataType) world.now =
      before ++ (time, .ofUser user) :: behind → valued dataType (.ofUser user) = true →
    ¬ Due subDays dataType (atEnd subDays dataType world) user ∧
      extractPIIValue (.ofUser (renewed dataType world before time user))
        dataType ≠ extractPIIValue (.ofUser user) dataType

/-- What a purge needs so as to take effect once: what it replaces is replaced
once, and no financial record is due.  Of names nothing is ever found, and
what is found of the other types is deleted. -/
def PurgeSettles (world : World) : Prop :=
  match dataType with
  | .email | .phone => ReplacesOnce subDays dataType world
  | .financialData => selected subDays world .financialData = []
  | _ => True

variable {dataType}

theorem loggedFor_processed_iff :
    LoggedFor subDays dataType world (processed subDays dataType [] world) records ↔
      records = (selected subDays world dataType).filter (valued dataType) := by
  have matched := @entriesAt_matched dataType (schedule dataType
    (selected subDays world dataType) world.now) (foundAt dataType world)
  rw [map_schedule] at matched
  have log : (processed subDays dataType [] world).purgeLog = world.purgeLog ++
      entriesAt dataType (schedule dataType (selected subDays world dataType)
        world.now) (foundAt dataType world) := by
    rw [processed_eq]
    rfl
  constructor
  · rintro ⟨found, added, logged, told⟩
    have same := List.append_cancel_left (logged.symm.trans log)
    obtain ⟨some, -⟩ := (List.forall₂_and_left
      (p := fun record => valued dataType record = true) records added).mp
        (told.imp fun record entry pair => ⟨by simp [valued, pair.2], pair⟩)
    have shorter := found.filter (valued dataType)
    rw [List.filter_eq_self.mpr some] at shorter
    refine shorter.eq_of_length ?_
    rw [told.length_eq, same, matched.length_eq]
  · rintro rfl
    exact ⟨List.filter_sublist, _, log, matched⟩

theorem Effective.of_none {second : World} (none : selected subDays world dataType = []) :
    Effective subDays dataType world (processed subDays dataType [] world)
      second := by
  have vacuous : ∀ purged, LoggedFor subDays dataType world
      (processed subDays dataType [] world) purged →
        ∀ record, record ∉ purged := by simp_all [loggedFor_processed_iff]
  exact ⟨fun purged logged record member => absurd member (vacuous purged logged record),
    fun purged logged _ _ record member => absurd member (vacuous purged logged record),
    fun purged logged record member => absurd member (vacuous purged logged record),
    fun purged logged record member => absurd member (vacuous purged logged record)⟩

/-- Where nothing that was purged is held or found again, the second run
leaves it alone. -/
theorem Effective.of_apart (other : dataType ≠ .financialData)
    (settled : ∀ record ∈ selected subDays world dataType, valued dataType record = true →
        ¬ StillHeld dataType (processed subDays dataType [] world) record ∧
          ∀ again ∈ selected subDays (processed subDays dataType [] world)
            dataType, valued dataType again = true → again.id ≠ record.id) :
    Effective subDays dataType world (processed subDays dataType [] world)
      (processed subDays dataType [] (processed subDays dataType [] world)) := by
  have purgedOnes {purged : List PIIRecord} {record : PIIRecord}
      (logged : LoggedFor subDays dataType world (processed subDays dataType [] world) purged)
      (member : record ∈ purged) :
      record ∈ selected subDays world dataType ∧
        valued dataType record = true := by simp_all [loggedFor_processed_iff]
  constructor
  · grind
  · simp_all [loggedFor_processed_iff]
  · simp_all [archives_processed]
  · grind [mem_processed_of_ne]

theorem effective_of_deleted
    (deletes : dataType = .ipAddress ∨ dataType = .communicationPreferences) (world : World) :
    Effective subDays dataType world (processed subDays dataType [] world)
      (processed subDays dataType [] (processed subDays dataType [] world)) := by
  have other : dataType ≠ .financialData := by
    rcases deletes with rfl | rfl <;> decide
  refine .of_apart subDays other fun record found some => ⟨?_, ?_⟩
  · rintro ⟨row, live, same, -⟩
    exact ne_of_mem_processed subDays deletes live found some same
  · grind [ne_of_mem_processed, mem_liveRows_of_selected]

/-- Financial records that are found stay, so that a purge of them never takes
effect. -/
theorem effective_financial_iff (world : World) :
    Effective subDays .financialData world (processed subDays .financialData [] world)
        (processed subDays .financialData [] (processed subDays .financialData [] world)) ↔
      selected subDays world .financialData = [] := by
  constructor
  · intro effective
    refine List.eq_nil_iff_forall_not_mem.mpr fun record found => ?_
    obtain ⟨row, -, rfl⟩ := List.mem_map.mp found
    refine effective.cleared _ ((loggedFor_processed_iff subDays).mpr rfl)
      (.ofFinancialRecord row) (List.mem_filter.mpr ⟨found, rfl⟩) ?_
    refine ⟨.ofFinancialRecord row, ?_, rfl, rfl⟩
    have live := mem_liveRows_of_selected subDays found
    obtain ⟨cache, cached⟩ := foundAt_eq .financialData world
    rw [liveRows_processed, liveRows, (framed_fold _ _).financialRecords, cached]
    exact live
  · exact Effective.of_none subDays

/-- A user whose turn comes holds what was drawn, and is found again if still
due. -/
theorem stillHeld_user_iff (kind : dataType ∈ [PIIDataType.email, .phone, .name])
    (turn : schedule dataType (selected subDays world dataType) world.now =
      before ++ (time, .ofUser user) :: behind) (some : valued dataType (.ofUser user) = true) :
    StillHeld dataType (processed subDays dataType [] world) (.ofUser user) ↔
      extractPIIValue (.ofUser (renewed dataType world before time user))
        dataType = extractPIIValue (.ofUser user) dataType := by
  have stored := row_processed subDays kind turn some
  constructor
  · rintro ⟨row, live, same, value⟩
    obtain ⟨other, rfl, found⟩ := (mem_liveRows_user kind).mp live
    rw [same] at found
    cases found.symm.trans stored
    exact value
  · intro value
    refine ⟨.ofUser (renewed dataType world before time user), ?_, rfl, value⟩
    exact (mem_liveRows_user kind).mpr ⟨_, rfl, stored⟩

/-- A purge that replaces takes effect once if no user is due again and the
new value is another one. -/
theorem effective_user_iff (kind : dataType = .email ∨ dataType = .phone) (world : World) :
    Effective subDays dataType world (processed subDays dataType [] world)
        (processed subDays dataType [] (processed subDays dataType [] world)) ↔
      ReplacesOnce subDays dataType world := by
  have member : dataType ∈ [PIIDataType.email, .phone, .name] := by
    rcases kind with rfl | rfl <;> decide
  have records := map_schedule dataType (selected subDays world dataType) world.now
  constructor
  · intro effective before time user behind turn some
    have purged : PIIRecord.ofUser user ∈
        (selected subDays world dataType).filter (valued dataType) := by grind
    have logged := (@loggedFor_processed_iff subDays dataType world _).mpr rfl
    constructor
    · intro due
      have again : PIIRecord.ofUser (renewed dataType world before time user) ∈
          selected subDays (processed subDays dataType [] world) dataType :=
        (mem_selected_user subDays kind).mpr ⟨row_processed subDays member turn some,
            (due_renewed subDays kind world before time some).mpr due⟩
      exact effective.unlogged _ logged _ ((loggedFor_processed_iff subDays).mpr rfl) _ purged _
        (List.mem_filter.mpr ⟨again, valued_renewed kind world before time user⟩) rfl
    · intro same
      exact effective.cleared _ logged _ purged
        ((stillHeld_user_iff subDays member turn some).mpr same)
  · intro settles
    have other : dataType ≠ .financialData := by
      rcases kind with rfl | rfl <;> decide
    refine .of_apart subDays other fun record found some => ?_
    obtain ⟨user, rfl, -⟩ : ∃ user, record = .ofUser user ∧
        dataType ∈ [PIIDataType.email, .phone, .name] := by grind [valued_kinds]
    rw [← records] at found
    obtain ⟨⟨time, record⟩, scheduled, rfl⟩ := List.mem_map.mp found
    obtain ⟨before, behind, turn⟩ := List.append_of_mem scheduled
    obtain ⟨gone, changed⟩ := settles before time user behind turn some
    refine ⟨fun held => changed ((stillHeld_user_iff subDays member turn some).mp held), ?_⟩
    intro again foundAgain _ same
    obtain ⟨next, rfl, stored⟩ := (mem_liveRows_user member).mp
      (mem_liveRows_of_selected subDays foundAgain)
    rw [same] at stored
    cases stored.symm.trans (row_processed subDays member turn some)
    simp_all [due_renewed, mem_selected_user]

end

/-- One user, inactive for more than a year, with a record that has been due
for longer. -/
def oneCustomer : World :=
  { oneUser with
    financialRecords := [
      { id := 1
        userId := 7
        paymentMethod := some "card"
        amount := 100
        createdAt := 0
        archived := false }]
    now := 300000000000 }

end MarketX.Retention
