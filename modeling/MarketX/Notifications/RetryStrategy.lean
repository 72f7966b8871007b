/-
Module: MarketX.Notifications.RetryStrategy
Purpose: The retries of an operation (`notifications/retry-strategy.service.ts`)
  under any configuration: how often it is called, what is returned and
  recorded of the calls, and how long is waited between them.
Trusted boundary: human-reviewed model of the source, whose operation returns
  and throws what it is given to, call by call
Main exports: RetryConfig, Thrown, World, executeWithRetry_lawful_iff
-/
import MarketX.Notifications.NotificationsService

namespace MarketX.Retries

open Numerals

/-! ### Configurations -/

/-- The delays and the multiplier are any numbers. -/
structure RetryConfig where
  maxRetries : ℕ
  initialDelayMs : Number
  maxDelayMs : Number
  backoffMultiplier : Number
  useJitter : Bool
deriving DecidableEq

/-- `Partial<RetryConfig>`. -/
structure PartialRetryConfig where
  maxRetries : Option ℕ := none
  initialDelayMs : Option Number := none
  maxDelayMs : Option Number := none
  backoffMultiplier : Option Number := none
  useJitter : Option Bool := none

def DEFAULT_RETRY_CONFIG : RetryConfig where
  maxRetries := 3
  initialDelayMs := .finite 1000
  maxDelayMs := .finite 30000
  backoffMultiplier := .finite 2
  useJitter := true

/-- `{ ...DEFAULT_RETRY_CONFIG, ...config }`. -/
def PartialRetryConfig.overDefault (config : PartialRetryConfig) :
    RetryConfig where
  maxRetries := config.maxRetries.getD DEFAULT_RETRY_CONFIG.maxRetries
  initialDelayMs := config.initialDelayMs.getD DEFAULT_RETRY_CONFIG.initialDelayMs
  maxDelayMs := config.maxDelayMs.getD DEFAULT_RETRY_CONFIG.maxDelayMs
  backoffMultiplier := config.backoffMultiplier.getD DEFAULT_RETRY_CONFIG.backoffMultiplier
  useJitter := config.useJitter.getD DEFAULT_RETRY_CONFIG.useJitter

/-! ### What is thrown, returned and emitted -/

/-- An object of the class `Error`. -/
structure ErrorObject where
  name : String := "Error"
  message : String
deriving DecidableEq

/-- What the operation throws: an error, or another value, as its text. -/
inductive Thrown where
  | error (error : ErrorObject)
  | value (text : String)
deriving DecidableEq

/-- `error instanceof Error ? error : new Error(String(error))`. -/
def Thrown.asError : Thrown → ErrorObject
  | .error thrown => thrown
  | .value text => { message := text }

structure RetryAttempt where
  attemptNumber : ℕ
  delayMs : Number
  timestamp : Date
  error : Option ErrorObject := none

structure RetryResult (α : Type) where
  success : Bool
  result : Option α := none
  attempts : List RetryAttempt
  totalDurationMs : Date
  error : Option ErrorObject := none

/-- An attempt as the event of the last one lists it. -/
structure AttemptSummary where
  attemptNumber : ℕ
  error : Option String
  timestamp : Date

/-- The events for monitoring. -/
inductive Event where
  | started (context : Option Json) (attemptNumber maxRetries : ℕ) (error : String)
  | succeeded (context : Option Json) (attemptNumber totalAttempts : ℕ) (totalDurationMs : Date)
  | attemptFailed (context : Option Json) (attemptNumber maxRetries : ℕ)
      (error : String) (nextRetryInMs : Number)
  | exhausted (context : Option Json) (totalAttempts : ℕ)
      (totalDurationMs : Date) (error : Option String) (attempts : List AttemptSummary)

/-! ### The state -/

/-- A value of `Math.random`. -/
structure Random where
  value : ℚ
  nonneg : 0 ≤ value
  lt_one : value < 1

/-- How the calls of the operation end, in turn, what is drawn at random and
what the clock says; how much of each has been used; and the delays that have
been waited and the events. -/
structure World (α : Type) where
  outcomes : ℕ → Except Thrown α
  randoms : ℕ → Random
  clock : ℕ → Date
  calls : ℕ := 0
  draws : ℕ := 0
  looks : ℕ := 0
  waited : List Number := []
  events : List Event := []

variable {α : Type}

abbrev Service (α β : Type) := StateM (World α) β

/-- `await operation()`, with what it throws. -/
def operation : Service α (Except Thrown α) := fun world =>
  (world.outcomes world.calls, { world with calls := world.calls + 1 })

def random : Service α Random := fun world =>
  (world.randoms world.draws, { world with draws := world.draws + 1 })

def dateNow : Service α Date := fun world =>
  (world.clock world.looks, { world with looks := world.looks + 1 })

def sleep (ms : Number) : Service α Unit := fun world =>
  ((), { world with waited := world.waited ++ [ms] })

def emit (event : Event) : Service α Unit := fun world =>
  ((), { world with events := world.events ++ [event] })

/-! ### The service -/

/-- A delay before jitter. -/
def cappedDelay (attempt : ℕ) (config : RetryConfig) : Number :=
  let exponentialDelay := (config.initialDelayMs.mul
    (config.backoffMultiplier.pow (attempt - 1))).clip
  exponentialDelay.least config.maxDelayMs

def calculateBackoff (attempt : ℕ) (config : RetryConfig) :
    Service α Number := do
  let cappedDelay := cappedDelay attempt config
  if config.useJitter then
    let random ← random
    pure ((Number.finite random.value).mul cappedDelay).floor
  else pure cappedDelay

section

variable (finalConfig : RetryConfig) (context : Option Json) (startTime : Date)

def summary (attempt : RetryAttempt) : AttemptSummary where
  attemptNumber := attempt.attemptNumber
  error := attempt.error.map ErrorObject.message
  timestamp := attempt.timestamp

/-- All retries exhausted. -/
def exhausted (attempts : List RetryAttempt) :
    Service α (RetryResult α) := do
  let finalError := attempts.getLast?.bind RetryAttempt.error
  let now ← dateNow
  emit (.exhausted context attempts.length (now - startTime)
    (finalError.map ErrorObject.message) (attempts.map summary))
  let now ← dateNow
  pure
    { success := false
      attempts
      totalDurationMs := now - startTime
      error := finalError }

def nextRetryInMs (attempt : ℕ) : Service α Number :=
  if attempt < finalConfig.maxRetries then
    calculateBackoff (attempt + 1) finalConfig
  else pure (.finite 0)

/-- The retry `attempt` has thrown. -/
def retryFailed (attempt : ℕ) (delayMs : Number) (thrown : Thrown) :
    Service α RetryAttempt := do
  let timestamp ← dateNow
  let nextRetryInMs ← nextRetryInMs finalConfig attempt
  emit (.attemptFailed context attempt finalConfig.maxRetries thrown.asError.message nextRetryInMs)
  pure
    { attemptNumber := attempt, delayMs, timestamp
      error := some thrown.asError }

/-- The retry `attempt` has returned. -/
def retrySucceeded (attempt : ℕ) (delayMs : Number) (attempts : List RetryAttempt) (result : α) :
    Service α (RetryResult α) := do
  let timestamp ← dateNow
  let attempts := attempts ++ [{ attemptNumber := attempt, delayMs, timestamp }]
  let now ← dateNow
  emit (.succeeded context attempt attempts.length (now - startTime))
  let now ← dateNow
  pure
    { success := true
      result := some result
      attempts
      totalDurationMs := now - startTime }

/-- The retries from `attempt` on, of which some remain.  The `try` is around
the operation only: nothing else in it throws. -/
def retry (attempt : ℕ) :
    ℕ → List RetryAttempt → Service α (RetryResult α)
  | 0, attempts => exhausted context startTime attempts
  | remaining + 1, attempts => do
      let delayMs ← calculateBackoff attempt finalConfig
      sleep delayMs
      match ← operation with
      | .ok result => retrySucceeded context startTime attempt delayMs attempts result
      | .error thrown =>
        let failed ← retryFailed finalConfig context attempt delayMs thrown
        retry (attempt + 1) remaining (attempts ++ [failed])

end

def executeWithRetry (config : PartialRetryConfig) (context : Option Json) :
    Service α (RetryResult α) := do
  let finalConfig := config.overDefault
  let startTime ← dateNow
  match ← operation with
  | .ok result =>
    let now ← dateNow
    pure
      { success := true
        result := some result
        attempts := []
        totalDurationMs := now - startTime }
  | .error thrown =>
    let timestamp ← dateNow
    emit (.started context 0 finalConfig.maxRetries thrown.asError.message)
    retry finalConfig context startTime 1 finalConfig.maxRetries
      [{ attemptNumber := 0, delayMs := .finite 0, timestamp
         error := some thrown.asError }]

/-! ### What is returned and recorded -/

/-- How the calls end that a run makes. -/
def World.outcome (world : World α) (call : ℕ) : Except Thrown α :=
  world.outcomes (world.calls + call)

/-- What is recorded of an outcome. -/
def recorded : Except Thrown α → Option ErrorObject
  | .ok _ => none
  | .error thrown => some thrown.asError

/-- So many calls are made: until the first one that returns, and no more than
there are retries behind the first. -/
structure Called (outcome : ℕ → Except Thrown α) (maxRetries count : ℕ) :
    Prop where
  positive : 1 ≤ count
  bounded : count ≤ maxRetries + 1
  failed : ∀ call, call + 1 < count → (outcome call).isOk = false
  stopped : count ≤ maxRetries → (outcome (count - 1)).isOk = true

/-- What a run that makes so many calls returns. -/
structure Retried (outcome : ℕ → Except Thrown α) (count : ℕ)
    (result : RetryResult α) : Prop where
  success_iff : result.success = true ↔ ∃ call < count, (outcome call).isOk = true
  returned : result.result = (outcome (count - 1)).toOption
  listed : result.attempts.map (fun attempt => (attempt.attemptNumber, attempt.error)) =
    if (outcome 0).isOk then []
    else (List.range count).map fun call => (call, recorded (outcome call))
  failure : result.error = recorded (outcome (count - 1))

/-! ### Delays -/

/-- The delays are numbers from zero on, the multiplier one from one on. -/
structure Sensible (config : RetryConfig) : Prop where
  initial : (Number.finite 0).le config.initialDelayMs
  maximum : (Number.finite 0).le config.maxDelayMs
  multiplier : (Number.finite 1).le config.backoffMultiplier

section

variable (config : RetryConfig) (attempt : ℕ) (random : Random)

/-- The delay before a retry, with what is drawn for it. -/
def delayOf : Number :=
  if config.useJitter then
    ((Number.finite random.value).mul (cappedDelay attempt config)).floor
  else cappedDelay attempt config

def InRange (delay : Number) : Prop :=
  (Number.finite 0).le delay ∧ delay.le config.maxDelayMs

/-- Nothing is multiplied by infinity: a first delay of nothing by a power too
large for a double, or a part of nothing by a delay without a maximum. -/
def Drawable : Prop :=
  let power := config.backoffMultiplier.pow (attempt - 1)
  ¬ (config.initialDelayMs = .finite 0 ∧ power = .infinity false) ∧
    ¬ (config.useJitter = true ∧ random.value = 0 ∧ config.maxDelayMs = .infinity false ∧
        (config.initialDelayMs.mul power).clip = .infinity false)

variable {config attempt random}

theorem not_inRange_nan : ¬ InRange config .nan := by
  rintro ⟨low, -⟩
  cases low

theorem delayOf_inRange_iff (sensible : Sensible config) :
    InRange config (delayOf config attempt random) ↔
      Drawable config attempt random := by
  unfold delayOf Drawable
  rcases Number.mul_nonneg_cases sensible.initial
      (Number.one_le_pow sensible.multiplier (attempt - 1)) with
    low | ⟨nothing, endless, undefined⟩
  · have capped : (Number.finite 0).le (cappedDelay attempt config) ∧
        (cappedDelay attempt config).le config.maxDelayMs := Number.least_cases low sensible.maximum
    have defined : ¬ (config.initialDelayMs = .finite 0 ∧
        config.backoffMultiplier.pow (attempt - 1) = .infinity false) := by
      rintro ⟨nothing, endless⟩
      rw [nothing, endless] at low
      cases low
    rw [and_iff_right defined]
    cases jitter : config.useJitter with
    | false => exact iff_of_true capped fun drawn => Bool.noConfusion drawn.1
    | true =>
      rcases Number.floor_mul_cases random.nonneg random.lt_one capped.1 with
        ⟨nonneg, below⟩ | ⟨zero, endless, undefined⟩
      · refine iff_of_true ⟨nonneg, Number.le_trans below capped.2⟩ ?_
        rintro ⟨-, zero, unbounded, unending⟩
        have endless : cappedDelay attempt config = .infinity false := by
          rw [cappedDelay, unending, unbounded]
          rfl
        rw [zero, endless] at nonneg
        cases nonneg
      · rw [undefined]
        obtain ⟨unending, unbounded⟩ := Number.least_eq_infinity low sensible.maximum endless
        exact iff_of_false not_inRange_nan fun drawable => drawable ⟨rfl, zero, unbounded, unending⟩
  · have undefined : cappedDelay attempt config = .nan := by
      rw [cappedDelay, undefined]
      rfl
    refine iff_of_false ?_ fun drawable => drawable.1 ⟨nothing, endless⟩
    rw [undefined]
    split <;> exact not_inRange_nan

end

/-! ### The run -/

section

variable (config : RetryConfig) (start : World α)

/-- What has been drawn when the delay before a retry is: one number for it
and one for its announcement, for each retry before. -/
def drawnBefore (attempt : ℕ) : ℕ :=
  if config.useJitter then 2 * (attempt - 1) else 0

/-- What is drawn for the delay before a retry. -/
def drawnFor (attempt : ℕ) : Random := start.randoms (start.draws + drawnBefore config attempt)

/-- The delays before so many retries. -/
def delays (retries : ℕ) : List Number :=
  (List.range retries).map fun earlier =>
    delayOf config (earlier + 1) (drawnFor config start (earlier + 1))

/-- How a run ends: so many calls have been made, and so long been waited. -/
structure Ended (result : RetryResult α) (after : World α) (count : ℕ) :
    Prop where
  calls : after.calls = start.calls + count
  called : Called start.outcome config.maxRetries count
  retried : Retried start.outcome count result
  waited : after.waited = start.waited ++ delays config start (count - 1)

/-- The state before a retry: every call has thrown, and is recorded. -/
structure Failing (attempt : ℕ) (attempts : List RetryAttempt)
    (world : World α) : Prop where
  outcomes : world.outcomes = start.outcomes
  randoms : world.randoms = start.randoms
  calls : world.calls = start.calls + attempt
  draws : attempt ≤ config.maxRetries → world.draws = start.draws + drawnBefore config attempt
  failed : ∀ call < attempt, (start.outcome call).isOk = false
  listed : attempts.map (fun made => (made.attemptNumber, made.error)) =
    (List.range attempt).map fun call => (call, recorded (start.outcome call))
  waited : world.waited = start.waited ++ delays config start (attempt - 1)

theorem calculateBackoff_eq (attempt : ℕ) (world : World α) :
    calculateBackoff attempt config world = (delayOf config attempt (world.randoms world.draws),
        { world with
          draws := world.draws + if config.useJitter then 1 else 0 }) := by
  unfold calculateBackoff delayOf
  cases config.useJitter <;> rfl

variable {config start} {attempt : ℕ} {attempts : List RetryAttempt}
  {world : World α} (context : Option Json) (startTime : Date)

theorem not_isOk {outcome : Except Thrown α} (failed : outcome.isOk = false) :
    outcome.toOption = none := by
  cases outcome with
  | ok value => cases failed
  | error thrown => rfl

theorem Failing.getLast? (failing : Failing config start attempt attempts world)
    (positive : 1 ≤ attempt) :
    attempts.getLast?.bind RetryAttempt.error = recorded (start.outcome (attempt - 1)) := by
  have last := congrArg List.getLast? failing.listed
  grind

theorem Failing.exhausted (failing : Failing config start attempt attempts world)
    (all : attempt = config.maxRetries + 1) :
    ∃ count, Ended config start (Retries.exhausted context startTime attempts world).1
      (Retries.exhausted context startTime attempts world).2 count := by
  refine ⟨attempt, failing.calls, ?_, ?_, failing.waited⟩
  · refine ⟨by omega, by omega, fun call earlier => failing.failed call ?_, fun fewer => ?_⟩
    · omega
    · omega
  · have positive : 1 ≤ attempt := by omega
    have last := failing.failed (attempt - 1) (by omega)
    refine ⟨?_, (not_isOk last).symm, ?_, failing.getLast? positive⟩
    · refine iff_of_false Bool.noConfusion ?_
      rintro ⟨call, earlier, succeeds⟩
      rw [failing.failed call earlier] at succeeds
      cases succeeds
    · rw [failing.failed 0 positive, if_neg Bool.false_ne_true]
      exact failing.listed

theorem bind_apply {β γ : Type} (first : Service α β) (rest : β → Service α γ) (world : World α) :
    (first >>= rest) world = rest (first world).1 (first world).2 := rfl

/-- The state in which a retry calls the operation. -/
def called (config : RetryConfig) (attempt : ℕ) (world : World α) : World α :=
  { world with
    draws := world.draws + if config.useJitter then 1 else 0
    waited := world.waited ++
      [delayOf config attempt (world.randoms world.draws)]
    calls := world.calls + 1 }

theorem retry_succ (remaining : ℕ) :
    retry config context startTime attempt (remaining + 1) attempts world =
      match world.outcomes world.calls with
      | .ok result =>
        retrySucceeded context startTime attempt
          (delayOf config attempt (world.randoms world.draws)) attempts
          result (called config attempt world)
      | .error thrown =>
        let failed := retryFailed config context attempt
          (delayOf config attempt (world.randoms world.draws)) thrown (called config attempt world)
        retry config context startTime (attempt + 1) remaining
          (attempts ++ [failed.1]) failed.2 := by
  rw [retry, bind_apply, calculateBackoff_eq]
  show (match world.outcomes world.calls with
    | .ok result => _ | .error thrown => _ : Service α _) _ = _
  cases world.outcomes world.calls <;> rfl

theorem Failing.called_waited (failing : Failing config start attempt attempts world)
    (positive : 1 ≤ attempt) (within : attempt ≤ config.maxRetries) :
    (called config attempt world).waited = start.waited ++ delays config start attempt := by
  obtain ⟨earlier, rfl⟩ := Nat.exists_eq_add_of_le' positive
  show world.waited ++ [delayOf config (earlier + 1) (world.randoms world.draws)] = _
  rw [failing.waited, failing.randoms, failing.draws within, List.append_assoc,
    Nat.add_sub_cancel, delays, delays, List.range_succ, List.map_append]
  rfl

theorem Failing.outcome_eq (failing : Failing config start attempt attempts world) :
    world.outcomes world.calls = start.outcome attempt := by
  rw [failing.outcomes, failing.calls, World.outcome]

theorem Failing.succeeded (failing : Failing config start attempt attempts world)
    (positive : 1 ≤ attempt) (within : attempt ≤ config.maxRetries) {result : α}
    (returns : start.outcome attempt = .ok result) (delayMs : Number) :
    let ending := retrySucceeded context startTime attempt delayMs attempts
      result (called config attempt world)
    Ended config start ending.1 ending.2 (attempt + 1) := by
  have ok : (start.outcome attempt).isOk = true := by rw [returns]; rfl
  refine ⟨?_, ⟨by omega, by omega, ?_, fun _ => ok⟩, ⟨?_, ?_, ?_, ?_⟩,
    failing.called_waited positive within⟩
  · show world.calls + 1 = _
    rw [failing.calls, Nat.add_assoc]
  · intro call earlier
    exact failing.failed call (by omega)
  · exact iff_of_true rfl ⟨attempt, attempt.lt_succ_self, ok⟩
  · show some result = (start.outcome attempt).toOption
    rw [returns]
    rfl
  · show (attempts ++ [_]).map _ = _
    rw [failing.failed 0 positive, if_neg Bool.false_ne_true, List.map_append,
      failing.listed, List.range_succ, List.map_append, List.map_singleton,
      List.map_singleton, returns]
    rfl
  · show none = recorded (start.outcome attempt)
    rw [returns]
    rfl

variable (config attempt) in
theorem retryFailed_facts (delayMs : Number) (thrown : Thrown) (world : World α) :
    let failed := retryFailed config context attempt delayMs thrown world
    (failed.1.attemptNumber = attempt ∧ failed.1.error = some thrown.asError) ∧
      failed.2.outcomes = world.outcomes ∧
      failed.2.randoms = world.randoms ∧ failed.2.calls = world.calls ∧
      failed.2.waited = world.waited ∧ (attempt < config.maxRetries →
        failed.2.draws = world.draws + if config.useJitter then 1 else 0) := by
  unfold retryFailed nextRetryInMs
  by_cases more : attempt < config.maxRetries
  · rw [if_pos more]
    unfold calculateBackoff
    cases config.useJitter <;> exact ⟨⟨rfl, rfl⟩, rfl, rfl, rfl, rfl, fun _ => rfl⟩
  · rw [if_neg more]
    exact ⟨⟨rfl, rfl⟩, rfl, rfl, rfl, rfl, fun less => absurd less more⟩

theorem Failing.next (failing : Failing config start attempt attempts world)
    (positive : 1 ≤ attempt) (within : attempt ≤ config.maxRetries)
    {thrown : Thrown} (throws : start.outcome attempt = .error thrown) (delayMs : Number) :
    let failed := retryFailed config context attempt delayMs thrown (called config attempt world)
    Failing config start (attempt + 1) (attempts ++ [failed.1]) failed.2 := by
  obtain ⟨⟨numbered, reported⟩, outcomes, randoms, calls, waited, draws⟩ :=
    retryFailed_facts config attempt context delayMs thrown (called config attempt world)
  refine
    { outcomes := outcomes.trans failing.outcomes
      randoms := randoms.trans failing.randoms
      calls := ?_
      draws := fun less => ?_
      failed := ?_
      listed := ?_
      waited := waited.trans (failing.called_waited positive within) }
  · rw [calls]
    show world.calls + 1 = _
    rw [failing.calls, Nat.add_assoc]
  · rw [draws less]
    show world.draws + _ + _ = _
    rw [failing.draws within, drawnBefore, drawnBefore]
    split <;> omega
  · intro call earlier
    rcases Nat.lt_succ_iff_lt_or_eq.mp earlier with before | rfl
    · exact failing.failed call before
    · rw [throws]
      rfl
  · rw [List.map_append, failing.listed, List.range_succ, List.map_append,
      List.map_singleton, List.map_singleton, numbered, reported, throws]
    rfl

theorem Failing.ended (remaining : ℕ) (failing : Failing config start attempt attempts world)
    (positive : 1 ≤ attempt) (left : attempt + remaining = config.maxRetries + 1) :
    let ending := retry config context startTime attempt remaining attempts world
    ∃ count, Ended config start ending.1 ending.2 count := by
  induction remaining generalizing attempt attempts world with
  | zero => exact failing.exhausted context startTime left
  | succ remaining ih =>
    have within : attempt ≤ config.maxRetries := by omega
    rw [retry_succ, failing.outcome_eq]
    cases outcome : start.outcome attempt with
    | ok result =>
      exact ⟨attempt + 1, failing.succeeded context startTime positive within outcome _⟩
    | error thrown =>
      exact ih (failing.next context positive within outcome _)
        (Nat.le_add_left 1 attempt) (by omega)

theorem executeWithRetry_ended (config : PartialRetryConfig) (start : World α) :
    let ending := executeWithRetry config context start
    ∃ count, Ended config.overDefault start ending.1 ending.2 count := by
  have unfolded : executeWithRetry config context start =
      match start.outcome 0 with
      | .ok result =>
        ({ success := true
           result := some result
           attempts := []
           totalDurationMs :=
             start.clock (start.looks + 1) - start.clock start.looks },
          { start with
            looks := start.looks + 2
            calls := start.calls + 1 })
      | .error thrown =>
        retry config.overDefault context (start.clock start.looks) 1 config.overDefault.maxRetries
          [{ attemptNumber := 0
             delayMs := .finite 0
             timestamp := start.clock (start.looks + 1)
             error := some thrown.asError }]
          { start with
            looks := start.looks + 2
            calls := start.calls + 1
            events := start.events ++ [.started context 0
              config.overDefault.maxRetries thrown.asError.message] } := by
    show (match start.outcome 0 with
      | .ok result => _ | .error thrown => _ : Service α _) _ = _
    cases start.outcome 0 <;> rfl
  rw [unfolded]
  cases outcome : start.outcome 0 with
  | ok result =>
    have ok : (start.outcome 0).isOk = true := by rw [outcome]; rfl
    refine ⟨1, rfl, ⟨le_refl 1, by omega, nofun, fun _ => ok⟩, ?_, ?_⟩
    · refine ⟨iff_of_true rfl ⟨0, one_pos, ok⟩, ?_, ?_, ?_⟩
      · rw [outcome]
        rfl
      · rw [ok]
        rfl
      · rw [outcome]
        rfl
    · exact (List.append_nil _).symm
  | error thrown =>
    refine Failing.ended context _ config.overDefault.maxRetries ?_ (le_refl 1) (Nat.add_comm _ _)
    refine ⟨rfl, rfl, rfl, fun _ => ?_, ?_, ?_, (List.append_nil _).symm⟩
    · simp [drawnBefore]
    · intro call first
      rw [Nat.lt_one_iff.mp first, outcome]
      rfl
    · rw [List.range_one, List.map_singleton, List.map_singleton, outcome]
      rfl

end

/-! ### Every run -/

/-- The calls and what is made of them are as they should be, and every delay
between them is between nothing and the maximum. -/
def Lawful (config : RetryConfig) (start : World α) (ending : RetryResult α × World α) : Prop :=
  ∃ count waited, ending.2.calls = start.calls + count ∧
    Called start.outcome config.maxRetries count ∧ Retried start.outcome count ending.1 ∧
    ending.2.waited = start.waited ++ waited ∧ ∀ delay ∈ waited, InRange config delay

/-- A retry that is made: every call before it throws. -/
def Made (config : RetryConfig) (start : World α) (attempt : ℕ) : Prop :=
  1 ≤ attempt ∧ attempt ≤ config.maxRetries ∧ ∀ call < attempt, (start.outcome call).isOk = false

theorem Called.made_iff {config : RetryConfig} {start : World α} {count : ℕ}
    (called : Called start.outcome config.maxRetries count) {attempt : ℕ} :
    Made config start attempt ↔ 1 ≤ attempt ∧ attempt ≤ count - 1 := by
  constructor
  · rintro ⟨positive, within, failed⟩
    grind [stopped]
  · rintro ⟨positive, within⟩
    refine ⟨positive, ?_, fun call earlier => called.failed call (by omega)⟩
    have := called.bounded
    omega

/-- A run keeps to all that is promised exactly where no delay before a retry
that is made is undefined. -/
theorem executeWithRetry_lawful_iff (config : PartialRetryConfig)
    (sensible : Sensible config.overDefault) (context : Option Json) (start : World α) :
    Lawful config.overDefault start (executeWithRetry config context start) ↔
      ∀ attempt, Made config.overDefault start attempt → Drawable config.overDefault attempt
          (drawnFor config.overDefault start attempt) := by
  obtain ⟨count, ended⟩ := executeWithRetry_ended context config start
  constructor
  · rintro ⟨_, waited, -, -, -, same, all⟩ attempt made
    obtain ⟨positive, within⟩ := ended.called.made_iff.mp made
    obtain ⟨earlier, rfl⟩ := Nat.exists_eq_add_of_le' positive
    rw [List.append_cancel_left (same.symm.trans ended.waited)] at all
    exact (delayOf_inRange_iff sensible).mp (all _ (List.mem_map.mpr
      ⟨earlier, List.mem_range.mpr (by omega), rfl⟩))
  · intro drawable
    refine ⟨count, _, ended.calls, ended.called, ended.retried, ended.waited,
      fun delay member => ?_⟩
    obtain ⟨earlier, before, rfl⟩ := List.mem_map.mp member
    refine (delayOf_inRange_iff sensible).mpr (drawable _ ?_)
    have := List.mem_range.mp before
    exact ended.called.made_iff.mpr (by omega)

/-- An operation that always throws, and one half drawn each time. -/
def failingOperation : World Unit where
  outcomes _ := .error (.value "down")
  randoms _ := ⟨1 / 2, by decide +kernel, by decide +kernel⟩
  clock look := look

/-- Retries at once, with delays that grow very fast. -/
def hasty : PartialRetryConfig where
  initialDelayMs := some (.finite 0)
  backoffMultiplier := some (.finite (10 ^ 200))
  useJitter := some false

/-- The second power is infinite, and nothing times infinity is no number. -/
theorem delay_not_a_number :
    Sensible hasty.overDefault ∧ (executeWithRetry hasty none failingOperation).2.waited =
        [.finite 0, .finite 0, .nan] ∧ ¬ Lawful hasty.overDefault failingOperation
        (executeWithRetry hasty none failingOperation) := by
  have waits : (executeWithRetry hasty none failingOperation).2.waited =
      [.finite 0, .finite 0, .nan] := by decide +kernel
  refine ⟨⟨by decide, by decide, by decide +kernel⟩, waits, ?_⟩
  rintro ⟨count, waited, -, -, -, same, all⟩
  rw [waits] at same
  have within : InRange hasty.overDefault .nan := by
    refine all _ ?_
    rw [← List.nil_append waited]
    exact same ▸ by decide
  exact not_inRange_nan within

/-- The default configuration, with which every call throws. -/
theorem default_lawful :
    Lawful DEFAULT_RETRY_CONFIG failingOperation (executeWithRetry {} none failingOperation) := by
  refine (executeWithRetry_lawful_iff {} ⟨by decide, by decide, by decide⟩
    none failingOperation).mpr fun attempt _ => ⟨?_, ?_⟩
  · rintro ⟨nothing, -⟩
    exact absurd nothing (by decide)
  · rintro ⟨-, -, endless, -⟩
    exact absurd endless (by decide)

end MarketX.Retries
