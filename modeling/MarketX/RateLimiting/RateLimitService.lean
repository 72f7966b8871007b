/-
Module: MarketX.RateLimiting.RateLimitService
Purpose: The rate limit service (`rate-limiting/rate-limit.service.ts`): its
  configurations and keys, the commands it sends to Redis, and the sliding
  window.
Trusted boundary: human-reviewed model of the source
Main exports: RateLimitConfig, RateLimitService, World, Command
-/
import MarketX.Caching.SortedSet
import MarketX.Caching.Store
import MarketX.Common.Service

namespace MarketX.RateLimiting

open Effects Caching

/-! ### Configurations -/

inductive UserTier where
  | free
  | premium
  | enterprise
  | admin
deriving DecidableEq

structure RateLimitConfig where
  windowMs : ℕ
  maxRequests : ℕ
  burstAllowance : Option ℕ := none
deriving DecidableEq

namespace RateLimitConfig

/-- `Partial<RateLimitConfig>`. -/
structure Overrides where
  windowMs : Option ℕ := none
  maxRequests : Option ℕ := none
  burstAllowance : Option ℕ := none
deriving DecidableEq

/-- `{ ...config, ...overrides }`. -/
def override (config : RateLimitConfig) (overrides : Overrides) :
    RateLimitConfig where
  windowMs := overrides.windowMs.getD config.windowMs
  maxRequests := overrides.maxRequests.getD config.maxRequests
  burstAllowance := overrides.burstAllowance.or config.burstAllowance

/-- `maxAllowed`. -/
def maxAllowed (config : RateLimitConfig) : ℕ := config.maxRequests + config.burstAllowance.getD 0

end RateLimitConfig

/-- The tables of the service, which an administrator can change. -/
structure RateLimitService where
  tierConfigs : UserTier → RateLimitConfig
  endpointConfigs : String → Option RateLimitConfig.Overrides

/-- The tables it starts with. -/
def RateLimitService.initial : RateLimitService where
  tierConfigs
    | .free => ⟨60 * 1000, 10, some 3⟩
    | .premium => ⟨60 * 1000, 50, some 10⟩
    | .enterprise => ⟨60 * 1000, 200, some 50⟩
    | .admin => ⟨60 * 1000, 1000, some 200⟩
  endpointConfigs endpoint :=
    if endpoint = "/api/auth/login" then
      some ⟨some (15 * 60 * 1000), some 5, some 0⟩
    else if endpoint = "/api/auth/register" then
      some ⟨some (60 * 60 * 1000), some 3, some 0⟩
    else if endpoint = "/api/listings" then
      some ⟨some (60 * 1000), some 30, some 5⟩
    else if endpoint = "/api/search" then
      some ⟨some (60 * 1000), some 20, some 3⟩
    else none

namespace RateLimitService

variable (service : RateLimitService)

def getRateLimitConfig (userTier : UserTier) (endpoint : Option String)
    (customConfig : Option RateLimitConfig.Overrides) : RateLimitConfig :=
  let config := service.tierConfigs userTier
  let config :=
    match (endpoint.filter (· ≠ "")).bind service.endpointConfigs with
    | some overrides => config.override overrides
    | none => config
  match customConfig with
  | some overrides => config.override overrides
  | none => config

/-- `replace(/[^a-zA-Z0-9]/g, '_')`, which replaces code units. -/
def sanitized (endpoint : String) : String := String.ofList (endpoint.toList.flatMap fun c =>
    if c.isAlphanum then [c]
    else if c.toNat < 0x10000 then ['_']
    else ['_', '_'])

def generateKey (identifier : String) (endpoint : Option String) : String :=
  match endpoint.filter (· ≠ "") with
  | some endpoint => "rate_limit:" ++ identifier ++ ":" ++ sanitized endpoint
  | none => "rate_limit:" ++ identifier

end RateLimitService

/-! ### Redis -/

/-- The sorted sets of Redis with their deadlines, the clock, and how many
random numbers have been drawn. -/
structure World where
  sets : Store String (SortedSet String Date) Date
  now : Date
  drawn : ℕ

namespace World

def entry (world : World) (key : String) :
    Option (Entry (SortedSet String Date) Date) := world.sets.entry world.now key

/-- The set under a key; a missing one is empty. -/
def zset (world : World) (key : String) : SortedSet String Date :=
  (world.sets.get world.now key).getD .empty

def write (world : World) (key : String)
    (entry : Option (Entry (SortedSet String Date) Date)) : World :=
  { world with sets := world.sets.put key entry }

/-- What is left under a key; an empty set is dropped. -/
def leave (world : World) (key : String) (entry : Entry (SortedSet String Date) Date) : World :=
  world.write key (if entry.value.card = 0 then none else some entry)

def withDraw (world : World) : World :=
  { world with drawn := world.drawn + 1 }

end World

inductive Command where
  | zremrangebyscore (key : String) (min max : Date)
  | zcard (key : String)
  | zadd (key : String) (score : Date) (member : String)
  | expire (key : String) (seconds : ℕ)
  | zrem (key : String) (member : String)
deriving DecidableEq

/-- What a command answers, and what it does. -/
def Command.act : Command → World → ℕ × World
  | .zremrangebyscore key min max, world =>
    match world.entry key with
    | none => (0, world)
    | some entry =>
      let kept := entry.value.removeRange min max
      (entry.value.card - kept.card, world.leave key { entry with value := kept })
  | .zcard key, world => ((world.zset key).card, world)
  | .zadd key score member, world =>
    match world.entry key with
    | none =>
      (1, world.write key (some ⟨SortedSet.empty.add member score, none⟩))
    | some entry =>
      (if member ∈ entry.value then 0 else 1, world.write key
        (some { entry with value := entry.value.add member score }))
  | .expire key seconds, world =>
    match world.entry key with
    | none => (0, world)
    | some entry =>
      (1, world.write key (some { entry with
        expiresAt := some (world.now + seconds * 1000) }))
  | .zrem key member, world =>
    match world.entry key with
    | none => (0, world)
    | some entry =>
      (if member ∈ entry.value then 1 else 0, world.leave key
          { entry with value := entry.value.remove member })

/-- The commands of a pipeline, one after another. -/
def Command.actAll : List Command → World → List ℕ × World
  | [], world => ([], world)
  | command :: commands, world =>
    let first := command.act world
    let rest := actAll commands first.2
    (first.1 :: rest.1, rest.2)

/-! ### Effects -/

structure RateLimitResult where
  success : Bool
  totalHits : ℕ
  remainingPoints : ℕ
  msBeforeNext : ℕ
  headers : List (String × String)
deriving DecidableEq

/-- An entry of the list of analytics. -/
structure AnalyticsEntry where
  identifier : String
  endpoint : String
  userTier : UserTier
  success : Bool
  totalHits : ℕ
  timestamp : Date
deriving DecidableEq

/-- `answer` is what the caller of `checkRateLimit` receives. -/
inductive Op where
  | dateNow
  | random
  | exec (commands : List Command)
  | command (command : Command)
  | pushAnalytics (entry : AnalyticsEntry)
  | answer (result : RateLimitResult)
deriving DecidableEq

@[reducible] def Reply : Op → Type
  | .dateNow => Date
  | .random => String
  | .exec _ => List ℕ
  | .command _ => ℕ
  | _ => Unit

@[reducible] def signature : Signature := ⟨Op, Reply⟩

abbrev Service (α : Type) := Program signature HttpException α

/-- `random n` is the text of the random number that is drawn as the `n`-th
one. -/
@[simp] def act (random : ℕ → String) :
    (op : Op) → World → Reply op × World
  | .dateNow, world => (world.now, world)
  | .random, world => (random world.drawn, world.withDraw)
  | .exec commands, world => Command.actAll commands world
  | .command command, world => command.act world
  | .pushAnalytics _, world => ((), world)
  | .answer _, world => ((), world)

/-- What goes to Redis may throw. -/
def mayFail : Op → Bool
  | .exec _ | .command _ | .pushAnalytics _ => true
  | _ => false

def rateLimits (random : ℕ → String) : Handler signature World :=
  ⟨act random, mayFail⟩

def await (op : Op) : Service (Reply op) := Program.perform (S := signature) op

/-! ### The service -/

/-- `Math.ceil(ms / 1000)`. -/
def ceilSeconds (ms : ℕ) : ℕ := (ms + 999) / 1000

/-- What a request adds to the set of its key. -/
def toMember (now : Date) (draw : String) : String := toString now ++ "-" ++ draw

def windowCommands (key : String) (config : RateLimitConfig) (now : Date)
    (draw : String) : List Command := [ .zremrangebyscore key 0 (now - config.windowMs), .zcard key,
    .zadd key now (toMember now draw), .expire key (ceilSeconds config.windowMs) ]

/-- Where the request is rejected: another number is drawn for the member to
remove. -/
def withdraw (key : String) (now : Date) : Service Unit := do
  let draw ← await .random
  let _ ← await (.command (.zrem key (toMember now draw)))
  pure ()

def generateHeaders (config : RateLimitConfig)
    (remainingPoints msBeforeNext : ℕ) : Service (List (String × String)) := do
  let now ← await .dateNow
  let resetTime := now + config.windowMs
  pure [ ("X-RateLimit-Limit", toString config.maxRequests),
      ("X-RateLimit-Remaining", toString remainingPoints),
      ("X-RateLimit-Reset", toString ((resetTime + 999) / 1000)),
      ("X-RateLimit-Window", toString config.windowMs),
      ("X-RateLimit-Burst", toString (config.burstAllowance.getD 0)),
      ("Retry-After", toString (ceilSeconds msBeforeNext)) ]

/-- What follows the pipeline. -/
def conclude (key : String) (config : RateLimitConfig) (now : Date)
    (currentCount : ℕ) : Service RateLimitResult := do
  let success := decide (currentCount ≤ config.maxAllowed)
  let remainingPoints := config.maxAllowed - currentCount
  let msBeforeNext := if success then 0 else config.windowMs
  let _ ← (if success then pure () else withdraw key now)
  let headers ← generateHeaders config remainingPoints msBeforeNext
  pure { success, totalHits := currentCount, remainingPoints, msBeforeNext,
         headers }

def slidingWindowRateLimit (key : String) (config : RateLimitConfig) :
    Service RateLimitResult := do
  let now ← await .dateNow
  let draw ← await .random
  let results ← await (.exec (windowCommands key config now draw))
  -- +1 for the current request
  conclude key config now (results.getD 1 0 + 1)

/-- Whatever it throws is caught. -/
def logAnalytics (identifier endpoint : String) (userTier : UserTier)
    (result : RateLimitResult) : Service Unit := do
  let timestamp ← await .dateNow
  let _ ← (await (.pushAnalytics
    { identifier, endpoint, userTier, success := result.success,
      totalHits := result.totalHits, timestamp })).attempt
  pure ()

/-- The answer if Redis is down. -/
def failOpen : RateLimitResult where
  success := true
  totalHits := 0
  remainingPoints := 100
  msBeforeNext := 0
  headers := []

namespace RateLimitService

variable (service : RateLimitService)

/-- The `try` block. -/
def checkWithRedis (identifier : String) (userTier : UserTier) (endpoint : Option String)
    (customConfig : Option RateLimitConfig.Overrides) :
    Service RateLimitResult := do
  let config := service.getRateLimitConfig userTier endpoint customConfig
  let key := generateKey identifier endpoint
  let result ← slidingWindowRateLimit key config
  logAnalytics identifier (endpoint.getD "") userTier result
  pure result

def checkRateLimit (identifier : String) (userTier : UserTier) (endpoint : Option String)
    (customConfig : Option RateLimitConfig.Overrides) :
    Service RateLimitResult := do
  let outcome ←
    (service.checkWithRedis identifier userTier endpoint customConfig).attempt
  match outcome with
  | .ok result => pure result
  | .error _ => pure failOpen

end RateLimitService

structure RateLimitStatus where
  currentCount : ℕ
  windowStart : Date
  nextReset : Date
deriving DecidableEq

/-- The window of a status, whatever that of the checks is. -/
def statusWindowMs : ℕ := 60 * 1000

def getRateLimitStatus (identifier : String) (endpoint : Option String) :
    Service RateLimitStatus := do
  let key := RateLimitService.generateKey identifier endpoint
  let now ← await .dateNow
  let windowStart := now - statusWindowMs
  let _ ← await (.command (.zremrangebyscore key 0 windowStart))
  let currentCount ← await (.command (.zcard key))
  pure { currentCount, windowStart, nextReset := now + statusWindowMs }

/-- A call of `checkRateLimit`. -/
structure RateLimitCall where
  identifier : String
  userTier : UserTier := .free
  endpoint : Option String := none
  customConfig : Option RateLimitConfig.Overrides := none
deriving DecidableEq

namespace RateLimitCall

variable (call : RateLimitCall)

def key : String := RateLimitService.generateKey call.identifier call.endpoint

def config (service : RateLimitService) : RateLimitConfig :=
  service.getRateLimitConfig call.userTier call.endpoint call.customConfig

def program (service : RateLimitService) : Service Unit := do
  let result ← service.checkRateLimit call.identifier call.userTier call.endpoint call.customConfig
  await (.answer result)

end RateLimitCall

end MarketX.RateLimiting
