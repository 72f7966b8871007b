/-
Module: MarketX.Security.ThrottleGuard
Purpose: The guard in front of every route
  (`common/guards/throttle.guard.ts`) with its limits
  (`common/config/rate-limit.config.ts`), and runs of it.
Trusted boundary: human-reviewed model of the source
Main exports: Tier, RateLimitConfig, rateLimitConfig, routeTierMap, Ruling, Gate
-/
import MarketX.Effects.Runs
import MarketX.Security.Requests

namespace MarketX.Security

/-! ### Limits -/

structure RateLimitConfig where
  limit : ℕ
  windowMs : ℕ
deriving DecidableEq

inductive Tier where
  | AUTH
  | LOGIN
  | REGISTER
  | PASSWORD_RESET
  | API
  | UPLOAD
  | TRANSACTION
  | PAYMENT
  | SEARCH
  | EXPORT
deriving DecidableEq

/-- The settings of the process: the number an environment variable has, or
the default it is given here. -/
abbrev Settings := String → ℕ → ℕ

/-- No variable is set. -/
def defaultSettings : Settings := fun _ default => default

def rateLimitConfig (setting : Settings) : Tier → RateLimitConfig
  | .AUTH =>
    ⟨setting "RATE_LIMIT_AUTH_LIMIT" 5, setting "RATE_LIMIT_AUTH_WINDOW" 900000⟩
  | .LOGIN =>
    ⟨setting "RATE_LIMIT_LOGIN_LIMIT" 5, setting "RATE_LIMIT_LOGIN_WINDOW" 900000⟩
  | .REGISTER =>
    ⟨setting "RATE_LIMIT_REGISTER_LIMIT" 3, setting "RATE_LIMIT_REGISTER_WINDOW" 3600000⟩
  | .PASSWORD_RESET =>
    ⟨setting "RATE_LIMIT_PASSWORD_LIMIT" 3, setting "RATE_LIMIT_PASSWORD_WINDOW" 3600000⟩
  | .API =>
    ⟨setting "RATE_LIMIT_API_LIMIT" 100, setting "RATE_LIMIT_API_WINDOW" 900000⟩
  | .UPLOAD =>
    ⟨setting "RATE_LIMIT_UPLOAD_LIMIT" 10, setting "RATE_LIMIT_UPLOAD_WINDOW" 3600000⟩
  | .TRANSACTION =>
    ⟨setting "RATE_LIMIT_TRANSACTION_LIMIT" 20, setting "RATE_LIMIT_TRANSACTION_WINDOW" 60000⟩
  | .PAYMENT =>
    ⟨setting "RATE_LIMIT_PAYMENT_LIMIT" 10, setting "RATE_LIMIT_PAYMENT_WINDOW" 3600000⟩
  | .SEARCH =>
    ⟨setting "RATE_LIMIT_SEARCH_LIMIT" 30, setting "RATE_LIMIT_SEARCH_WINDOW" 300000⟩
  | .EXPORT =>
    ⟨setting "RATE_LIMIT_EXPORT_LIMIT" 5, setting "RATE_LIMIT_EXPORT_WINDOW" 3600000⟩

/-- A segment of a path, and its tier. -/
abbrev Endpoint := String × Tier

/-- The first match wins. -/
def routeTierMap : List Endpoint := [ ("login", .LOGIN), ("register", .REGISTER),
    ("forgot-password", .PASSWORD_RESET), ("reset-password", .PASSWORD_RESET),
    ("auth", .AUTH), ("payment", .PAYMENT), ("transaction", .TRANSACTION),
    ("upload", .UPLOAD), ("export", .EXPORT), ("search", .SEARCH) ]

/-! ### The guard -/

structure ClientRecord where
  count : ℕ
  resetTime : Date
deriving DecidableEq

/-- The records of the clients, in memory. -/
structure ThrottleGuard where
  clientRequests : String → Option ClientRecord

/-- The body of the `429` answer. -/
structure TooManyRequests where
  statusCode : ℕ := 429
  message : String
  retryAfter : ℤ
deriving DecidableEq

namespace ThrottleGuard

def new : ThrottleGuard := ⟨fun _ => none⟩

/-- The user, if there is one, or else the address of the client. -/
def getClientId (request : Request) : String :=
  match request.user with
  | some id => "user:" ++ id
  | none =>
    let forwarded : Option String :=
      match request.headers "x-forwarded-for" with
      | some (.text value) => some (firstItem value)
      | some (.list values) => values.head?
      | none => none
    let clientIp :=
      ((nonEmpty forwarded <|> nonEmpty request.ip) <|>
        nonEmpty request.remoteAddress).getD "unknown"
    "ip:" ++ clientIp

/-- The segment of a path that decides on its limits. -/
def endpointOf (path : String) : Option Endpoint :=
  routeTierMap.find? fun entry => includes path entry.1

/-- The limits of a segment, and those of all other paths. -/
def limitsOf (setting : Settings) :
    Option Endpoint → RateLimitConfig
  | some (_, tier) => rateLimitConfig setting tier
  | none => rateLimitConfig setting .API

def getEndpointConfig (setting : Settings) (path : String) :
    RateLimitConfig := limitsOf setting (endpointOf path)

/-- The record with one more request; it starts anew where its window has
expired. -/
def charged (record : Option ClientRecord) (config : RateLimitConfig) (now : Date) : ClientRecord :=
  let fresh : ClientRecord := ⟨0, now + config.windowMs⟩
  let record := record.getD fresh
  let record := if now ≥ record.resetTime then fresh else record
  { record with count := record.count + 1 }

/-- `Math.ceil(ms / 1000)`. -/
def ceilSeconds (ms : ℤ) : ℤ := (ms + 999) / 1000

/-- The headers of the response to a request that may pass, or the exception
for one that may not. -/
def answer (config : RateLimitConfig) (record : ClientRecord) (now : Date) :
    Except TooManyRequests (List (String × ℤ)) :=
  if record.count > config.limit then
    let retryAfter := ceilSeconds (record.resetTime - now)
    .error
      { message :=
          s!"Too many requests. Please try again in {retryAfter} seconds."
        retryAfter }
  else
    .ok [ ("X-RateLimit-Limit", config.limit),
        ("X-RateLimit-Remaining", config.limit - record.count),
        ("X-RateLimit-Reset", ceilSeconds record.resetTime) ]

def canActivate (setting : Settings) (guard : ThrottleGuard) (request : Request) (now : Date) :
    Except TooManyRequests (List (String × ℤ)) × ThrottleGuard :=
  let clientId := getClientId request
  let config := getEndpointConfig setting request.path
  if clientId = "" then
    (.ok [], guard)
  else
    let record := charged (guard.clientRequests clientId) config now
    (answer config record now, ⟨Function.update guard.clientRequests clientId (some record)⟩)

def cleanupExpiredRecords (guard : ThrottleGuard) (now : Date) :
    ThrottleGuard :=
  ⟨fun clientId =>
    (guard.clientRequests clientId).filter fun record => ¬ now ≥ record.resetTime⟩

end ThrottleGuard

open Effects ThrottleGuard

/-! ### Runs -/

/-- What the guard has decided on a request. -/
structure Ruling where
  clientId : String
  endpoint : Option Endpoint
  time : Date
  accepted : Bool
deriving DecidableEq

/-- The guard, the clock, and all rulings so far, the latest first. -/
structure Gate where
  guard : ThrottleGuard
  now : Date
  rulings : List Ruling

inductive GateEvent where
  | request (request : Request)
  | cleanup
  | elapse (milliseconds : ℕ)

abbrev Answer := Except TooManyRequests (List (String × ℤ))

def Gate.start (now : Date) : Gate := ⟨.new, now, []⟩

def gateStep (setting : Settings) : Gate → GateEvent → Gate × Option Answer
  | gate, .request request =>
    let ruled := gate.guard.canActivate setting request gate.now
    let ruling : Ruling :=
      { clientId := getClientId request
        endpoint := endpointOf request.path
        time := gate.now
        accepted := ruled.1.isOk }
    (⟨ruled.2, gate.now, ruling :: gate.rulings⟩, some ruled.1)
  | gate, .cleanup =>
    ({ gate with guard := gate.guard.cleanupExpiredRecords gate.now }, none)
  | gate, .elapse milliseconds =>
    ({ gate with now := gate.now + milliseconds }, none)

abbrev throttle (setting : Settings) : Gate → GateEvent → Gate := advance (gateStep setting)

/-- The record of a client, where its window has not expired. -/
def Gate.running (gate : Gate) (clientId : String) : Option ClientRecord :=
  (gate.guard.clientRequests clientId).filter fun record => gate.now < record.resetTime

/-! ### One request -/

section

variable {setting : Settings} {gate : Gate} {request : Request} {clientId other : String}

theorem getClientId_ne_empty : getClientId request ≠ "" := by
  unfold getClientId
  split <;> simp

theorem charged_eq (gate : Gate) (clientId : String) (config : RateLimitConfig) :
    charged (gate.guard.clientRequests clientId) config gate.now =
      match gate.running clientId with
      | some record => { record with count := record.count + 1 }
      | none => ⟨1, gate.now + config.windowMs⟩ := by
  unfold Gate.running
  cases gate.guard.clientRequests clientId with
  | none => simp [charged]
  | some record =>
    rw [Option.filter_some]
    by_cases live : gate.now < record.resetTime <;> simp_all [charged, if_neg]

theorem canActivate_eq :
    gate.guard.canActivate setting request gate.now =
      (answer (getEndpointConfig setting request.path)
          (charged (gate.guard.clientRequests (getClientId request))
            (getEndpointConfig setting request.path) gate.now) gate.now,
        ⟨Function.update gate.guard.clientRequests (getClientId request)
          (some (charged (gate.guard.clientRequests (getClientId request))
            (getEndpointConfig setting request.path) gate.now))⟩) :=
  if_neg getClientId_ne_empty

theorem answer_isOk {config : RateLimitConfig} {record : ClientRecord}
    {now : Date} : (answer config record now).isOk = true ↔ record.count ≤ config.limit := by
  unfold answer
  split
  next ended => exact ⟨nofun, fun under => absurd under (Nat.not_le.mpr ended)⟩
  next under => exact ⟨fun _ => Nat.not_lt.mp under, fun _ => rfl⟩

end

/-! ### One step -/

section

variable {setting : Settings} {gate : Gate} {request : Request}
  {clientId : String} {milliseconds : ℕ}

/-- The record that a request charges, as it leaves it. -/
def Gate.chargedBy (setting : Settings) (gate : Gate) (request : Request) :
    ClientRecord := charged (gate.guard.clientRequests (getClientId request))
    (getEndpointConfig setting request.path) gate.now

theorem chargedBy_congr {alone : Gate} (now : alone.now = gate.now)
    (same : alone.running (getClientId request) = gate.running (getClientId request)) :
    alone.chargedBy setting request = gate.chargedBy setting request := by
  rw [Gate.chargedBy, Gate.chargedBy, charged_eq, charged_eq, same, now]

theorem running_request :
    (throttle setting gate (.request request)).running clientId =
      if getClientId request = clientId then
        (some (gate.chargedBy setting request)).filter fun record => gate.now < record.resetTime
      else gate.running clientId := by
  simp only [throttle, advance, gateStep, canActivate_eq, Gate.running]
  split
  next same =>
    subst same
    rw [Function.update_self]
    rfl
  next other => rw [Function.update_of_ne (Ne.symm other)]

theorem answered_request :
    (gateStep setting gate (.request request)).2 =
      some (answer (getEndpointConfig setting request.path)
        (gate.chargedBy setting request) gate.now) := by
  simp only [gateStep, canActivate_eq]
  rfl

theorem running_cleanup :
    (throttle setting gate .cleanup).running clientId =
      gate.running clientId := by
  show ((gate.guard.clientRequests clientId).filter fun record =>
      ¬ gate.now ≥ record.resetTime).filter _ = gate.running clientId
  unfold Gate.running
  cases gate.guard.clientRequests clientId with
  | none => rfl
  | some record =>
    by_cases live : gate.now < record.resetTime
    · rw [Option.filter_some, if_pos (decide_eq_true live.not_ge)]
      rfl
    · simp_all [Option.filter_some, if_neg]

theorem running_elapse :
    (throttle setting gate (.elapse milliseconds)).running clientId =
      (gate.running clientId).filter fun record => gate.now + milliseconds < record.resetTime := by
  simp only [throttle, advance, gateStep, Gate.running, Option.filter_filter]
  grind

end

end MarketX.Security
