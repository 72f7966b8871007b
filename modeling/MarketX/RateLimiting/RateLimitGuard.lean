/-
Module: MarketX.RateLimiting.RateLimitGuard
Purpose: What the guard of the rate limits (`guards/rate-limit.guard.ts`) makes
  of a request and of the options of its decorator
  (`decorators/rate-limit.decorator.ts`), and the configuration that comes of
  it, where a member of an object may be there and be `undefined`.
Trusted boundary: human-reviewed model of the source
Main exports: Request, RateLimitOptions, RateLimitGuard.generateIdentifier, Property
-/
import MarketX.Numerals.Number
import MarketX.RateLimiting.RateLimitService

namespace MarketX.RateLimiting

open Numerals

/-! ### Requests -/

structure AuthenticatedUser where
  id : Option String := none
  roles : List String := []
  role : Option String := none
  tier : Option UserTier := none
  subscription : Option String := none
deriving DecidableEq

/-- A header that was sent more than once may be a list. -/
inductive HeaderValue where
  | text (value : String)
  | list (values : List String)
deriving DecidableEq

def HeaderValue.text? : HeaderValue → Option String
  | .text value => some value
  | .list _ => none

/-- `connection` and `socket` are the remote addresses, `route` the path of
the route. -/
structure Request where
  user : Option AuthenticatedUser
  headers : String → Option HeaderValue
  connection : Option String
  socket : Option String
  route : Option String
  path : String

/-! ### Options -/

/-- What a decorator says for one tier; a member that is missing reads as
`undefined`. -/
structure TierLimits where
  windowMs : Option Number := none
  maxRequests : Option Number := none
  burstAllowance : Option Number := none
deriving DecidableEq

structure RateLimitOptions extends TierLimits where
  keyGenerator : Option (Request → String) := none
  tierLimits : UserTier → Option TierLimits := fun _ => none

/-- A text where the code tests it for truth. -/
def truthyText (text : Option String) : Option String := text.filter (· ≠ "")

/-- A number that counts as true. -/
def truthyNumber : Number → Bool
  | .finite value => value ≠ 0
  | .infinity _ => true
  | .nan => false

/-- `a || b`. -/
def orNumber (a b : Option Number) : Option Number :=
  if a.any truthyNumber then a else b

/-! ### The guard -/

namespace RateLimitGuard

/-- `forwarded.split(',')[0].trim()`. -/
def firstForwarded (forwarded : String) : String :=
  String.ofList (trimmed ((forwarded.toList.splitOn ',').headD []))

def getClientIp (request : Request) : String :=
  match (request.headers "x-forwarded-for").bind HeaderValue.text? with
  | some forwarded => firstForwarded forwarded
  | none =>
    match (request.headers "x-real-ip").bind HeaderValue.text? with
    | some realIp => realIp
    | none =>
      match (request.headers "cf-connecting-ip").bind HeaderValue.text? with
      | some cfConnectingIp => cfConnectingIp
      | none => (truthyText request.connection <|> truthyText request.socket).getD "127.0.0.1"

def generateIdentifier (request : Request) (options : RateLimitOptions) :
    String :=
  match options.keyGenerator with
  | some keyGenerator => keyGenerator request
  | none =>
    match truthyText (request.user.bind AuthenticatedUser.id) with
    | some id => "user:" ++ id
    | none => "ip:" ++ getClientIp request

def getUserTier (request : Request) : UserTier :=
  match request.user with
  | none => .free
  | some user =>
    if "admin" ∈ user.roles ∨ user.role = some "admin" then .admin
    else
      match user.tier with
      | some tier => tier
      | none =>
        match (truthyText user.subscription).map String.toLower with
        | some "enterprise" => .enterprise
        | some "premium" => .premium
        | _ => .free

def getEndpointPath (request : Request) : String :=
  (truthyText request.route <|> truthyText (some request.path)).getD "/"

/-- Of a value that is `undefined` there is a member all the same. -/
def getEffectiveConfig (options : RateLimitOptions) (userTier : UserTier) :
    TierLimits :=
  let config : TierLimits :=
    { windowMs := options.windowMs
      maxRequests := options.maxRequests
      burstAllowance := options.burstAllowance }
  match options.tierLimits userTier with
  | none => config
  | some tierConfig =>
    { windowMs := orNumber tierConfig.windowMs config.windowMs
      maxRequests := orNumber tierConfig.maxRequests config.maxRequests
      burstAllowance :=
        orNumber tierConfig.burstAllowance config.burstAllowance }

end RateLimitGuard

/-! ### Configurations with members that are `undefined` -/

/-- A member of an object. -/
inductive Property where
  | missing
  | undefined
  | value (number : Number)
deriving DecidableEq

namespace Property

/-- `object.member`. -/
def read : Property → Option Number
  | .missing | .undefined => none
  | .value number => some number

/-- The member of `{ ...object, ...other }`. -/
def spread (property other : Property) : Property :=
  match other with
  | .missing => property
  | other => other

/-- A member of a table: what it does not say is missing. -/
def ofTable (number : Option ℕ) : Property :=
  match number with
  | none => .missing
  | some number => .value (.finite number)

/-- A member that is there in any case. -/
def ofRead (number : Option Number) : Property :=
  match number with
  | none => .undefined
  | some number => .value number

end Property

/-- An object with the members of a configuration. -/
structure Settings where
  windowMs : Property
  maxRequests : Property
  burstAllowance : Property
deriving DecidableEq

namespace Settings

/-- `{ ...settings, ...other }`. -/
def spread (settings other : Settings) : Settings where
  windowMs := settings.windowMs.spread other.windowMs
  maxRequests := settings.maxRequests.spread other.maxRequests
  burstAllowance := settings.burstAllowance.spread other.burstAllowance

def ofConfig (config : RateLimitConfig) : Settings where
  windowMs := .ofTable (some config.windowMs)
  maxRequests := .ofTable (some config.maxRequests)
  burstAllowance := .ofTable config.burstAllowance

def ofOverrides (overrides : RateLimitConfig.Overrides) : Settings where
  windowMs := .ofTable overrides.windowMs
  maxRequests := .ofTable overrides.maxRequests
  burstAllowance := .ofTable overrides.burstAllowance

/-- What the guard hands over. -/
def ofEffective (effective : TierLimits) : Settings where
  windowMs := .ofRead effective.windowMs
  maxRequests := .ofRead effective.maxRequests
  burstAllowance := .ofRead effective.burstAllowance

end Settings

namespace RateLimitService

variable (service : RateLimitService)

/-- `getRateLimitConfig`, of a `customConfig` that may have members which are
`undefined`. -/
def settingsOf (userTier : UserTier) (endpoint : Option String)
    (customConfig : Option Settings) : Settings :=
  let config := Settings.ofConfig (service.tierConfigs userTier)
  let config :=
    match (endpoint.filter (· ≠ "")).bind service.endpointConfigs with
    | some overrides => config.spread (.ofOverrides overrides)
    | none => config
  match customConfig with
  | some customConfig => config.spread customConfig
  | none => config

end RateLimitService

end MarketX.RateLimiting
