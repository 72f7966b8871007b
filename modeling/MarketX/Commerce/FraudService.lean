/-
Module: MarketX.Commerce.FraudService
Purpose: The fraud scoring (`fraud/score.ts`) and the analysis of a request
  (`fraud/fraud.service.ts`): alerts, the lockout of accounts, and orders
  held for review; and the middleware that shows every request to the service
  (`fraud/middleware/request-monitor.middleware.ts`).
Trusted boundary: human-reviewed model of the source; a text stands for an
  address of any shape
Main exports: rules, evaluateAllRules, analyzeRequest, RequestMonitorMiddleware.use
-/
import MarketX.Commerce.World
import MarketX.Security.Requests

namespace MarketX.Commerce

open Effects

structure FraudInput where
  userId : Option Id := none
  orderId : Option Id := none
  ip : Option String := none
  deviceFingerprint : Option String := none
  metadata : Option FraudMetadata := none
deriving DecidableEq

structure ScoreResult where
  riskScore : ℕ
  reason : String
  triggeredRules : List String
deriving DecidableEq

namespace FraudService

/-! ### The score -/

/-- A text that is missing or empty counts as absent. -/
def given (text : Option String) : Option String := text.filter (· ≠ "")

structure Rule where
  name : String
  score : ℕ
  check : FraudMetadata → Bool

/-- Missing metadata is metadata without members.  `foldAddress` is
`trim().toLowerCase()`. -/
def rules (foldAddress : String → String) : List Rule :=
  [ { name := "high_value_order", score := 20
      check := fun metadata => metadata.amount.getD 0 > 500 },
    { name := "new_account", score := 30
      check := fun metadata =>
        -- an age of zero days counts as missing
        let hoursOfDays :=
          ((metadata.accountAgeDays.filter (· ≠ 0)).map (· * 24)).getD 999
        metadata.accountAgeHours.getD hoursOfDays < 24 },
    { name := "billing_shipping_mismatch", score := 30
      check := fun metadata =>
        match given metadata.billingAddress,
          given metadata.shippingAddress with
        | some billing, some shipping =>
          foldAddress billing ≠ foldAddress shipping
        | _, _ => false },
    { name := "high_velocity", score := 35
      check := fun metadata => metadata.orderCount.getD 0 ≥ 5 },
    { name := "duplicate_order", score := 40
      check := fun metadata => metadata.duplicateOrderInWindow = some true },
    { name := "suspicious_amount", score := 25
      check := fun metadata => metadata.amount.getD 0 > 10000 },
    { name := "known_bad_ip", score := 50
      check := fun metadata => metadata.knownBadIp = some true },
    { name := "repeated_payment_failures", score := 35
      check := fun metadata => metadata.failedPaymentCount.getD 0 ≥ 3 },
    { name := "first_order_high_value", score := 20
      check := fun metadata =>
        metadata.isFirstOrder = some true ∧ metadata.amount.getD 0 > 1000 },
    { name := "geo_distance", score := 50
      check := fun metadata => metadata.geoDistanceMiles.getD 0 > 1000 } ]

def evaluateAllRules (foldAddress : String → String) (input : FraudInput) :
    ScoreResult :=
  let triggered := (rules foldAddress).filter fun rule => rule.check (input.metadata.getD {})
  let rawScore := (triggered.map Rule.score).sum
  let triggeredRules := triggered.map Rule.name
  { riskScore := min rawScore 100
    reason :=
      if triggeredRules.length > 0 then ", ".intercalate triggeredRules
      else "no_rules_triggered"
    triggeredRules }

/-! ### The analysis -/

/-- The distance between the IP address and the shipping address, added to
the metadata where both are given and can be located. -/
def enrich (input : FraudInput) : Service FraudInput :=
  match input.metadata with
  | none => pure input
  | some metadata =>
    match given input.ip, given metadata.shippingAddress with
    | some ip, some shippingAddress => do
        match ← (await (.locate ip shippingAddress)).attempt with
        | .ok (some distance) =>
          pure
            { input with
              metadata := some
                { metadata with geoDistanceMiles := some distance } }
        | _ => pure input
    | _, _ => pure input

/-- `CacheService.increment`, which answers 0 when the cache fails. -/
def increment (key : String) (ttl : ℕ) : Service ℕ := do
  let counting : Service ℕ := do
    let count ← await (.incr key)
    if count = 1 then
      await (.expire key ttl)
    pure count
  match ← counting.attempt with
  | .ok count => pure count
  | .error _ => pure 0

/-- Three alerts within the hour lock the account.  A failure is logged. -/
def lockAccount (userId : Id) (result : ScoreResult) : Service Unit := do
  let flagCount ← increment s!"fraud_flags:{userId}" 3600
  if flagCount ≥ 3 then
    let lock : Service Unit := do
      match ← userRepository.findOne userId with
      | none => pure ()
      | some user =>
        if user.status ≠ .locked then
          userRepository.save { user with status := .locked }
          emit (.fraudAccountLocked userId user.status result.riskScore
            flagCount result.triggeredRules)
          await (.sendAccountLocked userId user.email
            (if user.firstName = "" then "User" else user.firstName))
    let _ ← lock.attempt

/-- The order as a high score leaves it. -/
def heldOrder (order : Order) : Order :=
  { order with status := .manualReview }

/-- An order is held for review from a score of 75. -/
def holdOrder (orderId : Id) : Service Unit := do
  match ← ordersRepository.findOne orderId with
  | none => pure ()
  | some order =>
    if order.status ≠ .manualReview then
      ordersRepository.save (heldOrder order)

def alertStatus (riskScore : ℕ) : FraudStatus :=
  if riskScore ≥ 90 then .suspended
  else if riskScore ≥ 75 then .manualReview
  else .pending

/-- The alert counts towards the lockout of the user the request names. -/
def flagUser (input : FraudInput) (result : ScoreResult) : Service Unit :=
  match input.userId with
  | none => pure ()
  | some userId => lockAccount userId result

/-- A failure of the webhook is logged. -/
def notifyAdmin (input : FraudInput) (result : ScoreResult) : Service Unit :=
  if result.riskScore ≥ 90 then
    emit (.highRiskFraudDetected input.userId result.riskScore
      (", ".intercalate result.triggeredRules) input.ip)
  else pure ()

def reviewOrder (input : FraudInput) (result : ScoreResult) : Service Unit :=
  if result.riskScore ≥ 75 then
    match input.orderId with
    | none => pure ()
    | some orderId => holdOrder orderId
  else pure ()

/-- A failure is logged. -/
def suspendUser (input : FraudInput) (result : ScoreResult) : Service Unit :=
  if result.riskScore ≥ 90 then
    match input.userId with
    | none => pure ()
    | some userId => do
        let _ ← (await (.suspendUser userId)).attempt
        pure ()
  else pure ()

/-- The alert and what follows it. -/
def raiseAlert (input : FraudInput) (result : ScoreResult) :
    Service Unit := do
  let alert : FraudAlert :=
    { userId := input.userId
      orderId := input.orderId
      ip := input.ip
      deviceFingerprint := input.deviceFingerprint
      riskScore := result.riskScore
      reason := result.reason
      metadata := input.metadata
      status := alertStatus result.riskScore }
  await (.insertAlert alert)
  emit (.fraudAlertCreated alert result.triggeredRules)
  flagUser input result
  notifyAdmin input result
  reviewOrder input result
  suspendUser input result

/-- Whether the request was flagged, and its score.  `foldAddress` is the
runtime's. -/
def analyzeRequest (foldAddress : String → String) (input : FraudInput) :
    Service (Bool × ScoreResult) := do
  let input ← enrich input
  let result := evaluateAllRules foldAddress input
  if result.riskScore ≥ 20 then
    raiseAlert input result
    pure (true, result)
  else
    pure (false, result)

end FraudService

end MarketX.Commerce

/-! ### The request monitor -/

namespace MarketX.Commerce.RequestMonitorMiddleware

open Effects Security Numerals

/-- A header as a text; a list is written between commas. -/
def headerText : Header → String
  | .text value => value
  | .list values => ",".intercalate values

/-- The user a request is about: the one it has been authenticated as, or the
one it names. -/
def userIdOf (request : Request) : Option String :=
  match nonEmpty request.user with
  | some userId => some userId
  | none => nonEmpty ((request.headers "x-user-id").map headerText)

/-- The first entry of a list of addresses. -/
def ipOf (request : Request) : Option String :=
  let ip := (nonEmpty request.ip).or ((request.headers "x-forwarded-for").map headerText)
  ip.map fun ip =>
    if includes ip "," then
      String.ofList (trimmed (firstItem ip).toList)
    else ip

/-- The first shipping address in the body. -/
def shippingAddressOf (request : Request) : Option String :=
  match request.body with
  | none | some .list => none
  | some (.members shippingAddress address orderShippingAddress) =>
    (nonEmpty shippingAddress).or ((nonEmpty address).or (nonEmpty orderShippingAddress))

variable (idOf : String → Id)

/-- What is analyzed; path, method and location change no score. -/
def inputOf (request : Request) : FraudInput where
  userId := (userIdOf request).map idOf
  ip := ipOf request
  deviceFingerprint := (request.headers "x-device-fingerprint").map headerText
  metadata := some { shippingAddress := shippingAddressOf request }

/-- The request goes on unless its score is 90 or more.  What the analysis
throws goes on as well. -/
def use (foldAddress : String → String) (request : Request) :
    Service Unit := do
  let (flagged, result) ←
    FraudService.analyzeRequest foldAddress (inputOf idOf request)
  if flagged ∧ result.riskScore ≥ 90 then
    throw (.forbidden "Account suspended due to suspicious activity")

end MarketX.Commerce.RequestMonitorMiddleware
