/-
Module: MarketX.Webhooks.WebhookVerificationGuard
Purpose: The guard of the webhook endpoints
  (`webhooks/guards/webhook-verification.guard.ts`) and the decorator that
  turns it on: signature, timestamp and nonce of a request.
Trusted boundary: human-reviewed model of the source
Main exports: WebhookVerifiedOptions, webhookVerified, Request, World
-/
import MarketX.Caching.Store
import MarketX.Common.Service
import MarketX.Numerals.Digest

namespace MarketX.Webhooks

open Effects Caching Numerals

/-! ### Options and requests -/

inductive Provider where
  | stripe
  | sendgrid
  | stellar
  | generic
deriving DecidableEq

structure WebhookVerifiedOptions where
  secretHeader : Option String := none
  signatureHeader : Option String := none
  timestampHeader : Option String := none
  nonceHeader : Option String := none
  timestampToleranceMs : Option ℤ := none
  provider : Option Provider := none
deriving DecidableEq

/-- The decorator: what the options leave out has a default. -/
def webhookVerified (options : WebhookVerifiedOptions := {}) :
    WebhookVerifiedOptions where
  secretHeader := some (options.secretHeader.getD "X-Webhook-Secret")
  signatureHeader := some (options.signatureHeader.getD "X-Webhook-Signature")
  timestampHeader := some (options.timestampHeader.getD "X-Webhook-Timestamp")
  nonceHeader := some (options.nonceHeader.getD "X-Webhook-Nonce")
  timestampToleranceMs := some (options.timestampToleranceMs.getD 300000)
  provider := some (options.provider.getD .generic)

/-- What the guard throws: two exceptions of its own, and whatever the cache
and the runtime throw. -/
inductive VerificationError where
  | unauthorized (message : String)
  | badRequest (message : String)
  | error (message : String)
deriving DecidableEq

/-- What the guard reads of a request: its headers, by name, and the text
`JSON.stringify` makes of its body. -/
structure Request where
  header : String → Option String
  body : Option String

/-- `request.get(name)`. -/
def Request.get (request : Request) (name : Option String) :
    Except VerificationError (Option String) :=
  match name.filter (· ≠ "") with
  | none => .error (.error "name argument is required to req.get")
  | some name => .ok (request.header name)

/-- What counts as a value where the code tests a string for truth. -/
def truthy (text : Option String) : Option String := text.filter (· ≠ "")

/-! ### Effects -/

/-- The cache of the nonces, and the clock. -/
structure World where
  cache : Store String String Date
  now : Date

/-- `handle` is the request at the handler behind the guard. -/
inductive Op where
  | dateNow
  | cacheGet (key : String)
  | cacheSet (key value : String) (ttl : ℤ)
  | recordVerification (success : Bool) (duration : ℤ)
  | handle
deriving DecidableEq

@[reducible] def Reply : Op → Type
  | .dateNow => Date
  | .cacheGet _ => Option String
  | _ => Unit

@[reducible] def signature : Signature := ⟨Op, Reply⟩

abbrev Service (α : Type) := Program signature VerificationError α

@[simp] def act : (op : Op) → World → Reply op × World
  | .dateNow, world => (world.now, world)
  | .cacheGet key, world => (world.cache.get world.now key, world)
  | .cacheSet key value ttl, world =>
    ((), { world with cache := world.cache.set world.now key value ttl })
  | .recordVerification _ _, world => ((), world)
  | .handle, world => ((), world)

/-- The cache may throw, which the metrics are kept in too. -/
def mayFail : Op → Bool
  | .cacheGet _ | .cacheSet .. | .recordVerification .. => true
  | _ => false

def webhooks : Handler signature World := ⟨act, mayFail⟩

def await (op : Op) : Service (Reply op) := Program.perform (S := signature) op

/-- A computation without effects. -/
def decided {α : Type} : Except VerificationError α → Service α
  | .ok value => pure value
  | .error error => throw error

def redisCache.get (key : String) : Service (Option String) := await (.cacheGet key)

def redisCache.set (key value : String) (ttl : ℤ) : Service Unit := await (.cacheSet key value ttl)

def metricsService.recordVerification (success : Bool) (duration : ℤ) :
    Service Unit := await (.recordVerification success duration)

/-! ### The guard -/

def webhookNonceCachePrefix : String := "webhook_nonce:"

/-- HMAC-SHA-256 of a payload under a secret, and the configuration. -/
structure WebhookVerificationGuard where
  hmac : (secret payload : String) → Digest
  configService : String → Option String

namespace WebhookVerificationGuard

variable (guard : WebhookVerificationGuard)

/-- `createHmac('sha256', secret).update(payload)`, which takes no
`undefined`. -/
def digest (secret : String) :
    (payload : Option String) → Except VerificationError Digest
  | some payload => .ok (guard.hmac secret payload)
  | none => .error (.error ("The \"data\" argument must be of type string or " ++
      "an instance of Buffer, TypedArray, or DataView. Received undefined"))

/-- The variable of the configuration a provider's secret is in. -/
def secretName : Option Provider → String
  | some .stripe => "STRIPE_WEBHOOK_SECRET"
  | some .sendgrid => "SENDGRID_WEBHOOK_SECRET"
  | some .stellar => "STELLAR_WEBHOOK_SECRET"
  | _ => "DEFAULT_WEBHOOK_SECRET"

/-- From the header first, and else from the configuration. -/
def getSecret (request : Request) (options : WebhookVerifiedOptions) :
    Except VerificationError (Option String) := do
  let headerSecret ← request.get options.secretHeader
  match truthy headerSecret with
  | some headerSecret => pure (some headerSecret)
  | none => pure (guard.configService (secretName options.provider))

/-- `undefined` in a template string. -/
def template (text : Option String) : String := text.getD "undefined"

def verifyStripeSignature (payload : Option String)
    (signature secret : String) : Except VerificationError (List Char) :=
  let elements := signature.toList.splitOn ','
  let timestampElement := elements.find? ("t=".toList.isPrefixOf ·)
  let signatureElement := elements.find? ("v1=".toList.isPrefixOf ·)
  match timestampElement, signatureElement with
  | some timestampElement, some _ =>
    let timestamp := String.ofList (timestampElement.drop 2)
    let signedPayload := timestamp ++ "." ++ template payload
    .ok (trimmed (wrapped 64 (hex (guard.hmac secret signedPayload))))
  | _, _ => .error (.unauthorized "Invalid Stripe signature format")

def verifySendGridSignature (payload : Option String) (secret : String) :
    Except VerificationError (List Char) :=
  (guard.digest secret payload).map base64

def verifyStellarSignature (payload : Option String) (secret : String) :
    Except VerificationError (List Char) :=
  (guard.digest secret payload).map hex

def verifyGenericSignature (payload : Option String) (secret : String) :
    Except VerificationError (List Char) :=
  (guard.digest secret payload).map hex

/-- The `switch` on the provider. -/
def expectedSignature (provider : Option Provider) (rawBody : Option String)
    (signature secret : String) : Except VerificationError (List Char) :=
  match provider with
  | some .stripe => guard.verifyStripeSignature rawBody signature secret
  | some .sendgrid => guard.verifySendGridSignature rawBody secret
  | some .stellar => guard.verifyStellarSignature rawBody secret
  | _ => guard.verifyGenericSignature rawBody secret

def verifySignature (rawBody : Option String) (request : Request)
    (options : WebhookVerifiedOptions) : Except VerificationError Unit := do
  let signature ← request.get options.signatureHeader
  let secret ← guard.getSecret request options
  match truthy signature, truthy secret with
  | none, _ => throw (.unauthorized "Missing webhook signature")
  | some _, none => throw (.unauthorized "Missing webhook secret")
  | some signature, some secret =>
    let expectedSignature ←
      guard.expectedSignature options.provider rawBody signature secret
    if secureCompare signature.toList expectedSignature then pure ()
    else throw (.unauthorized "Invalid webhook signature")

def verifyTimestamp (request : Request) (options : WebhookVerifiedOptions) :
    Service Unit := do
  let timestampHeader ← decided (request.get options.timestampHeader)
  match truthy timestampHeader with
  | none => throw (.badRequest "Missing timestamp header")
  | some timestampHeader =>
    match parseInt? timestampHeader.toList with
    | none => throw (.badRequest "Invalid timestamp format")
    | some timestamp =>
      let now ← await .dateNow
      let tolerance :=
        (options.timestampToleranceMs.filter (· ≠ 0)).getD 300000
      if |now - timestamp| > tolerance then
        throw (.unauthorized "Timestamp outside tolerance window")
      else pure ()

def nonceKey (nonce : String) : String := webhookNonceCachePrefix ++ nonce

def verifyNonce (request : Request) (options : WebhookVerifiedOptions) :
    Service Unit := do
  let nonce ← decided (request.get options.nonceHeader)
  match truthy nonce with
  | none => throw (.badRequest "Missing nonce header")
  | some nonce =>
    let cacheKey := nonceKey nonce
    let existing ← redisCache.get cacheKey
    if (truthy existing).isSome then
      throw (.unauthorized "Nonce already used (replay attack)")
    else redisCache.set cacheKey "1" 86400

def verifyWebhook (request : Request) (options : WebhookVerifiedOptions) :
    Service Unit := do
  let rawBody := request.body
  decided (guard.verifySignature rawBody request options)
  verifyTimestamp request options
  verifyNonce request options

/-- The `try` block. -/
def verifyRecorded (request : Request) (options : WebhookVerifiedOptions)
    (startTime : Date) : Service Bool := do
  guard.verifyWebhook request options
  let now ← await .dateNow
  metricsService.recordVerification true (now - startTime)
  pure true

/-- No options stand for a handler without the decorator. -/
def canActivate (options : Option WebhookVerifiedOptions) (request : Request) : Service Bool :=
  match options with
  | none => pure true
  | some options => do
      let startTime ← await .dateNow
      let outcome ← (guard.verifyRecorded request options startTime).attempt
      match outcome with
      | .ok accepted => pure accepted
      | .error error => do
          let now ← await .dateNow
          metricsService.recordVerification false (now - startTime)
          throw error

end WebhookVerificationGuard

/-- A request on its way to a handler with the guard. -/
structure WebhookCall where
  options : Option WebhookVerifiedOptions
  request : Request

def WebhookCall.program (guard : WebhookVerificationGuard) (call : WebhookCall) : Service Unit := do
  let accepted ← guard.canActivate call.options call.request
  if accepted then await .handle else pure ()

end MarketX.Webhooks
