/-
Module: MarketX.Proofs.WebhookAuthenticity
Purpose: What a request the guard of the webhooks accepts is signed with, and
  which of the requests that are signed as documented it lets through.
Trusted boundary: human-reviewed definition of Accepts, ProviderHmac,
  SignedWith, MadeWithout, ProviderHeader, Genuine and LetThrough
Main exports: Accepts, ProviderHmac, webhooks_authentic, genuine_let_through_iff
-/
import MarketX.Effects.Respects
import MarketX.Webhooks.WebhookVerificationGuard

namespace MarketX.Webhooks

open Effects Caching Numerals WebhookVerificationGuard

/-! ### The property -/

section

variable (guard : WebhookVerificationGuard) (options : WebhookVerifiedOptions) (request : Request)

/-- Whatever the clock, the cache and the metrics answer, the guard may end by
letting the request through. -/
def Accepts : Prop :=
  (guard.canActivate (some options) request).Ends (.ok true)

/-- The text is what the provider sends along with a body: an HMAC of it under
the secret, in Stripe's case with a timestamp in front. -/
inductive ProviderHmac (secret body : String) :
    Option Provider → List Char → Prop where
  | stripe (timestamp : String) :
      ProviderHmac secret body (some .stripe) (hex (guard.hmac secret (timestamp ++ "." ++ body)))
  | sendgrid :
      ProviderHmac secret body (some .sendgrid) (base64 (guard.hmac secret body))
  | stellar :
      ProviderHmac secret body (some .stellar) (hex (guard.hmac secret body))
  | generic :
      ProviderHmac secret body (some .generic) (hex (guard.hmac secret body))
  | unnamed : ProviderHmac secret body none (hex (guard.hmac secret body))

/-- The signature header is the provider's HMAC of the body under the
secret. -/
def SignedWith (secret : String) : Prop := ∃ signature body,
    request.get options.signatureHeader = .ok (some signature) ∧ request.body = some body ∧
      ProviderHmac guard secret body options.provider signature.toList

/-- The signature header is no body's HMAC under the secret. -/
def MadeWithout (secret : String) : Prop := ∀ signature body,
    request.get options.signatureHeader = .ok (some signature) →
      ¬ ProviderHmac guard secret body options.provider signature.toList

/-- The secret the sender names. -/
def headerSecret : Option String := truthy (request.get options.secretHeader).toOption.join

/-- The secret of the server. -/
def configuredSecret : Option String := truthy (guard.configService (secretName options.provider))

/-- The secret the code verifies the request with. -/
def verificationKey : Option String :=
  (headerSecret options request).or (configuredSecret guard options)

end

theorem MadeWithout.not_signedWith {guard : WebhookVerificationGuard}
    {options : WebhookVerifiedOptions} {request : Request} {secret : String}
    (made : MadeWithout guard options request secret) :
    ¬ SignedWith guard options request secret := by
  rintro ⟨signature, body, header, -, signed⟩
  exact made signature body header signed

/-! ### Signatures -/

section

variable {guard : WebhookVerificationGuard} {options : WebhookVerifiedOptions}
  {request : Request} {rawBody : Option String} {secret signature : String}

/-- The code of Stripe's signatures looks for an equality sign in a text that
it then expects to be hexadecimal. -/
theorem stripe_never_signed :
    guard.verifyStripeSignature rawBody signature secret ≠
      .ok signature.toList := by
  intro same
  unfold verifyStripeSignature at same
  simp only at same
  split at same
  next timestampElement signatureElement found _ =>
    have equality : '=' ∈ timestampElement := by
      obtain ⟨rest, rfl⟩ := List.isPrefixOf_iff_prefix.mp (List.find?_some found)
      exact List.mem_append_left rest (by decide)
    grind [mem_of_splitOn, not_mem_wrapped_hex]
  next => cases same

theorem digest_map_ok {encode : Digest → List Char} {text : List Char}
    (same : (guard.digest secret rawBody).map encode = .ok text) :
    ∃ body, rawBody = some body ∧ text = encode (guard.hmac secret body) := by
  cases rawBody with
  | none => cases same
  | some body => exact ⟨body, rfl, (Except.ok.inj same).symm⟩

theorem expectedSignature_ok {provider : Option Provider}
    (same : guard.expectedSignature provider rawBody signature secret = .ok signature.toList) :
    ∃ body, rawBody = some body ∧
      ProviderHmac guard secret body provider signature.toList := by
  cases provider with
  | none =>
    obtain ⟨body, found, text⟩ := digest_map_ok same
    exact ⟨body, found, text ▸ .unnamed⟩
  | some provider =>
    cases provider with
    | stripe => exact absurd same stripe_never_signed
    | sendgrid =>
      obtain ⟨body, found, text⟩ := digest_map_ok same
      exact ⟨body, found, text ▸ .sendgrid⟩
    | stellar =>
      obtain ⟨body, found, text⟩ := digest_map_ok same
      exact ⟨body, found, text ▸ .stellar⟩
    | generic =>
      obtain ⟨body, found, text⟩ := digest_map_ok same
      exact ⟨body, found, text ▸ .generic⟩

theorem truthy_of_truthy {text : Option String} {value : String}
    (found : truthy text = some value) : truthy (some value) = some value := by
  have nonempty := (Option.filter_eq_some_iff.mp found).2
  exact Option.filter_eq_some_iff.mpr ⟨rfl, nonempty⟩

theorem eq_of_truthy {text : Option String} {value : String}
    (found : truthy text = some value) : text = some value :=
  (Option.filter_eq_some_iff.mp found).1

theorem getSecret_ok {secret : Option String}
    (found : guard.getSecret request options = .ok secret) :
    truthy secret = verificationKey guard options request := by
  unfold getSecret at found
  unfold verificationKey headerSecret configuredSecret
  cases header : request.get options.secretHeader with
  | error error =>
    rw [header] at found
    cases found
  | ok headerSecret =>
    rw [header] at found
    simp only [bind, Except.bind] at found
    cases value : truthy headerSecret with
    | none =>
      rw [value] at found
      rw [← Except.ok.inj found]
      exact (congrArg (Option.or · _) value).symm
    | some text =>
      rw [value] at found
      rw [← Except.ok.inj found, truthy_of_truthy value]
      exact (congrArg (Option.or · _) value).symm

theorem verifySignature_ok (verified : guard.verifySignature request.body request options =
      .ok ()) :
    ∃ secret ∈ verificationKey guard options request,
      SignedWith guard options request secret := by
  unfold verifySignature at verified
  cases header : request.get options.signatureHeader with
  | error error =>
    rw [header] at verified
    cases verified
  | ok signature =>
    cases key : guard.getSecret request options with
    | error error =>
      rw [header, key] at verified
      cases verified
    | ok secret =>
      rw [header, key] at verified
      simp only [bind, Except.bind] at verified
      split at verified
      next => cases verified
      next => cases verified
      next text value isText isValue =>
        cases expected : guard.expectedSignature options.provider request.body text value with
        | error error => simp_all
        | ok expectedSignature =>
          rw [expected] at verified
          simp only at verified
          split at verified
          next same =>
            rw [← secureCompare_iff.mp same] at expected
            obtain ⟨body, found, signed⟩ := expectedSignature_ok expected
            refine ⟨value, ?_, text, body, ?_, found, signed⟩
            · exact (getSecret_ok key).symm.trans isValue
            · exact header.trans (congrArg _ (eq_of_truthy isText))
          next => cases verified

end

/-! ### Requests -/

section

variable {guard : WebhookVerificationGuard} {options : WebhookVerifiedOptions} {request : Request}

theorem decided_ends {outcome : Except VerificationError Unit}
    (ends : (decided outcome).Ends (.ok ())) : outcome = .ok () := by
  cases outcome with
  | ok value => rfl
  | error error => cases ends

theorem Accepts.verified (accepts : Accepts guard options request) :
    guard.verifySignature request.body request options = .ok () := by
  obtain ⟨startTime, -, accepts⟩ := Program.Ends.of_bind_ok accepts
  obtain ⟨outcome, attempted, accepts⟩ := Program.Ends.of_bind_ok accepts
  obtain ⟨inner, same, ends⟩ := Program.Ends.of_attempt attempted
  cases Except.ok.inj same
  cases outcome with
  | error error =>
    obtain ⟨now, -, accepts⟩ := Program.Ends.of_bind_ok accepts
    obtain ⟨recorded, -, throws⟩ := Program.Ends.of_bind_ok accepts
    cases throws
  | ok accepted =>
    obtain ⟨verified, ends, -⟩ := Program.Ends.of_bind_ok ends
    obtain ⟨signed, ends, -⟩ := Program.Ends.of_bind_ok ends
    exact decided_ends ends

/-- What is accepted is signed with the secret it is verified with, which is
that of the server unless the request has a secret in its header; and a
request without one whose signature was made without the server's secret is
not accepted, whatever its other headers say. -/
theorem webhooks_authentic (guard : WebhookVerificationGuard) (options : WebhookVerifiedOptions) :
    (∀ request, Accepts guard options request → ∃ secret ∈ verificationKey guard options request,
        SignedWith guard options request secret) ∧ ∀ request, headerSecret options request = none →
        (∀ secret ∈ configuredSecret guard options, MadeWithout guard options request secret) →
            ¬ Accepts guard options request := by
  refine ⟨fun request accepts => verifySignature_ok accepts.verified, ?_⟩
  intro request unnamed made accepts
  obtain ⟨secret, key, signature, body, header, -, signed⟩ := verifySignature_ok accepts.verified
  rw [verificationKey, unnamed, Option.none_or] at key
  exact made secret key signature body header signed

end

/-! ### A server and its requests -/

theorem generic_iff {guard : WebhookVerificationGuard} {secret body : String} {text : List Char} :
    ProviderHmac guard secret body (some .generic) text ↔ text = hex (guard.hmac secret body) := by
  constructor
  · intro signed
    cases signed with
    | generic => rfl
  · rintro rfl
    exact .generic

def sampleHmac (secret payload : String) : Digest :=
  if payload ≠ "{}" then 0
  else if secret = "s3cret" then
    0xadbde1ce40c89c14215687d5d762a47df6dfaefcfad61e2e86718ffc8498571b
  else if secret = "evil" then
    0x713dcdff64f000f32c2b531c69a73f0503f0f0bf85c29fc7f2ac16215c00228d
  else 0

def sampleGuard : WebhookVerificationGuard where
  hmac := sampleHmac
  configService := fun name =>
    if name = "DEFAULT_WEBHOOK_SECRET" then some "s3cret" else none

/-- A request with the body `{}`, signed with one secret and naming another
one, or none. -/
def sampleRequest (secret : String) (named : Option String)
    (timestamp nonce : String) : Request where
  header := fun name =>
    if name = "X-Webhook-Signature" then
      some (String.ofList (hex (sampleHmac secret "{}")))
    else if name = "X-Webhook-Timestamp" then some timestamp
    else if name = "X-Webhook-Nonce" then some nonce
    else if name = "X-Webhook-Secret" then named
    else none
  body := some "{}"

def sampleWorld : World := ⟨.empty, 1000⟩

/-- Run alone, none of its effects failing, the guard lets the request
through. -/
def letsThrough (request : Request) : Prop :=
  (webhooks.exec (sampleGuard.canActivate (some webhookVerified) request) []
    sampleWorld).1 = .ok true

instance (request : Request) : Decidable (letsThrough request) :=
  inferInstanceAs (Decidable (_ = _))

theorem letsThrough.accepts {request : Request} (through : letsThrough request) :
    Accepts sampleGuard webhookVerified request := by
  have ends := Program.Ends.of_exec webhooks
    (sampleGuard.canActivate (some webhookVerified) request) [] sampleWorld
  rwa [show (webhooks.exec _ [] sampleWorld).1 = _ from through] at ends

theorem sample_madeWithout (named : Option String) (timestamp nonce : String) :
    MadeWithout sampleGuard webhookVerified
      (sampleRequest "evil" named timestamp nonce) "s3cret" := by
  intro signature body header signed
  have text : signature.toList = hex (sampleHmac "evil" "{}") := by
    rw [← Option.some.inj (Except.ok.inj header), String.toList_ofList]
  have expected := text.symm.trans (generic_iff.mp signed)
  simp only [sampleGuard, sampleHmac] at expected
  by_cases same : body = "{}"
  · rw [same] at expected
    exact absurd expected (by decide)
  · rw [if_pos same] at expected
    exact absurd expected (by decide)

/-- The sender of a signed request is let through, and one who signs with a
secret of his own and does not name it is not. -/
theorem signed_let_through :
    (∃ secret ∈ verificationKey sampleGuard webhookVerified (sampleRequest "s3cret" none "999" "n"),
        SignedWith sampleGuard webhookVerified (sampleRequest "s3cret" none "999" "n") secret) ∧
      ¬ Accepts sampleGuard webhookVerified (sampleRequest "evil" none "999" "n") := by
  have through : letsThrough (sampleRequest "s3cret" none "999" "n") := by decide
  refine ⟨(webhooks_authentic sampleGuard webhookVerified).1 _ through.accepts, ?_⟩
  apply (webhooks_authentic sampleGuard webhookVerified).2 _ rfl
  intro secret configured
  cases Option.some.inj configured
  exact sample_madeWithout none "999" "n"

/-- One who names it is: the signature is made without the server's secret,
and is not the HMAC of the body under it. -/
theorem forged_accepted :
    letsThrough (sampleRequest "evil" (some "evil") "999" "n") ∧ Accepts sampleGuard webhookVerified
        (sampleRequest "evil" (some "evil") "999" "n") ∧
      configuredSecret sampleGuard webhookVerified = some "s3cret" ∧
      ¬ SignedWith sampleGuard webhookVerified
        (sampleRequest "evil" (some "evil") "999" "n") "s3cret" ∧
      MadeWithout sampleGuard webhookVerified
        (sampleRequest "evil" (some "evil") "999" "n") "s3cret" := by
  have through : letsThrough (sampleRequest "evil" (some "evil") "999" "n") := by decide
  have made := sample_madeWithout (some "evil") "999" "n"
  exact ⟨through, through.accepts, by decide, made.not_signedWith, made⟩

/-! ### The property -/

section

variable (guard : WebhookVerificationGuard) (options : WebhookVerifiedOptions) (request : Request)

/-- The signature header that a provider documents: the HMAC of the body under
the secret; Stripe signs a timestamp in front of it, and names both. -/
inductive ProviderHeader (secret body : String) :
    Option Provider → List Char → Prop where
  | stripe (timestamp : String) :
      ProviderHeader secret body (some .stripe) ("t=".toList ++ timestamp.toList ++ ",v1=".toList ++
          hex (guard.hmac secret (timestamp ++ "." ++ body)))
  | sendgrid :
      ProviderHeader secret body (some .sendgrid) (base64 (guard.hmac secret body))
  | stellar :
      ProviderHeader secret body (some .stellar) (hex (guard.hmac secret body))
  | generic :
      ProviderHeader secret body (some .generic) (hex (guard.hmac secret body))
  | unnamed : ProviderHeader secret body none (hex (guard.hmac secret body))

def tolerance : ℤ := (options.timestampToleranceMs.filter (· ≠ 0)).getD 300000

/-- The request is signed with the secret that the guard looks up, its
timestamp is within tolerance, and its nonce has not been used. -/
structure Genuine (world : World) : Prop where
  signed : ∃ secret body signature, secret ≠ "" ∧
    guard.getSecret request options = .ok (some secret) ∧ request.body = some body ∧
    request.get options.signatureHeader = .ok (some signature) ∧
    ProviderHeader guard secret body options.provider signature.toList
  timely : ∃ text timestamp, text ≠ "" ∧ request.get options.timestampHeader = .ok (some text) ∧
    parseInt? text.toList = some timestamp ∧
    |world.now - timestamp| ≤ tolerance options
  fresh : ∃ nonce, nonce ≠ "" ∧ request.get options.nonceHeader = .ok (some nonce) ∧
    world.cache.get world.now (nonceKey nonce) = none

/-- Nothing failing, the guard lets the request through. -/
def LetThrough (world : World) : Prop :=
  (webhooks.exec (guard.canActivate (some options) request) [] world).1 = .ok true

instance (world : World) : Decidable (LetThrough guard options request world) :=
  inferInstanceAs (Decidable (_ = _))

end

section

variable {guard : WebhookVerificationGuard} {options : WebhookVerifiedOptions}
  {request : Request} {world : World}

/-! ### Signatures -/

variable {text secret body : String} {provider : Option Provider}

@[simp] theorem truthy_some (nonempty : text ≠ "") :
    truthy (some text) = some text := Option.filter_eq_some_iff.mpr ⟨rfl, decide_eq_true nonempty⟩

theorem stripe_header_ne (timestamp : List Char) (rest : List Char)
    (digest : Digest) : "t=".toList ++ timestamp ++ rest ≠ hex digest := by
  intro same
  have equality : '=' ∈ hex digest := by grind
  obtain ⟨digit, isDigit, char⟩ := List.mem_map.mp equality
  exact (digitChar_ne digit).1 char

theorem hex_ne_nil (digest : Digest) : hex digest ≠ [] := by grind [hex, List.length_map, digitsOf]

theorem ProviderHeader.ne_nil {text : List Char}
    (header : ProviderHeader guard secret body provider text) : text ≠ [] := by
  cases header <;> simp [base64, hex_ne_nil]

theorem ProviderHeader.ne_empty (header : ProviderHeader guard secret body provider text.toList) :
    text ≠ "" := by
  rintro rfl
  exact header.ne_nil rfl

theorem ProviderHeader.expected {signature : String}
    (header : ProviderHeader guard secret body provider signature.toList)
    (other : provider ≠ some .stripe) :
    guard.expectedSignature provider (some body) signature secret =
      .ok signature.toList := by
  generalize signature.toList = text at header
  cases header with
  | stripe timestamp => exact absurd rfl other
  | sendgrid | stellar | generic | unnamed => rfl

theorem verifySignature_genuine (genuine : Genuine guard options request world)
    (other : options.provider ≠ some .stripe) :
    guard.verifySignature request.body request options = .ok () := by
  obtain ⟨secret, body, signature, nonempty, key, same, header, signed⟩ := genuine.signed
  have expected := signed.expected other
  unfold verifySignature
  rw [header, key, same]
  simp only [bind, Except.bind, truthy_some signed.ne_empty, truthy_some nonempty]
  rw [expected]
  exact if_pos (secureCompare_iff.mpr rfl)

theorem not_verified_stripe (genuine : Genuine guard options request world)
    (stripe : options.provider = some .stripe) :
    guard.verifySignature request.body request options ≠ .ok () := by
  intro verified
  obtain ⟨_, _, text, other, found, _, signed⟩ := verifySignature_ok verified
  obtain ⟨secret, body, signature, _, _, _, header, written⟩ := genuine.signed
  rw [header] at found
  cases Option.some.inj (Except.ok.inj found)
  rw [stripe] at signed written
  generalize text.toList = characters at signed written
  cases signed with
  | stripe sent =>
    generalize same : hex _ = characters at written
    cases written
    grind [stripe_header_ne]

/-! ### The other checks -/

theorem verifyTimestamp_exec (genuine : Genuine guard options request world) :
    webhooks.exec (verifyTimestamp request options) [] world = (.ok (), world) := by
  obtain ⟨text, timestamp, nonempty, header, parsed, near⟩ := genuine.timely
  unfold verifyTimestamp
  rw [header, Handler.exec_bind]
  have read : webhooks.exec (decided (.ok (some text))) [] world = (.ok (some text), world) := rfl
  simp only [read, truthy_some nonempty, parsed]
  show webhooks.exec (if |world.now - timestamp| > tolerance options then _
    else _) [] world = _
  rw [if_neg near.not_gt]
  rfl

theorem verifyNonce_exec (genuine : Genuine guard options request world) :
    ∃ after, webhooks.exec (verifyNonce request options) [] world = (.ok (), after) := by
  obtain ⟨nonce, nonempty, header, unused⟩ := genuine.fresh
  unfold verifyNonce
  rw [header, Handler.exec_bind]
  have read : webhooks.exec (decided (.ok (some nonce))) [] world = (.ok (some nonce), world) := rfl
  simp only [read, truthy_some nonempty]
  show ∃ after, webhooks.exec (if (truthy (world.cache.get world.now
    (nonceKey nonce))).isSome then _ else _) [] world = _
  rw [unused]
  exact ⟨_, rfl⟩

theorem verifyWebhook_exec (genuine : Genuine guard options request world)
    (other : options.provider ≠ some .stripe) :
    ∃ after, webhooks.exec (guard.verifyWebhook request options) [] world = (.ok (), after) := by
  obtain ⟨after, checked⟩ := verifyNonce_exec genuine
  refine ⟨after, ?_⟩
  unfold verifyWebhook
  dsimp only
  rw [verifySignature_genuine genuine other, Handler.exec_bind]
  show webhooks.exec (verifyTimestamp request options >>= fun _ =>
    verifyNonce request options) [] world = _
  grind [Handler.exec_bind, verifyTimestamp_exec]

/-- A genuine request is let through iff its provider is not Stripe. -/
theorem genuine_let_through_iff (genuine : Genuine guard options request world) :
    LetThrough guard options request world ↔ options.provider ≠ some .stripe := by
  constructor
  · intro through stripe
    have ends := Program.Ends.of_exec webhooks (guard.canActivate (some options) request) [] world
    rw [show (webhooks.exec _ [] world).1 = _ from through] at ends
    exact not_verified_stripe genuine stripe (Accepts.verified ends)
  · intro other
    obtain ⟨after, verified⟩ := verifyWebhook_exec genuine other
    have recorded : (webhooks.exec (guard.verifyRecorded request options
        world.now) [] world).1 = .ok true := by
      rw [verifyRecorded, Handler.exec_bind, verified]
      rfl
    unfold LetThrough canActivate
    rw [Handler.exec_bind]
    show (webhooks.exec ((guard.verifyRecorded request options
      world.now).attempt >>= _) [] world).1 = _
    rw [Handler.exec_bind, Handler.exec_attempt, recorded]
    rfl

end

/-! ### Two providers -/

theorem generic_genuine : Genuine sampleGuard webhookVerified
    (sampleRequest "s3cret" none "999" "n") sampleWorld := by
  constructor
  · refine ⟨"s3cret", "{}", String.ofList (hex (sampleHmac "s3cret" "{}")),
      by decide, rfl, rfl, rfl, ?_⟩
    exact .generic
  · exact ⟨"999", 999, by decide, rfl, by decide, by decide⟩
  · exact ⟨"n", by decide, rfl, rfl⟩

theorem generic_let_through : LetThrough sampleGuard webhookVerified
    (sampleRequest "s3cret" none "999" "n") sampleWorld :=
  (genuine_let_through_iff generic_genuine).mpr (by decide)

/-- HMAC-SHA-256 of the body `{}` with a timestamp in front. -/
def stripeHmac (secret payload : String) : Digest :=
  if secret = "s3cret" ∧ payload = "1700000000.{}" then
    0x97926816e98fbb41ccb1673225ff29a2f35369099990e1b1561651e7bd097ebf
  else 0

def stripeGuard : WebhookVerificationGuard where
  hmac := stripeHmac
  configService := fun name =>
    if name = "STRIPE_WEBHOOK_SECRET" then some "s3cret" else none

def stripeOptions : WebhookVerifiedOptions := webhookVerified { provider := some .stripe }

def stripeHeader : String := "t=1700000000,v1=" ++
    "97926816e98fbb41ccb1673225ff29a2f35369099990e1b1561651e7bd097ebf"

def stripeRequest : Request where
  header := fun name =>
    if name = "X-Webhook-Signature" then some stripeHeader
    else if name = "X-Webhook-Timestamp" then some "1700000000000"
    else if name = "X-Webhook-Nonce" then some "n"
    else none
  body := some "{}"

/-- An event that Stripe has signed is turned away. -/
theorem stripe_turned_away :
    Genuine stripeGuard stripeOptions stripeRequest ⟨.empty, 1700000000000⟩ ∧
      ¬ LetThrough stripeGuard stripeOptions stripeRequest ⟨.empty, 1700000000000⟩ := by
  refine ⟨⟨?_, ?_, ?_⟩, by decide⟩
  · refine ⟨"s3cret", "{}", stripeHeader, by decide, rfl, rfl, rfl, ?_⟩
    have written : stripeHeader.toList = "t=".toList ++ "1700000000".toList ++ ",v1=".toList ++
          hex (stripeHmac "s3cret" ("1700000000" ++ "." ++ "{}")) := by decide
    rw [written]
    exact .stripe "1700000000"
  · exact ⟨"1700000000000", 1700000000000, by decide, rfl, by decide, by decide⟩
  · exact ⟨"n", by decide, rfl, rfl⟩

end MarketX.Webhooks
