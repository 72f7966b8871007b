/-
Module: MarketX.Subscriptions.SubscriptionsService
Purpose: The subscriptions of the users
  (`subscriptions/subscriptions.service.ts` and
  `subscriptions/config/subscription-tiers.config.ts`): creation, upgrade,
  cancellation, renewal and the hourly check, each with the copy of the
  subscription's state in the user's row.
Trusted boundary: human-reviewed model of the source
Main exports: Subscription, World, Op, subscriptions
-/
import Mathlib.Data.List.MinMax
import MarketX.Common.Service
import MarketX.Effects.Table

namespace MarketX.Subscriptions

open Effects

/-! ### The rows -/

inductive SubscriptionTier where
  | free
  | basic
  | premium
deriving DecidableEq

inductive SubscriptionStatus where
  | active
  | expired
  | cancelled
  | pending
  | suspended
deriving DecidableEq

inductive BillingCycle where
  | monthly
  | quarterly
  | yearly
deriving DecidableEq

structure Usage where
  currentListings : ℕ
  currentFeaturedListings : ℕ
  totalUploadsThisMonth : ℕ
  lastUsageReset : Date
deriving DecidableEq

structure Subscription where
  id : Id
  userId : Id
  tier : SubscriptionTier
  status : SubscriptionStatus := .pending
  billingCycle : BillingCycle := .monthly
  price : Amount
  currency : String := "USD"
  startsAt : Date
  endsAt : Option Date := none
  expiresAt : Date
  lastPaymentAt : Option Date := none
  nextBillingAt : Option Date := none
  paymentMethodToken : Option String := none
  paymentProvider : Option String := none
  autoRenew : Bool := true
  cancellationReason : Option String := none
  cancelledAt : Option Date := none
  usage : Option Usage := none
  createdAt : Date
deriving DecidableEq

instance : Keyed Subscription := ⟨Subscription.id⟩

/-- What the row of a user says about a subscription. -/
structure Standing where
  subscriptionTier : SubscriptionTier := .free
  subscriptionStatus : Option SubscriptionStatus := none
  subscriptionExpiresAt : Option Date := none
  hasPremiumSubscription : Bool := false
deriving DecidableEq

/-- The tables, with a row for every user, and the clock.  `written` lists the
subscriptions that have been saved, the latest first, for the statements
only. -/
structure World where
  subscriptions : Table Subscription
  users : Id → Standing
  now : Date
  written : List Subscription := []

namespace World

variable (world : World)

def withSubscription (subscription : Subscription) : World :=
  { world with
    subscriptions := world.subscriptions.save subscription
    written := subscription :: world.written }

/-- `update` of the row of a user. -/
def withStanding (userId : Id) (standing : Standing) : World :=
  { world with users := Function.update world.users userId standing }

/-- The latest ACTIVE subscription of a user. -/
def activeOf (userId : Id) : Option Subscription :=
  letI : Preorder Date := Int.instLinearOrder.toPreorder
  (world.subscriptions.rows.filter fun subscription =>
    subscription.userId = userId ∧ subscription.status = .active).argmax Subscription.createdAt

def expiredAt (now : Date) : List Subscription :=
  world.subscriptions.rows.filter fun subscription =>
    subscription.status = .active ∧ subscription.expiresAt < now

end World

/-! ### The effects -/

/-- An inserted subscription has no key yet: its `id` and `createdAt` are
ignored and generated. -/
inductive Op where
  | findActive (userId : Id)
  | findSubscription (id : Id)
  | findExpired (now : Date)
  | insertSubscription (subscription : Subscription)
  | saveSubscription (subscription : Subscription)
  | updateUser (userId : Id) (standing : Standing)
  | dateNow

@[reducible] def Reply : Op → Type
  | .findActive _ | .findSubscription _ => Option Subscription
  | .findExpired _ => List Subscription
  | .insertSubscription _ => Subscription
  | .dateNow => Date
  | _ => Unit

/-- The row of a new subscription. -/
def World.created (world : World) (subscription : Subscription) :
    Subscription :=
  { subscription with
    id := world.subscriptions.next
    createdAt := world.now }

def act : (op : Op) → World → Reply op × World
  | .findActive userId, world => (world.activeOf userId, world)
  | .findSubscription id, world => (world.subscriptions.row id, world)
  | .findExpired now, world => (world.expiredAt now, world)
  | .insertSubscription subscription, world =>
    (world.created subscription, world.withSubscription (world.created subscription))
  | .saveSubscription subscription, world =>
    ((), world.withSubscription subscription)
  | .updateUser userId standing, world =>
    ((), world.withStanding userId standing)
  | .dateNow, world => (world.now, world)

def mayFail : Op → Bool
  | .dateNow => false
  | _ => true

abbrev signature : Signature := ⟨Op, Reply⟩

def subscriptions : Handler signature World := ⟨act, mayFail⟩

abbrev Service (α : Type) := Program signature HttpException α

def await (op : Op) : Service (Reply op) := Program.perform (S := signature) op

abbrev subscriptionRepo.insert (subscription : Subscription) :
    Service Subscription := await (.insertSubscription subscription)

abbrev subscriptionRepo.save (subscription : Subscription) : Service Unit :=
  await (.saveSubscription subscription)

abbrev subscriptionRepo.findOne (id : Id) : Service (Option Subscription) :=
  await (.findSubscription id)

/-- `find` of the ACTIVE ones that expire before `now`. -/
abbrev subscriptionRepo.findExpired (now : Date) :
    Service (List Subscription) := await (.findExpired now)

abbrev usersRepo.update (userId : Id) (standing : Standing) : Service Unit :=
  await (.updateUser userId standing)

abbrev dateNow : Service Date := await .dateNow

/-! ### Tiers -/

structure SubscriptionTierConfig where
  tier : SubscriptionTier
  monthlyPrice : Amount
  yearlyPrice : Amount
  isActive : Bool
  sortOrder : ℕ
deriving DecidableEq

def SUBSCRIPTION_TIERS : List SubscriptionTierConfig :=
  [ { tier := .free, monthlyPrice := 0, yearlyPrice := 0, isActive := true
      sortOrder := 1 },
    { tier := .basic, monthlyPrice := 999 / 100, yearlyPrice := 9999 / 100
      isActive := true, sortOrder := 2 },
    { tier := .premium, monthlyPrice := 2999 / 100, yearlyPrice := 29999 / 100
      isActive := true, sortOrder := 3 } ]

def getTierConfig (tier : SubscriptionTier) : Option SubscriptionTierConfig :=
  SUBSCRIPTION_TIERS.find? fun config => config.tier = tier

def canUpgrade (currentTier targetTier : SubscriptionTier) : Bool :=
  match getTierConfig currentTier, getTierConfig targetTier with
  | some current, some target => target.sortOrder > current.sortOrder
  | _, _ => false

/-! ### The service -/

/-- The body of a request may name a tier that there is not, here `none`. -/
structure CreateSubscriptionDto where
  tier : Option SubscriptionTier
  billingCycle : BillingCycle
  paymentMethodToken : Option String := none
  paymentProvider : Option String := none
  autoRenew : Option Bool := none
deriving DecidableEq

structure UpgradeSubscriptionDto where
  targetTier : Option SubscriptionTier
  billingCycle : Option BillingCycle := none
  paymentMethodToken : Option String := none
deriving DecidableEq

/-- A date so many months later, in the time zone of the process:
`setMonth`, and `setFullYear` for twelve. -/
abbrev Calendar := Date → ℕ → Date

namespace SubscriptionsService

variable (addMonths : Calendar)

def getActiveSubscription (userId : Id) : Service (Option Subscription) :=
  await (.findActive userId)

/-- What the row of the user is to say. -/
def standingOf (subscription : Subscription) : Standing where
  subscriptionTier := subscription.tier
  subscriptionStatus := some subscription.status
  subscriptionExpiresAt := some subscription.expiresAt
  hasPremiumSubscription := subscription.tier ≠ .free ∧ subscription.status = .active

def updateUserSubscriptionStatus (userId : Id) (subscription : Subscription) :
    Service Unit := usersRepo.update userId (standingOf subscription)

def calculatePrice (tierConfig : SubscriptionTierConfig) :
    BillingCycle → Amount
  | .monthly => tierConfig.monthlyPrice
  | .yearly => tierConfig.yearlyPrice
  | .quarterly => tierConfig.monthlyPrice * 3 * (9 / 10)

def calculateEndDate (startDate : Date) : BillingCycle → Date
  | .monthly => addMonths startDate 1
  | .quarterly => addMonths startDate 3
  | .yearly => addMonths startDate 12

/-- The tier a request asks for, if it is on offer. -/
def offered (tier : Option SubscriptionTier) :
    Option (SubscriptionTier × SubscriptionTierConfig) := do
  let tier ← tier
  let tierConfig ← getTierConfig tier
  if tierConfig.isActive then some (tier, tierConfig) else none

/-- A text that is missing or empty counts as absent. -/
def given (text : Option String) : Option String := text.filter (· ≠ "")

def createSubscription (userId : Id) (dto : CreateSubscriptionDto) :
    Service Subscription := do
  let existingSubscription ← getActiveSubscription userId
  if existingSubscription.any (·.status = .active) then
    throw (.badRequest "User already has an active subscription")
  else
    match offered dto.tier with
    | none => throw (.badRequest "Invalid subscription tier")
    | some (tier, tierConfig) =>
      let now ← dateNow
      let endsAt := calculateEndDate addMonths now dto.billingCycle
      let savedSubscription ← subscriptionRepo.insert
        { id := 0
          userId
          tier
          status := .pending
          billingCycle := dto.billingCycle
          price := calculatePrice tierConfig dto.billingCycle
          currency := "USD"
          startsAt := now
          endsAt := some endsAt
          expiresAt := endsAt
          autoRenew := dto.autoRenew.getD true
          paymentMethodToken := dto.paymentMethodToken
          paymentProvider := dto.paymentProvider
          usage := some
            { currentListings := 0
              currentFeaturedListings := 0
              totalUploadsThisMonth := 0
              lastUsageReset := now }
          createdAt := 0 }
      updateUserSubscriptionStatus userId savedSubscription
      pure savedSubscription

/-- The current subscription as an upgrade leaves it. -/
def upgraded (current : Subscription) (tier : SubscriptionTier)
    (tierConfig : SubscriptionTierConfig) (dto : UpgradeSubscriptionDto)
    (now : Date) : Subscription :=
  let billingCycle := dto.billingCycle.getD current.billingCycle
  let endsAt := calculateEndDate addMonths now billingCycle
  { current with
    tier
    billingCycle
    price := calculatePrice tierConfig billingCycle
    endsAt := some endsAt
    expiresAt := endsAt
    nextBillingAt := some endsAt
    status := .pending
    paymentMethodToken :=
      (given dto.paymentMethodToken).or current.paymentMethodToken }

def upgradeSubscription (userId : Id) (dto : UpgradeSubscriptionDto) :
    Service Subscription := do
  match ← getActiveSubscription userId with
  | none => throw (.notFound "No active subscription found")
  | some currentSubscription =>
    if !dto.targetTier.any (canUpgrade currentSubscription.tier) then
      throw (.badRequest "Cannot downgrade to lower tier")
    else
      match offered dto.targetTier with
      | none => throw (.badRequest "Invalid target subscription tier")
      | some (tier, tierConfig) =>
        let now ← dateNow
        let currentSubscription := upgraded addMonths currentSubscription tier tierConfig dto now
        subscriptionRepo.save currentSubscription
        updateUserSubscriptionStatus userId currentSubscription
        pure currentSubscription

def cancelSubscription (userId : Id) (reason : Option String) :
    Service Subscription := do
  match ← getActiveSubscription userId with
  | none => throw (.notFound "No active subscription found")
  | some subscription =>
    let now ← dateNow
    let subscription :=
      { subscription with
        status := .cancelled
        cancellationReason := given reason
        cancelledAt := some now
        autoRenew := false }
    subscriptionRepo.save subscription
    updateUserSubscriptionStatus userId subscription
    pure subscription

/-- A subscription as a renewal leaves it. -/
def renewed (subscription : Subscription) (now : Date) : Subscription :=
  let endsAt := calculateEndDate addMonths now subscription.billingCycle
  { subscription with
    status := .active
    lastPaymentAt := some now
    nextBillingAt := some endsAt
    expiresAt := endsAt
    endsAt := some endsAt }

def processRenewal (subscriptionId : Id) : Service Subscription := do
  match ← subscriptionRepo.findOne subscriptionId with
  | none => throw (.notFound "Subscription not found")
  | some subscription =>
    if !subscription.autoRenew then
      pure subscription
    else
      let now ← dateNow
      let subscription := renewed addMonths subscription now
      subscriptionRepo.save subscription
      updateUserSubscriptionStatus subscription.userId subscription
      pure subscription

/-- One subscription that the check has found, as it was loaded: the renewal
loads it again, and its failure is logged. -/
def checkExpired (subscription : Subscription) : Service Unit := do
  if subscription.autoRenew then
    match ← (processRenewal addMonths subscription.id).attempt with
    | .ok _ => updateUserSubscriptionStatus subscription.userId subscription
    | .error _ =>
      let subscription := { subscription with status := .suspended }
      subscriptionRepo.save subscription
      updateUserSubscriptionStatus subscription.userId subscription
  else
    let subscription := { subscription with status := .expired }
    subscriptionRepo.save subscription
    updateUserSubscriptionStatus subscription.userId subscription

def checkExpiredSubscriptions : Service Unit := do
  let now ← dateNow
  let expiredSubscriptions ← subscriptionRepo.findExpired now
  expiredSubscriptions.forM (checkExpired addMonths)

end SubscriptionsService

/-! ### The calls -/

inductive SubscriptionCall where
  | createSubscription (userId : Id) (dto : CreateSubscriptionDto)
  | upgradeSubscription (userId : Id) (dto : UpgradeSubscriptionDto)
  | cancelSubscription (userId : Id) (reason : Option String)
  | processRenewal (subscriptionId : Id)
  | checkExpiredSubscriptions
deriving DecidableEq

def SubscriptionCall.program (addMonths : Calendar) :
    SubscriptionCall → Service Unit
  | .createSubscription userId dto => do
      let _ ← SubscriptionsService.createSubscription addMonths userId dto
      pure ()
  | .upgradeSubscription userId dto => do
      let _ ← SubscriptionsService.upgradeSubscription addMonths userId dto
      pure ()
  | .cancelSubscription userId reason => do
      let _ ← SubscriptionsService.cancelSubscription userId reason
      pure ()
  | .processRenewal subscriptionId => do
      let _ ← SubscriptionsService.processRenewal addMonths subscriptionId
      pure ()
  | .checkExpiredSubscriptions => SubscriptionsService.checkExpiredSubscriptions addMonths

end MarketX.Subscriptions
