/-
Module: MarketX.Commerce.RewardsService
Purpose: The rest of the rewards service (`rewards/rewards.service.ts`), the
  listener that grants points (`rewards/listeners/order-completed.listener.ts`),
  and the service with the balance as the database driver hands it out: the raw
  sum is a number or a text, and what is added to a text is written behind it.
Trusted boundary: human-reviewed model of the source; a row with numbers that
  are out of the range of its columns is one that fails to be stored, and a
  saved row is returned as it is stored
Main exports: RedeemPointsDto, RewardsService.grantPointsForOrder, SumForm, RawSum
-/
import MarketX.Commerce.CouponsService
import MarketX.Commerce.PaymentsService
import MarketX.Numerals.Decimal

namespace MarketX.Commerce

open Effects

/-- The DTO admits whole numbers from one up only (`@IsInt() @Min(1)`). -/
@[ext] structure RedeemPointsDto where
  points : ℤ
  points_pos : 1 ≤ points

instance : DecidableEq RedeemPointsDto := fun _ _ => decidable_of_iff' _ RedeemPointsDto.ext_iff

namespace RewardsService

def pointsPerDollar : ℚ := 10

def grantPointsForOrder (userId orderId : Id) (totalAmount : Amount) :
    Service RewardPoints := do
  let pointsEarned := ⌊totalAmount * pointsPerDollar⌋
  if pointsEarned ≤ 0 then
    throw (.badRequest "Order amount must be greater than zero to earn points")
  createReward
    { userId
      points := pointsEarned
      transactionType := some .earned
      description := some s!"Points earned for order {orderId}"
      referenceId := some orderId
      referenceType := some "order" }

structure RedemptionResult where
  coupon : Coupon
  pointsUsed : ℤ
  remainingBalance : ℤ

/-- The coupon that a redemption creates. -/
def rewardCoupon (userId : Id) (points : ℤ) (now : Date) : Coupon where
  id := 0
  code := s!"REWARD-{now}-{(toString userId).take 8}"
  name := "Reward Points Redemption"
  description := some s!"Redeemed {points} reward points"
  discountType := .fixedAmount
  discountValue := points / pointsToDollarConversion
  status := .active
  totalUsageLimit := 1
  perUserLimit := 1
  currentUsageCount := 0
  restrictions := some { minimumOrderAmount := some 0 }

def redeemPoints (userId : Id) (redeemPointsDto : RedeemPointsDto) :
    Service RedemptionResult := do
  let currentBalance ← getUserBalance userId
  if currentBalance < redeemPointsDto.points then
    throw (.badRequest "Insufficient reward points balance")
  let now ← dateNow
  let savedCoupon ← couponsRepository.insert (rewardCoupon userId redeemPointsDto.points now)
  let _ ← createReward
    { userId
      points := -redeemPointsDto.points
      transactionType := some .redeemed
      description := some s!"Redeemed points for coupon {savedCoupon.code}"
      referenceId := some savedCoupon.id
      referenceType := some "coupon" }
  let remainingBalance ← getUserBalance userId
  pure
    { coupon := savedCoupon
      pointsUsed := redeemPointsDto.points
      remainingBalance }

end RewardsService

/-- `@OnEvent('order.completed')`.  An exception is logged. -/
def OrderCompletedListener.handleOrderCompleted (userId orderId : Id)
    (totalAmount : Amount) : Service Unit := tryCatch (do
      let _ ← RewardsService.grantPointsForOrder userId orderId totalAmount
      pure ())
    fun _ => pure ()

open Effects Numerals

/-! ### Sums -/

/-- The integer that a text denotes, to an `int` column and to `<`. -/
def integer? (text : String) : Option ℤ :=
  match text.toList with
  | '-' :: digits => (natural? 10 digits).map fun (value : ℕ) => -(value : ℤ)
  | digits => (natural? 10 digits).map fun (value : ℕ) => (value : ℤ)

/-- `number | string`. -/
inductive RawSum where
  | number (value : ℤ)
  | text (value : String)
deriving DecidableEq

namespace RawSum

/-- `sum + points`. -/
def plus : RawSum → ℤ → RawSum
  | .number value, points => .number (value + points)
  | .text value, points => .text (value ++ toString points)

/-- `sum < points`. -/
def less : RawSum → ℚ → Bool
  | .number value, points => value < points
  | .text value, points =>
    (integer? value).any fun (value : ℤ) => (value : ℚ) < points

/-- What an `int` column takes. -/
def column : RawSum → Option ℤ
  | .number value => some value
  | .text value => integer? value

end RawSum

/-- How the driver hands out a `bigint`. -/
inductive SumForm where
  | number
  | text
deriving DecidableEq

def SumForm.hand : SumForm → ℤ → RawSum
  | .number, sum => .number sum
  | .text, sum => .text (toString sum)

/-- `result?.total || 0`: no text is empty, and the sum of no rows is null. -/
def SumForm.orZero (form : SumForm) : Option ℤ → RawSum
  | none => .number 0
  | some sum => form.hand sum

/-! ### The service -/

namespace RawRewards

open RewardsService (CreateRewardDto pointsPerDollar pointsToDollarConversion rewardCoupon)

variable (form : SumForm)

def getUserBalance (userId : Id) : Service RawSum := do
  let total ← await (.totalPoints userId)
  pure (form.orZero total)

def createReward (dto : CreateRewardDto) : Service RewardPoints := do
  let currentBalance ← getUserBalance form dto.userId
  let newBalance := currentBalance.plus dto.points
  if dto.transactionType = some .redeemed ∧ currentBalance.less dto.points then
    throw (.badRequest "Insufficient reward points balance")
  match newBalance.column with
  | none => throw columnError
  | some balanceAfter =>
    let reward : RewardPoints :=
      { userId := dto.userId
        points := dto.points
        transactionType := dto.transactionType.getD .earned
        description := dto.description
        referenceId := dto.referenceId
        referenceType := dto.referenceType
        balanceAfter }
    rewardsRepository.insert reward
    pure reward

def grantPointsForOrder (userId orderId : Id) (totalAmount : Amount) :
    Service RewardPoints := do
  let pointsEarned := ⌊totalAmount * pointsPerDollar⌋
  if pointsEarned ≤ 0 then
    throw (.badRequest "Order amount must be greater than zero to earn points")
  createReward form
    { userId
      points := pointsEarned
      transactionType := some .earned
      description := some s!"Points earned for order {orderId}"
      referenceId := some orderId
      referenceType := some "order" }

structure RedemptionResult where
  coupon : Coupon
  pointsUsed : ℤ
  remainingBalance : RawSum

def redeemPoints (userId : Id) (redeemPointsDto : RedeemPointsDto) :
    Service RedemptionResult := do
  let currentBalance ← getUserBalance form userId
  if currentBalance.less redeemPointsDto.points then
    throw (.badRequest "Insufficient reward points balance")
  let now ← dateNow
  let savedCoupon ← couponsRepository.insert (rewardCoupon userId redeemPointsDto.points now)
  let _ ← createReward form
    { userId
      points := -redeemPointsDto.points
      transactionType := some .redeemed
      description := some s!"Redeemed points for coupon {savedCoupon.code}"
      referenceId := some savedCoupon.id
      referenceType := some "coupon" }
  let remainingBalance ← getUserBalance form userId
  pure
    { coupon := savedCoupon
      pointsUsed := redeemPointsDto.points
      remainingBalance }

structure PointsResult where
  discountAmount : Amount
  pointsUsed : ℤ
  remainingBalance : RawSum

def applyPointsToCheckout (userId : Id) (pointsToUse : ℚ)
    (orderTotal : Amount) : Service PointsResult := do
  let currentBalance ← getUserBalance form userId
  if currentBalance.less pointsToUse then
    throw (.badRequest "Insufficient reward points balance")
  let maxDiscountFromPoints := pointsToUse / pointsToDollarConversion
  let discountAmount := min maxDiscountFromPoints orderTotal
  let actualPointsUsed := ⌊discountAmount * pointsToDollarConversion⌋
  let _ ← createReward form
    { userId
      points := -actualPointsUsed
      transactionType := some .redeemed
      description := some s!"Applied {actualPointsUsed} points to checkout"
      referenceType := some "checkout" }
  let remainingBalance ← getUserBalance form userId
  pure { discountAmount, pointsUsed := actualPointsUsed, remainingBalance }

def adjustPoints (userId : Id) (points : ℤ) (description : String)
    (referenceId : Option Id := none) : Service RewardPoints := createReward form
    { userId
      points
      transactionType := some .adjusted
      description := some description
      referenceId
      referenceType := some "admin_adjustment" }

end RawRewards

/-! ### Calls for one user -/

/-- A call for a user; the `userId` of the request is that user's. -/
inductive PointsCall where
  | createReward (dto : RewardsService.CreateRewardDto)
  | grantPointsForOrder (orderId : Id) (totalAmount : Amount)
  | redeemPoints (dto : RedeemPointsDto)
  | applyPointsToCheckout (pointsToUse : ℚ) (orderTotal : Amount)
  | adjustPoints (points : ℤ) (description : String) (referenceId : Option Id)

def PointsCall.program (form : SumForm) (userId : Id) :
    PointsCall → Service Unit
  | .createReward dto => do
      let _ ← RawRewards.createReward form { dto with userId }
      pure ()
  | .grantPointsForOrder orderId totalAmount => do
      let _ ← RawRewards.grantPointsForOrder form userId orderId totalAmount
      pure ()
  | .redeemPoints dto => do
      let _ ← RawRewards.redeemPoints form userId dto
      pure ()
  | .applyPointsToCheckout pointsToUse orderTotal => do
      let _ ← RawRewards.applyPointsToCheckout form userId pointsToUse orderTotal
      pure ()
  | .adjustPoints points description referenceId => do
      let _ ← RawRewards.adjustPoints form userId points description referenceId
      pure ()

end MarketX.Commerce
