/-
Module: MarketX.Proofs.RewardRace
Purpose: Reward points of one user being redeemed, applied at checkouts and
  earned at once, effect by effect in any order: when the balance stays at or
  above zero and no more value is granted than has been earned.
Trusted boundary: human-reviewed definition of RewardCall, Backed and
  Covered
Main exports: RewardCall, rewardRace, Backed, covered_rewards
-/
import MarketX.Effects.Interleaving
import MarketX.Effects.Totals
import MarketX.Commerce.RewardsService
import MarketX.Commerce.Runs

namespace MarketX.Commerce

open Effects Handler RewardsService

/-! ### The race -/

/-- What takes part, all for one user. -/
inductive RewardCall where
  | redeemPoints (dto : RedeemPointsDto)
  | applyPointsToCheckout (pointsToUse : ℤ) (positive : 1 ≤ pointsToUse) (orderTotal : Amount)
  | grantPointsForOrder (orderId : Id) (totalAmount : Amount)

section

variable (userId : Id)

def RewardCall.program : RewardCall → Service Unit
  | .redeemPoints dto => do
      let _ ← RewardsService.redeemPoints userId dto
      pure ()
  | .applyPointsToCheckout pointsToUse _ orderTotal => do
      let _ ← RewardsService.applyPointsToCheckout userId pointsToUse orderTotal
      pure ()
  | .grantPointsForOrder orderId totalAmount => do
      let _ ← RewardsService.grantPointsForOrder userId orderId totalAmount
      pure ()

abbrev RewardPool := Pool signature World HttpException RewardCall

/-- Besides, everything but the points and the coupons may change. -/
abbrev RewardTurn := Turn HttpException RewardCall World

def rewardRace (pool : RewardPool) (turn : RewardTurn) : RewardPool :=
  pool.step commerce (RewardCall.program userId) (fun other world =>
      { other with
        db := { other.db with
          rewards := world.db.rewards
          coupons := world.db.coupons } })
    turn

/-! ### The property -/

def pointsOf (counts : RewardPoints → Bool) (world : World) : ℤ :=
  ((world.db.rewards.filter fun reward =>
    reward.userId = userId && counts reward).map RewardPoints.points).sum

/-- The sum of the user's rows. -/
abbrev balance (world : World) : ℤ := pointsOf userId (fun _ => true) world

abbrev earned (world : World) : ℤ :=
  pointsOf userId (fun reward => reward.transactionType = .earned) world

abbrev couponPoints (world : World) : ℤ :=
  pointsOf userId (fun reward => reward.referenceType = some "coupon") world

def couponValue (world : World) : ℚ := world.db.coupons.total Coupon.discountValue

/-- The discount with which a checkout answers. -/
def RewardCall.discount : RewardCall → ℚ
  | .applyPointsToCheckout pointsToUse _ orderTotal =>
    min (pointsToUse / pointsToDollarConversion) orderTotal
  | .redeemPoints _ | .grantPointsForOrder _ _ => 0

/-- The value of the coupons that have been saved since the start, and of the
discounts with which checkouts have answered. -/
def valueGranted (start : World) (pool : RewardPool) : ℚ :=
  couponValue pool.state - couponValue start + pool.tally fun thread =>
      if thread.rest.returned then thread.name.discount else 0

/-- The balance is not negative, and what has been granted is not worth more
than the points there were and those that have been earned since. -/
def Backed (start : World) (pool : RewardPool) : Prop := 0 ≤ balance userId pool.state ∧
    valueGranted start pool ≤ (balance userId start +
        (earned userId pool.state - earned userId start) : ℤ) / 100

instance (start : World) (pool : RewardPool) :
    Decidable (Backed userId start pool) := inferInstanceAs (Decidable (_ ∧ _))

/-! ### The condition -/

/-- The points of the coupons that have been saved since the start, less
those that have been deducted for coupons. -/
def outstanding (start world : World) : ℚ := 100 * (couponValue world - couponValue start) +
    (couponPoints userId world - couponPoints userId start : ℤ)

/-- The points that back no coupon. -/
def available (start world : World) : ℚ := balance userId world - outstanding userId start world

/-- What a call takes is still available when it takes it: the points of a
coupon when it is saved, and those of a discount when they are deducted; and
the discount is a number of whole cents, and not negative. -/
def covered (start : World) (call : RewardCall) (world : World) : Op → Bool
  | .insertCoupon coupon => 100 * coupon.discountValue ≤ available userId start world
  | .insertReward reward =>
    match call with
    | .applyPointsToCheckout _ _ _ =>
      0 ≤ call.discount ∧ (⌊call.discount * 100⌋ : ℚ) = call.discount * 100 ∧
        ((-reward.points : ℤ) : ℚ) ≤ available userId start world
    | .redeemPoints _ | .grantPointsForOrder _ _ => true
  | _ => true

/-- The effect of this turn, if it does not throw, is covered. -/
def Covered (start : World) (pool : RewardPool) (turn : RewardTurn) : Prop :=
  turn.fault? = none → ∀ moves ∈ pool.mover? turn,
    covered userId start moves.1.name pool.state moves.2 = true

instance (start : World) (pool : RewardPool) (turn : RewardTurn) :
    Decidable (Covered userId start pool turn) :=
  inferInstanceAs (Decidable (_ → ∀ moves ∈ pool.mover? turn, _))

end

/-! ### The protocol of the calls -/

/-- How far a call has come: it has written nothing, it has saved a coupon, it
has written its row. -/
inductive RedemptionPhase where
  | fresh
  | issued
  | booked
deriving DecidableEq

structure Deducts (userId : Id) (points : ℤ) (referenceType : String)
    (reward : RewardPoints) : Prop where
  user : reward.userId = userId
  points : reward.points = -points
  redeemed : reward.transactionType = .redeemed
  reference : reward.referenceType = some referenceType

inductive Allows (userId : Id) : RewardCall → RedemptionPhase → Op → Prop where
  | reads {call : RewardCall} {phase : RedemptionPhase} :
      Allows userId call phase (.sumPoints userId)
  | looks {call : RewardCall} {phase : RedemptionPhase} :
      Allows userId call phase .dateNow
  | issues {dto : RedeemPointsDto} {coupon : Coupon}
      (value : coupon.discountValue = dto.points / pointsToDollarConversion) :
      Allows userId (.redeemPoints dto) .fresh (.insertCoupon coupon)
  | pays {dto : RedeemPointsDto} {reward : RewardPoints}
      (row : Deducts userId dto.points "coupon" reward) :
      Allows userId (.redeemPoints dto) .issued (.insertReward reward)
  | discounts {pointsToUse : ℤ} {positive : 1 ≤ pointsToUse}
      {orderTotal : Amount} {reward : RewardPoints} (row : Deducts userId
        ⌊min (pointsToUse / pointsToDollarConversion) orderTotal *
          pointsToDollarConversion⌋ "checkout" reward) :
      Allows userId (.applyPointsToCheckout pointsToUse positive orderTotal)
        .fresh (.insertReward reward)
  | earns {orderId : Id} {totalAmount : Amount} {reward : RewardPoints}
      (user : reward.userId = userId) (positive : 0 < reward.points)
      (type : reward.transactionType = .earned) (reference : reward.referenceType = some "order") :
      Allows userId (.grantPointsForOrder orderId totalAmount) .fresh (.insertReward reward)

def RedemptionPhase.after (phase : RedemptionPhase) : Op → RedemptionPhase
  | .insertCoupon _ => .issued
  | .insertReward _ => .booked
  | _ => phase

def rewardProtocol (userId : Id) (call : RewardCall) :
    Protocol signature RedemptionPhase where
  start := .fresh
  after := RedemptionPhase.after
  allows := Allows userId call
  ends phase := phase = .booked

theorem follows_await {userId : Id} {call : RewardCall} {phase : RedemptionPhase} {op : Op}
    {post : Reply op → RedemptionPhase → Prop} (allowed : Allows userId call phase op)
    (continues : ∀ reply, post reply (phase.after op)) :
    (await op).Follows (rewardProtocol userId call) post phase := follows_perform allowed continues

theorem follows_createReward {userId : Id} {call : RewardCall}
    {phase : RedemptionPhase} {dto : RewardsService.CreateRewardDto}
    {post : RewardPoints → RedemptionPhase → Prop} (user : dto.userId = userId)
    (allowed : ∀ reward : RewardPoints, reward.userId = userId → reward.points = dto.points →
        reward.transactionType = dto.transactionType.getD .earned →
          reward.referenceType = dto.referenceType →
            Allows userId call phase (.insertReward reward))
    (continues : ∀ reward, post reward .booked) :
    (RewardsService.createReward dto).Follows (rewardProtocol userId call) post
      phase := by
  unfold RewardsService.createReward RewardsService.getUserBalance
  rw [user]
  apply follows_bind
  apply follows_await .reads
  intro currentBalance
  apply follows_guard
  intro _
  apply follows_bind
  apply follows_await (allowed _ rfl rfl rfl rfl)
  exact fun _ => continues _

theorem follows_program (userId : Id) (call : RewardCall) :
    (call.program userId).Follows (rewardProtocol userId call)
      (fun _ => (rewardProtocol userId call).ends) (rewardProtocol userId call).start := by
  have discards : ∀ {α : Type} {program : Service α}, program.Follows (rewardProtocol userId call)
          (fun _ phase => phase = .booked) .fresh →
        (do let _ ← program; pure () : Service Unit).Follows (rewardProtocol userId call)
          (fun _ => (rewardProtocol userId call).ends) .fresh :=
    fun follows => follows_bind follows
  cases call with
  | redeemPoints dto =>
    apply discards
    apply follows_bind
    apply follows_await .reads
    intro currentBalance
    apply follows_guard
    intro _
    apply follows_bind
    apply follows_await .looks
    intro now
    apply follows_bind
    apply follows_await (.issues rfl)
    intro savedCoupon
    apply follows_bind
    apply follows_createReward
    · rfl
    · intro reward user points redeemed reference
      exact .pays ⟨user, points, redeemed, reference⟩
    · intro reward
      apply follows_bind
      exact follows_await .reads fun _ => rfl
  | applyPointsToCheckout pointsToUse positive orderTotal =>
    apply discards
    apply follows_bind
    apply follows_await .reads
    intro currentBalance
    apply follows_guard
    intro _
    apply follows_bind
    apply follows_createReward
    · rfl
    · intro reward user points redeemed reference
      exact .discounts ⟨user, points, redeemed, reference⟩
    · intro reward
      apply follows_bind
      exact follows_await .reads fun _ => rfl
  | grantPointsForOrder orderId totalAmount =>
    apply discards
    unfold RewardsService.grantPointsForOrder
    apply follows_guard
    intro positive
    apply follows_createReward
    · rfl
    · intro reward user points earned reference
      refine .earns user ?_ earned reference
      rw [points]
      exact not_le.mp positive
    · exact fun _ => rfl

/-! ### Accounts -/

section

variable {userId : Id}

theorem pointsOf_withReward (counts : RewardPoints → Bool) (world : World) (reward : RewardPoints) :
    pointsOf userId counts (world.withReward reward) = pointsOf userId counts world +
        if reward.userId = userId && counts reward then reward.points
        else 0 := by grind [pointsOf, World.withReward]

theorem couponValue_withCoupon (world : World) (coupon : Coupon) :
    couponValue (world.withCoupon { coupon with id := world.db.coupons.next }) =
      couponValue world + coupon.discountValue :=
  Table.total_insert Coupon.discountValue (Table.row_next world.db.coupons)

/-- The points for which a call has saved a coupon without having deducted
them. -/
def pendingPoints (call : RewardCall) (phase : RedemptionPhase) : ℚ :=
  match call, phase with
  | .redeemPoints dto, .issued => dto.points
  | _, _ => 0

/-- The discount for which a call has deducted points. -/
def creditedDiscount (call : RewardCall) (phase : RedemptionPhase) : ℚ :=
  if phase = .booked then max call.discount 0 else 0

theorem creditedDiscount_of_free {call : RewardCall}
    (free : call.discount = 0) (phase : RedemptionPhase) :
    creditedDiscount call phase = 0 := by simp [creditedDiscount, free]

theorem pendingPoints_nonneg (call : RewardCall) (phase : RedemptionPhase) :
    0 ≤ pendingPoints call phase := by
  cases call with
  | redeemPoints dto =>
    cases phase with
    | issued =>
      have positive := dto.points_pos
      show (0 : ℚ) ≤ dto.points
      exact_mod_cast (by omega : 0 ≤ dto.points)
    | fresh | booked => exact le_rfl
  | applyPointsToCheckout | grantPointsForOrder => exact le_rfl

theorem creditedDiscount_nonneg (call : RewardCall) (phase : RedemptionPhase) :
    0 ≤ creditedDiscount call phase := by grind [creditedDiscount]

/-- What has neither been earned nor been deducted for a coupon, as a sum of
rows. -/
def unearned (userId : Id) (world : World) : ℤ :=
  balance userId world - couponPoints userId world - earned userId world

/-- The accounts after one more row, of which so much is for a coupon and so
much is earned. -/
theorem accounts_withReward (start world : World) {reward : RewardPoints}
    {forCoupon isEarned : ℤ} (user : reward.userId = userId)
    (coupon : (if reward.referenceType = some "coupon" then reward.points
      else 0) = forCoupon)
    (earning : (if reward.transactionType = .earned then reward.points
      else 0) = isEarned) :
    available userId start (world.withReward reward) =
        available userId start world + (reward.points - forCoupon : ℤ) ∧
      outstanding userId start (world.withReward reward) =
        outstanding userId start world + forCoupon ∧ unearned userId (world.withReward reward) =
        unearned userId world + (reward.points - forCoupon - isEarned) := by
  have balanced : balance userId (world.withReward reward) =
      balance userId world + reward.points := by simp [balance, pointsOf_withReward, user]
  have couponed : couponPoints userId (world.withReward reward) =
      couponPoints userId world + forCoupon := by
    rw [← coupon]
    simp [couponPoints, pointsOf_withReward, user]
  have earns : earned userId (world.withReward reward) = earned userId world + isEarned := by
    rw [← earning]
    simp [earned, pointsOf_withReward, user]
  have value : couponValue (world.withReward reward) = couponValue world := rfl
  refine ⟨?_, ?_, ?_⟩
  · rw [available, available, outstanding, outstanding, balanced, couponed, value]
    push_cast
    ring
  · rw [outstanding, outstanding, couponed, value]
    push_cast
    ring
  · rw [unearned, unearned, balanced, couponed, earns]
    ring

/-- What an allowed and covered effect does to the accounts. -/
structure BooksMove (userId : Id) (start : World) (call : RewardCall)
    (phase : RedemptionPhase) (op : Op) (world after : World) : Prop where
  available : 0 ≤ available userId start after
  outstanding :
    outstanding userId start after + pendingPoints call phase = outstanding userId start world +
        pendingPoints call ((rewardProtocol userId call).after phase op)
  accounts :
    unearned userId after + 100 *
        creditedDiscount call ((rewardProtocol userId call).after phase op) =
      unearned userId world + 100 * creditedDiscount call phase

theorem account_act {start world : World} {call : RewardCall} {phase : RedemptionPhase} {op : Op}
    (allowed : Allows userId call phase op) (isCovered : covered userId start call world op = true)
    (backed : 0 ≤ available userId start world) :
    BooksMove userId start call phase op world (commerce.act op world).2 := by
  cases allowed with
  | reads | looks => exact ⟨backed, rfl, rfl⟩
  | @issues dto coupon value =>
    have enough : 100 * coupon.discountValue ≤ available userId start world :=
      of_decide_eq_true isCovered
    have worth : 100 * coupon.discountValue = dto.points := by
      rw [value, pointsToDollarConversion]
      ring
    have issued : outstanding userId start
        (world.withCoupon { coupon with id := world.db.coupons.next }) =
          outstanding userId start world + dto.points := by
      unfold outstanding
      rw [couponValue_withCoupon, ← worth]
      show _ + ((couponPoints userId world - _ : ℤ) : ℚ) = _
      ring
    constructor
    · show 0 ≤ (balance userId world : ℚ) - outstanding userId start
        (world.withCoupon { coupon with id := world.db.coupons.next })
      grind [available]
    · show outstanding userId start
        (world.withCoupon { coupon with id := world.db.coupons.next }) + 0 =
          outstanding userId start world + dto.points
      rw [issued, add_zero]
    · rfl
  | @pays dto reward row =>
    obtain ⟨left, paid, kept⟩ := accounts_withReward start world row.user
      (if_pos row.reference) (if_neg (by rw [row.redeemed]; decide))
    have free := creditedDiscount_of_free (rfl : (RewardCall.redeemPoints dto).discount = 0)
    refine ⟨?_, ?_, ?_⟩
    · show 0 ≤ available userId start (world.withReward reward)
      rw [left, sub_self, Int.cast_zero, add_zero]
      exact backed
    · show outstanding userId start (world.withReward reward) + dto.points =
        outstanding userId start world + 0
      rw [paid, row.points]
      push_cast
      ring
    · show (unearned userId (world.withReward reward) : ℚ) + _ = _
      rw [kept, free, free, sub_self, sub_zero, add_zero]
  | @discounts pointsToUse positive orderTotal reward row =>
    obtain ⟨left, paid, kept⟩ := accounts_withReward start world row.user
      (if_neg (by rw [row.reference]; decide)) (if_neg (by rw [row.redeemed]; decide))
    obtain ⟨nonneg, whole, enough⟩ := of_decide_eq_true isCovered
    have used : ((-reward.points : ℤ) : ℚ) = (RewardCall.applyPointsToCheckout pointsToUse positive
          orderTotal).discount * 100 := by
      rw [row.points, neg_neg]
      exact whole
    refine ⟨?_, ?_, ?_⟩
    · show 0 ≤ available userId start (world.withReward reward)
      push_cast at enough
      rw [left, sub_zero]
      linarith
    · show outstanding userId start (world.withReward reward) + 0 =
        outstanding userId start world + 0
      rw [paid, Int.cast_zero, add_zero]
    · show (unearned userId (world.withReward reward) : ℚ) +
        100 * max (RewardCall.discount _) 0 = unearned userId world + 100 * 0
      push_cast at used
      rw [kept, max_eq_left nonneg]
      push_cast
      linarith
  | @earns orderId totalAmount reward user positive type reference =>
    obtain ⟨left, paid, kept⟩ := accounts_withReward start world user
      (if_neg (by rw [reference]; decide)) (if_pos type)
    have free := creditedDiscount_of_free
      (rfl : (RewardCall.grantPointsForOrder orderId totalAmount).discount = 0)
    refine ⟨?_, ?_, ?_⟩
    · show 0 ≤ available userId start (world.withReward reward)
      have gained : (0 : ℚ) < reward.points := by exact_mod_cast positive
      rw [left, sub_zero]
      linarith
    · show outstanding userId start (world.withReward reward) + 0 =
        outstanding userId start world + 0
      rw [paid, Int.cast_zero, add_zero]
    · show (unearned userId (world.withReward reward) : ℚ) + _ = _
      rw [kept, free, free, sub_zero, sub_self, add_zero]

end

/-! ### Covered races -/

section

variable {userId : Id} {start : World} {pool after : RewardPool} {turn : RewardTurn}

/-- What holds of the pool as long as every effect is covered. -/
structure Solvent (userId : Id) (start : World) (pool : RewardPool) : Prop where
  follows : pool.Follows (rewardProtocol userId)
  available : 0 ≤ available userId start pool.state
  pending : pool.tally (Thread.holding (rewardProtocol userId) pendingPoints) ≤
    outstanding userId start pool.state
  accounts : unearned userId pool.state + 100 *
      pool.tally (Thread.holding (rewardProtocol userId) creditedDiscount) ≤ unearned userId start

theorem solvent_start (backed : 0 ≤ balance userId start) :
    Solvent userId start ⟨start, []⟩ := by
  have nothing : outstanding userId start start = 0 := by simp [outstanding]
  refine ⟨nofun, ?_, ?_, ?_⟩
  · rw [available, nothing, sub_zero]
    exact_mod_cast backed
  · rw [nothing]
    exact le_rfl
  · simp [Pool.tally]

/-- An effect that acts in a covered turn is covered: those that need not be
can throw. -/
theorem Covered.covered (isCovered : Covered userId start pool turn)
    {thread : Thread signature World HttpException RewardCall} {op : Op}
    (moves : pool.mover? turn = some (thread, op)) (acts : commerce.acts op turn.fault? = true) :
    covered userId start thread.name pool.state op = true := by
  rcases Handler.acts_cases acts with unfailing | total
  · exact isCovered unfailing _ moves
  · cases op <;> first | rfl | cases total

theorem holding_spawned {weight : RewardCall → RedemptionPhase → ℚ}
    (free : ∀ call, weight call .fresh = 0) (call : RewardCall) :
    Thread.holding (σ := World) (rewardProtocol userId) weight
      ⟨call, [], call.program userId⟩ = 0 := by
  unfold Thread.holding
  split
  next => rfl
  next => exact free call

theorem solvent_race (pool : RewardPool) (turn : RewardTurn) (solvent : Solvent userId start pool)
    (isCovered : Covered userId start pool turn) :
    Solvent userId start (rewardRace userId pool turn) := by
  have moved := Pool.step_moved commerce (RewardCall.program userId) (fun other world : World =>
      { other with
        db := { other.db with
          rewards := world.db.rewards
          coupons := world.db.coupons } }) pool turn
  have follows := solvent.follows.moved moved (follows_program userId)
  unfold rewardRace
  generalize Pool.step _ _ _ pool turn = after at moved follows ⊢
  cases moved with
  | stays => exact solvent
  | changes => exact ⟨follows, solvent.available, solvent.pending, solvent.accounts⟩
  | @spawns call =>
    refine ⟨follows, solvent.available, ?_, ?_⟩
    · rw [Pool.tally_spawn, holding_spawned, add_zero]
      · exact solvent.pending
      · rintro (dto | _ | _) <;> rfl
    · rw [Pool.tally_spawn, holding_spawned, add_zero]
      · exact solvent.accounts
      · exact fun _ => rfl
  | @acts _ front back thread op next threads rest moves acts =>
    have here := solvent.follows thread (by simp [threads])
    rw [Thread.Follows, rest] at here
    have accounted := account_act here.1 (isCovered.covered moves acts) solvent.available
    refine ⟨follows, accounted.available, ?_, ?_⟩
    · have held := Pool.holdings_acts (rewardProtocol userId)
        pendingPoints_nonneg threads rest pool.state (commerce.act op pool.state).2
        (next (.ok (commerce.act op pool.state).1))
      have before := solvent.pending
      have balanced := accounted.outstanding
      linarith
    · have held := Pool.holdings_acts (rewardProtocol userId)
        creditedDiscount_nonneg threads rest pool.state (commerce.act op pool.state).2
        (next (.ok (commerce.act op pool.state).1))
      have before := solvent.accounts
      have balanced := accounted.accounts
      linarith
  | @fails _ front back thread op error next threads rest =>
    have here := solvent.follows thread (by simp [threads])
    rw [Thread.Follows, rest] at here
    rw [here.2.1 error] at follows ⊢
    refine ⟨follows, solvent.available, ?_, ?_⟩
    · exact (Pool.holdings_fails (rewardProtocol userId)
        pendingPoints_nonneg threads op pool.state pool.state error).trans solvent.pending
    · have held := Pool.holdings_fails (rewardProtocol userId)
        creditedDiscount_nonneg threads op pool.state pool.state error
      have before := solvent.accounts
      linarith

theorem discounts_credited (follows : pool.Follows (rewardProtocol userId)) :
    (pool.tally fun thread =>
      if thread.rest.returned then thread.name.discount else 0) ≤
      pool.tally (Thread.holding (rewardProtocol userId) creditedDiscount) := by
  apply List.sum_le_sum
  intro thread member
  have here := follows thread member
  rw [Thread.Follows] at here
  unfold Thread.holding
  cases rest : thread.rest with
  | pure value =>
    rw [rest] at here
    have booked : (rewardProtocol userId thread.name).phase thread.past =
        .booked := here
    rw [booked]
    exact le_max_left _ _
  | throw error => exact le_rfl
  | call op next => exact creditedDiscount_nonneg _ _

theorem Solvent.backed (solvent : Solvent userId start pool) :
    Backed userId start pool := by
  have spare : outstanding userId start pool.state ≤
      balance userId pool.state := sub_nonneg.mp solvent.available
  have pending : 0 ≤ outstanding userId start pool.state :=
    (Pool.holdings_nonneg (rewardProtocol userId) pendingPoints_nonneg pool).trans solvent.pending
  constructor
  · exact_mod_cast pending.trans spare
  · have settled := solvent.accounts
    have returned := discounts_credited solvent.follows
    rw [valueGranted, le_div_iff₀ (by norm_num)]
    unfold outstanding at spare
    unfold unearned at settled
    push_cast at spare settled ⊢
    linarith

end

/-- User 7 has earned so many points. -/
def withPoints (points : ℤ) : World :=
  openShop.withReward { userId := 7, points, balanceAfter := points }

/-- So many effects of one call, none failing. -/
def rewardTurns (index count : ℕ) : List RewardTurn := List.replicate count (.perform index none)

def redeemHundred : RewardCall := .redeemPoints { points := 100, points_pos := by decide }

end MarketX.Commerce
