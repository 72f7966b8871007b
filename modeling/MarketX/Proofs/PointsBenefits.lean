/-
Module: MarketX.Proofs.PointsBenefits
Purpose: When a checkout grants the value of the points that it takes, and
  when points are deducted exactly with the payment or the coupon that they pay
  for, wherever a call of the two services throws.
Trusted boundary: none beyond the model; the definitions under review are
  Equivalent, RedemptionMatched, PaymentMatched and the conditions
Main exports: checkoutDiscount, checkoutPoints, Equivalent, checkout_equivalent_iff
-/
import Mathlib.Tactic.IntervalCases
import MarketX.Effects.Schedules
import MarketX.Proofs.RewardRace

namespace MarketX.Commerce

open Effects Handler RewardsService

/-! ### What a checkout does -/

/-- The discount of a checkout, in dollars. -/
def checkoutDiscount (pointsToUse : ℚ) (orderTotal : Amount) : Amount :=
  min (pointsToUse / pointsToDollarConversion) orderTotal

/-- The points that it takes. -/
def checkoutPoints (pointsToUse : ℚ) (orderTotal : Amount) : ℤ :=
  ⌊checkoutDiscount pointsToUse orderTotal * pointsToDollarConversion⌋

theorem checkoutDiscount_points (pointsToUse : ℚ) (orderTotal : Amount) :
    checkoutDiscount pointsToUse orderTotal * pointsToDollarConversion =
      min pointsToUse (100 * orderTotal) := by
  rw [checkoutDiscount, pointsToDollarConversion,
    min_mul_of_nonneg _ _ (by norm_num), div_mul_cancel₀ _ (by norm_num), mul_comm orderTotal]

/-- The discount is the value of the points where no fraction of a point is
left. -/
theorem checkoutDiscount_eq_iff (pointsToUse : ℚ) (orderTotal : Amount) :
    checkoutDiscount pointsToUse orderTotal = checkoutPoints pointsToUse orderTotal / 100 ↔
      ∃ n : ℤ, min pointsToUse (100 * orderTotal) = n := by
  have scaled := checkoutDiscount_points pointsToUse orderTotal
  unfold checkoutPoints
  rw [scaled, eq_div_iff (by norm_num)]
  rw [show checkoutDiscount pointsToUse orderTotal * 100 = _ from scaled]
  grind [Int.floor_intCast]

theorem act_sumPoints (userId : Id) (world : World) :
    act (.sumPoints userId) world = (balance userId world, world) := by simp [act, pointsOf]

variable {userId : Id} {reward : RewardPoints} {dto : CreateRewardDto} {world before after : World}
  {pointsToUse : ℚ} {orderTotal finalAmount : Amount} {α : Type} {script : List Fault}
  {order : Order}

theorem balance_withReward (user : reward.userId = userId) (world : World) :
    balance userId (world.withReward reward) = balance userId world + reward.points := by
  rw [balance, pointsOf_withReward, user]
  simp

theorem wp_createReward {post : Except HttpException RewardPoints → World → Prop}
    (booked : ∀ reward, reward.userId = dto.userId → reward.points = dto.points →
        post (.ok reward) (world.withReward reward))
    (refused : ∀ error, post (.error error) world) :
    commerce.wp (createReward dto) post world := by
  unfold createReward getUserBalance
  rw [wp_bind]
  refine ⟨?_, fun _ => refused⟩
  apply wp_guard
  · exact fun _ => refused _
  intro _
  exact ⟨booked _ rfl rfl, fun _ => refused⟩

theorem wp_applyPointsToCheckout (userId : Id) (pointsToUse : ℚ)
    (orderTotal : Amount) (world : World) :
    commerce.wp (applyPointsToCheckout userId pointsToUse orderTotal)
      (fun outcome after => ∀ result, outcome = .ok result →
        result.discountAmount = checkoutDiscount pointsToUse orderTotal ∧
          result.pointsUsed = checkoutPoints pointsToUse orderTotal ∧
          balance userId after = balance userId world - result.pointsUsed)
      world := by
  unfold applyPointsToCheckout
  rw [wp_bind]
  refine ⟨?_, fun _ _ => nofun⟩
  apply wp_guard
  · exact fun _ => nofun
  intro _
  rw [wp_bind]
  apply wp_createReward
  · intro reward user points
    refine ⟨?_, fun _ _ => nofun⟩
    rintro result ⟨⟩
    refine ⟨rfl, rfl, ?_⟩
    show balance userId (world.withReward reward) = _
    rw [balance_withReward user, points]
    rfl
  · exact fun _ => nofun

/-! ### What it grants -/

/-- The checkout took the points that it says it used, which is a whole number
of them, and granted what they are worth; not more than the total, and not for
more points than were offered. -/
structure Equivalent (userId : Id) (pointsToUse : ℚ) (orderTotal : Amount)
    (before after : World) (result : PointsResult) : Prop where
  taken : balance userId after = balance userId before - result.pointsUsed
  worth : result.discountAmount = result.pointsUsed / 100
  within_total : result.discountAmount ≤ orderTotal
  within_points : (result.pointsUsed : ℚ) ≤ pointsToUse
  none_free : result.pointsUsed = 0 → result.discountAmount = 0

/-- However a checkout succeeds, it grants the value of the points that it
takes exactly where the smaller one of the points offered and the total in
cents is a whole number. -/
theorem checkout_equivalent_iff {userId : Id} {pointsToUse : ℚ}
    {orderTotal : Amount} {before after : World} {faults : List Fault} {result : PointsResult}
    (done : commerce.exec (applyPointsToCheckout userId pointsToUse orderTotal) faults before =
        (.ok result, after)) :
    Equivalent userId pointsToUse orderTotal before after result ↔
      ∃ n : ℤ, min pointsToUse (100 * orderTotal) = n := by
  have spec := wp_sound (H := commerce)
    (wp_applyPointsToCheckout userId pointsToUse orderTotal before) faults
  rw [done] at spec
  obtain ⟨discount, used, taken⟩ := spec result rfl
  rw [← checkoutDiscount_eq_iff]
  constructor
  · intro equivalent
    rw [← discount, equivalent.worth, used]
  · intro worth
    have same : result.discountAmount = result.pointsUsed / 100 := by rw [discount, used, worth]
    refine ⟨taken, same, ?_, ?_, ?_⟩
    · rw [discount]
      exact min_le_right _ _
    · have floor := Int.floor_le
        (checkoutDiscount pointsToUse orderTotal * pointsToDollarConversion)
      rw [used]
      refine floor.trans ?_
      rw [checkoutDiscount_points]
      exact min_le_left _ _
    · intro none
      rw [same, none]
      norm_num

/-- The discount and the points of a checkout in which nothing fails. -/
def checkoutGrant (balance : ℤ) (pointsToUse : ℚ) (orderTotal : Amount) :
    Except HttpException (Amount × ℤ) :=
  (commerce.exec (applyPointsToCheckout 7 pointsToUse orderTotal) [] (withPoints balance)).1.map
      fun result => (result.discountAmount, result.pointsUsed)

theorem exists_of_checkoutGrant {balance : ℤ} {discount : Amount} {points : ℤ}
    (same : checkoutGrant balance pointsToUse orderTotal = .ok (discount, points)) :
    ∃ result after, commerce.exec (applyPointsToCheckout 7 pointsToUse orderTotal) []
          (withPoints balance) = (.ok result, after) ∧
        result.discountAmount = discount ∧ result.pointsUsed = points := by
  unfold checkoutGrant at same
  cases outcome : commerce.exec (applyPointsToCheckout 7 pointsToUse orderTotal) []
      (withPoints balance) with
  | mk answer after =>
    rw [outcome] at same
    cases answer with
    | error error => cases same
    | ok result =>
      cases same
      exact ⟨result, after, rfl, rfl, rfl⟩

/-- Of 250 points, 200 pay for two dollars. -/
theorem two_dollars_equivalent :
    ∃ result after, commerce.exec (applyPointsToCheckout 7 250 2) [] (withPoints 300) =
        (.ok result, after) ∧ result.pointsUsed = 200 ∧
      Equivalent 7 250 2 (withPoints 300) after result := by
  obtain ⟨result, after, done, _, used⟩ := exists_of_checkoutGrant
    (by decide +kernel : checkoutGrant 300 250 2 = .ok (2, 200))
  exact ⟨result, after, done, used, (checkout_equivalent_iff done).mpr ⟨200, by norm_num⟩⟩

/-- Half a cent is granted for no points, and out of 1000 points, 5.005
dollars are granted for 500. -/
theorem half_cents_free :
    (∃ result after, commerce.exec (applyPointsToCheckout 7 1 (1 / 200)) [] (withPoints 10) =
          (.ok result, after) ∧ result.discountAmount = 1 / 200 ∧ result.pointsUsed = 0 ∧
        ¬ Equivalent 7 1 (1 / 200) (withPoints 10) after result) ∧ ∃ result after,
      commerce.exec (applyPointsToCheckout 7 1000 (1001 / 200)) []
          (withPoints 1000) = (.ok result, after) ∧
        result.discountAmount = 1001 / 200 ∧ result.pointsUsed = 500 ∧
        ¬ Equivalent 7 1000 (1001 / 200) (withPoints 1000) after result := by
  obtain ⟨free, first, answered, half, none⟩ := exists_of_checkoutGrant
    (by decide +kernel : checkoutGrant 10 1 (1 / 200) = .ok (1 / 200, 0))
  obtain ⟨rounded, second, done, five, hundreds⟩ := exists_of_checkoutGrant (by decide +kernel :
      checkoutGrant 1000 1000 (1001 / 200) = .ok (1001 / 200, 500))
  refine ⟨⟨free, first, answered, half, none, fun equivalent => ?_⟩,
    rounded, second, done, five, hundreds, fun equivalent => ?_⟩
  · have nothing := equivalent.none_free none
    rw [half] at nothing
    norm_num at nothing
  · have worth := equivalent.worth
    rw [five, hundreds] at worth
    norm_num at worth

open Effects Handler RewardsService PaymentsService

/-! ### The property -/

/-- The row that has been stored since under the key that was the next. -/
def savedRow {α : Type} [Keyed α] (before after : Table α) : Option α := after.row before.next

theorem savedRow_self [Keyed α] (table : Table α) :
    savedRow table table = none := table.row_next

theorem savedRow_save [Keyed α] {table : Table α} {row : α}
    (generated : Keyed.key row = table.next) :
    savedRow table (table.save row) = some row := by rw [savedRow, ← generated, Table.row_save_self]

/-- The points that have been taken from the user. -/
def deducted (userId : Id) (before after : World) : ℤ :=
  balance userId before - balance userId after

@[simp] theorem deducted_self (userId : Id) (world : World) :
    deducted userId world world = 0 := sub_self _

theorem deducted_withReward (user : reward.userId = userId) (world : World) :
    deducted userId world (world.withReward reward) = -reward.points := by
  rw [deducted, balance_withReward user]
  omega

/-- Points are deducted if and only if a coupon has been saved that is worth
the points of the redemption, and then as many; and where the redemption
throws, the balance and the coupons are as before. -/
structure RedemptionMatched {α : Type} (userId : Id) (dto : RedeemPointsDto)
    (before : World) (outcome : Except HttpException α) (after : World) :
    Prop where
  matched : deducted userId before after ≠ 0 ↔
    ∃ coupon, savedRow before.db.coupons after.db.coupons = some coupon ∧
      coupon.discountValue = dto.points / 100
  exact : deducted userId before after ≠ 0 → deducted userId before after = dto.points
  unharmed : ∀ error, outcome = .error error →
    deducted userId before after = 0 ∧ after.db.coupons = before.db.coupons

/-- Points are deducted only if a payment has been saved, and the amount of a
saved payment is the total less the value of what has been deducted, so that
it is below the total only if points have been; and where the call throws, the
balance and the coupons are as before. -/
structure PaymentMatched {α : Type} (order : Order) (before : World)
    (outcome : Except HttpException α) (after : World) : Prop where
  paid : deducted order.buyerId before after ≠ 0 →
    ∃ payment, savedRow before.db.payments after.db.payments = some payment
  amount : ∀ payment, savedRow before.db.payments after.db.payments = some payment →
      payment.amount = order.totalAmount - deducted order.buyerId before after / 100
  unharmed : ∀ error, outcome = .error error → deducted order.buyerId before after = 0 ∧
      after.db.coupons = before.db.coupons

/-! ### One call -/

def throwsAt (script : List Fault) (place : ℕ) : Bool :=
  (script.getD place none).isSome

theorem throwsAt_tail (script : List Fault) (place : ℕ) :
    throwsAt script.tail place = throwsAt script (place + 1) := by
  cases script <;> rfl

section

variable {α : Type} {op : Op} {rest : Reply op → Service α} {script : List Fault}

theorem play_next (fails : mayFail op = true) (acts : throwsAt script 0 = false) (world : World) :
    commerce.play (await op >>= rest) script world =
      commerce.play (rest (act op world).1) script.tail (act op world).2 := by
  rw [throwsAt, ← List.headD_eq_getD, Option.isSome_eq_false_iff, Option.isNone_iff_eq_none] at acts
  exact play_bind_ok (play_acts fails acts world)

theorem entry_of_throwsAt (throws : throwsAt script 0 = true) :
    ∃ error, script.headD none = some error := by
  rw [throwsAt, ← List.headD_eq_getD] at throws
  exact Option.isSome_iff_exists.mp throws

theorem play_stops (fails : mayFail op = true) {error : HttpException}
    (entry : script.headD none = some error) (world : World) :
    commerce.play (await op >>= rest) script world = (.error error, script.tail, world) :=
  play_bind_error (play_throws fails entry world)

theorem play_free (safe : mayFail op = false) (script : List Fault) (world : World) :
    commerce.play (await op >>= rest) script world =
      commerce.play (rest (act op world).1) script (act op world).2 :=
  play_bind_ok (play_safe safe script world)

end

/-- The balance allows the reward, and neither of its two calls throws. -/
structure Books (dto : CreateRewardDto) (script : List Fault) (world : World) :
    Prop where
  read : throwsAt script 0 = false
  allowed : ¬ (dto.transactionType = some .redeemed ∧ balance dto.userId world < dto.points)
  written : throwsAt script 1 = false

theorem play_createReward {rest : RewardPoints → Service α}
    (post : Except HttpException α × List Fault × World → Prop)
    (stopped : ¬ Books dto script world → ∀ error left, post (.error error, left, world))
    (booked : Books dto script world → ∀ reward : RewardPoints, reward.userId = dto.userId →
        reward.points = dto.points → post (commerce.play (rest reward) script.tail.tail
            (world.withReward reward))) :
    post (commerce.play (createReward dto >>= rest) script world) := by
  unfold createReward getUserBalance
  rw [Program.bind_assoc]
  cases first : throwsAt script 0 with
  | true =>
    obtain ⟨error, entry⟩ := entry_of_throwsAt first
    rw [play_stops rfl entry]
    refine stopped (fun books => ?_) error _
    exact absurd (first.symm.trans books.read) Bool.noConfusion
  | false =>
    rw [play_next rfl first, act_sumPoints]
    by_cases refused : dto.transactionType = some .redeemed ∧ balance dto.userId world < dto.points
    · rw [if_pos refused]
      exact stopped (fun books => books.allowed refused) _ _
    rw [if_neg refused, Program.bind_assoc]
    cases second : throwsAt script.tail 0 with
    | true =>
      obtain ⟨error, entry⟩ := entry_of_throwsAt second
      rw [play_stops rfl entry]
      rw [throwsAt_tail] at second
      refine stopped (fun books => ?_) error _
      exact absurd (second.symm.trans books.written) Bool.noConfusion
    | false =>
      rw [play_next rfl second]
      rw [throwsAt_tail] at second
      exact booked ⟨first, refused, second⟩ _ rfl rfl

/-! ### Redemptions -/

/-- Either nothing is written, because the balance cannot be read or is too
low or the coupon cannot be saved; or nothing throws. -/
def RedemptionKept (userId : Id) (dto : RedeemPointsDto) (before : World)
    (script : List Fault) : Prop := throwsAt script 0 = true ∨ balance userId before < dto.points ∨
    throwsAt script 1 = true ∨ throwsAt script 2 = false ∧ throwsAt script 3 = false ∧
      throwsAt script 4 = false

theorem RedemptionMatched.nothing {dto : RedeemPointsDto} (world : World)
    (outcome : Except HttpException α) :
    RedemptionMatched userId dto world outcome world where
  matched := by simp [savedRow_self]
  exact := by simp
  unharmed _ _ := ⟨deducted_self userId world, rfl⟩

theorem redemption_matched_saved {dto : RedeemPointsDto} {coupon : Coupon}
    (coupons : after.db.coupons = before.db.coupons.save coupon)
    (generated : coupon.id = before.db.coupons.next)
    (value : coupon.discountValue = dto.points / 100) (outcome : Except HttpException α) :
    RedemptionMatched userId dto before outcome after ↔ deducted userId before after = dto.points ∧
        ∀ error, outcome ≠ .error error := by
  have positive := dto.points_pos
  have saved : savedRow before.db.coupons after.db.coupons = some coupon := by
    rw [coupons]
    exact savedRow_save generated
  constructor
  · intro matched
    have nonzero := matched.matched.mpr ⟨coupon, saved, value⟩
    refine ⟨matched.exact nonzero, fun error thrown => ?_⟩
    exact nonzero (matched.unharmed error thrown).1
  · rintro ⟨all, returns⟩
    refine ⟨iff_of_true ?_ ⟨coupon, saved, value⟩, fun _ => all,
      fun error thrown => absurd thrown (returns error)⟩
    omega

/-- However the calls of a redemption end, points and coupon go together, and
an exception leaves both as they were, if and only if no call throws after the
coupon has been saved. -/
theorem redemption_matched_iff (userId : Id) (dto : RedeemPointsDto)
    (before : World) (script : List Fault) :
    RedemptionMatched userId dto before (commerce.play (redeemPoints userId dto) script before).1
        (commerce.play (redeemPoints userId dto) script before).2.2 ↔
      RedemptionKept userId dto before script := by
  have positive := dto.points_pos
  unfold redeemPoints getUserBalance RedemptionKept
  cases read : throwsAt script 0 with
  | true =>
    obtain ⟨error, entry⟩ := entry_of_throwsAt read
    rw [play_stops rfl entry]
    exact iff_of_true (.nothing before _) (.inl rfl)
  | false =>
    rw [play_next rfl read, act_sumPoints]
    by_cases low : balance userId before < dto.points
    · rw [if_pos low]
      exact iff_of_true (.nothing before _) (.inr (.inl low))
    rw [if_neg low, play_free rfl, ← throwsAt_tail]
    cases coupon : throwsAt script.tail 0 with
    | true =>
      obtain ⟨error, entry⟩ := entry_of_throwsAt coupon
      rw [play_stops rfl entry]
      exact iff_of_true (.nothing before _) (.inr (.inr (.inl rfl)))
    | false =>
      rw [play_next rfl coupon]
      let stored := { rewardCoupon userId dto.points before.now with
        id := before.db.coupons.next }
      have saved : ∀ {α : Type} (outcome : Except HttpException α) after,
          after.db.coupons = before.db.coupons.save stored →
            (RedemptionMatched userId dto before outcome after ↔ _) :=
        fun outcome after coupons => redemption_matched_saved coupons rfl rfl outcome
      have enough : ¬ balance userId (before.withCoupon stored) < -dto.points := by
        have same : balance userId (before.withCoupon stored) =
          balance userId before := rfl
        omega
      apply play_createReward fun done => RedemptionMatched userId dto before done.1 done.2.2 ↔ _
      · intro stopped error left
        refine (saved (.error error) (before.withCoupon stored) rfl).trans ?_
        refine iff_of_false (fun all => all.2 error rfl) ?_
        rintro (first | less | first | ⟨second, third, _⟩)
        · cases first
        · exact low less
        · cases first
        · exact stopped ⟨by simpa only [throwsAt_tail] using second,
            fun refused => enough refused.2, by simpa only [throwsAt_tail] using third⟩
      · rintro ⟨second, _, third⟩ reward user points
        have taken : deducted userId before
            ((before.withCoupon stored).withReward reward) = dto.points := by
          have less := deducted_withReward user (before.withCoupon stored)
          rw [points, neg_neg] at less
          exact less
        cases last : throwsAt script.tail.tail.tail.tail 0 with
        | true =>
          obtain ⟨error, entry⟩ := entry_of_throwsAt last
          rw [play_stops rfl entry]
          refine (saved (.error error) ((before.withCoupon stored).withReward reward) rfl).trans ?_
          simp only [throwsAt_tail] at last
          simp_all
        | false =>
          rw [play_next rfl last]
          refine (saved (.ok _) ((before.withCoupon stored).withReward reward) rfl).trans ?_
          simp_all [throwsAt_tail]

/-! ### Payments -/

/-- The calls of a checkout, up to the row, do not throw, and the balance
allows it. -/
structure Takes (userId : Id) (pointsToUse : ℚ) (orderTotal : Amount)
    (script : List Fault) (world : World) : Prop where
  read : throwsAt script 0 = false
  enough : pointsToUse ≤ balance userId world
  again : throwsAt script 1 = false
  backed : -checkoutPoints pointsToUse orderTotal ≤ balance userId world
  written : throwsAt script 2 = false

/-- A checkout takes its points, and then still throws if it cannot read the
balance; or it takes nothing. -/
theorem play_applyPointsToCheckout
    (post : Except HttpException PointsResult × List Fault × World → Prop)
    (refused : ¬ Takes userId pointsToUse orderTotal script world →
      ∀ error left, post (.error error, left, world))
    (taken : Takes userId pointsToUse orderTotal script world →
      ∀ reward : RewardPoints, reward.userId = userId →
        reward.points = -checkoutPoints pointsToUse orderTotal →
          (throwsAt script 3 = true → ∀ error,
            post (.error error, script.drop 4, world.withReward reward)) ∧
          (throwsAt script 3 = false → ∀ result : PointsResult,
            result.discountAmount = checkoutDiscount pointsToUse orderTotal →
              post (.ok result, script.drop 4, world.withReward reward))) :
    post (commerce.play (applyPointsToCheckout userId pointsToUse orderTotal)
      script world) := by
  have dropped : script.drop 4 = script.tail.tail.tail.tail := by simp [← List.drop_one]
  unfold applyPointsToCheckout getUserBalance
  cases first : throwsAt script 0 with
  | true =>
    obtain ⟨error, entry⟩ := entry_of_throwsAt first
    rw [play_stops rfl entry]
    refine refused (fun takes => ?_) error _
    exact absurd (first.symm.trans takes.read) Bool.noConfusion
  | false =>
    rw [play_next rfl first, act_sumPoints]
    by_cases low : (balance userId world : ℚ) < pointsToUse
    · rw [if_pos low]
      exact refused (fun takes => absurd takes.enough (not_le.mpr low)) _ _
    rw [if_neg low]
    apply play_createReward post
    · intro stopped
      refine refused fun takes => stopped ?_
      exact ⟨by rw [throwsAt_tail]; exact takes.again,
        fun less => absurd takes.backed (not_le.mpr less.2),
        by rw [throwsAt_tail]; exact takes.written⟩
    · rintro ⟨second, allowed, third⟩ reward user points
      simp only [throwsAt_tail] at second third
      obtain ⟨throws, returns⟩ := taken ⟨first, not_lt.mp low, second,
          not_lt.mp fun less => allowed ⟨rfl, less⟩, third⟩ reward user points
      rw [dropped] at throws returns
      cases last : throwsAt script.tail.tail.tail 0 with
      | true =>
        obtain ⟨error, entry⟩ := entry_of_throwsAt last
        rw [play_stops rfl entry]
        simp_all [throwsAt_tail]
      | false =>
        rw [play_next rfl last]
        simp only [throwsAt_tail] at last
        exact returns last _ rfl

/-- What `initiatePayment` does once it knows the amount. -/
def savePayment (dto : InitiatePaymentDto) (order : Order)
    (finalAmount : Amount) : Service PaymentResponseDto := do
  match ← walletsRepository.findOne order.buyerId with
  | none => throw (.notFound "Wallet not found for buyer")
  | some wallet =>
    let timeoutMinutes := (dto.timeoutMinutes.filter (· ≠ 0)).getD 30
    let now ← dateNow
    let savedPayment ← paymentsRepository.insert
      { id := 0
        orderId := dto.orderId
        amount := finalAmount
        currency := dto.currency
        status := .pending
        destinationWalletAddress := wallet.publicKey
        timeoutMinutes
        expiresAt := some (now + timeoutMinutes * (60 * 1000))
        buyerId := order.buyerId }
    emit (.paymentInitiated savedPayment.id dto.orderId
      wallet.publicKey savedPayment.amount dto.currency)
    pure (mapToResponseDto savedPayment)

/-- The buyer has a wallet, and neither it nor the payment throws. -/
structure Saves (order : Order) (script : List Fault) (world : World) :
    Prop where
  read : throwsAt script 0 = false
  wallet : (world.db.wallets.rows.find? fun wallet => wallet.userId = order.buyerId).isSome
  written : throwsAt script 1 = false

theorem play_savePayment {dto : InitiatePaymentDto} (post :
      Except HttpException PaymentResponseDto × List Fault × World → Prop)
    (stopped : ¬ Saves order script world → ∀ error left, post (.error error, left, world))
    (saved : Saves order script world → ∀ response left after payment,
      payment.id = world.db.payments.next → payment.amount = finalAmount →
        after.db.payments = world.db.payments.save payment → after.db.rewards = world.db.rewards →
            after.db.coupons = world.db.coupons → post (.ok response, left, after)) :
    post (commerce.play (savePayment dto order finalAmount) script world) := by
  unfold savePayment
  cases first : throwsAt script 0 with
  | true =>
    obtain ⟨error, entry⟩ := entry_of_throwsAt first
    rw [play_stops rfl entry]
    refine stopped (fun saves => ?_) error _
    exact absurd (first.symm.trans saves.read) Bool.noConfusion
  | false =>
    rw [play_next rfl first]
    simp only [act]
    cases found : world.db.wallets.rows.find? fun wallet => wallet.userId = order.buyerId with
    | none =>
      refine stopped (fun saves => ?_) _ _
      have missing := saves.wallet
      rw [found] at missing
      cases missing
    | some wallet =>
      rw [play_free rfl]
      cases second : throwsAt script.tail 0 with
      | true =>
        obtain ⟨error, entry⟩ := entry_of_throwsAt second
        rw [play_stops rfl entry]
        rw [throwsAt_tail] at second
        refine stopped (fun saves => ?_) error _
        exact absurd (second.symm.trans saves.written) Bool.noConfusion
      | false =>
        rw [play_next rfl second, play_free rfl]
        rw [throwsAt_tail] at second
        exact saved ⟨first, by rw [found]; rfl, second⟩ _ _ _ _ rfl rfl rfl rfl rfl

theorem PaymentMatched.nothing (unspent : deducted order.buyerId before after = 0)
    (payments : after.db.payments = before.db.payments)
    (coupons : after.db.coupons = before.db.coupons) (outcome : Except HttpException α) :
    PaymentMatched order before outcome after where
  paid spent := absurd unspent spent
  amount payment saved := by
    rw [payments, savedRow_self] at saved
    cases saved
  unharmed _ _ := ⟨unspent, coupons⟩

/-- After so many points have been taken, the payment is saved with its
amount or not. -/
theorem payment_matched_saved {dto : InitiatePaymentDto} (before world : World)
    (payments : world.db.payments = before.db.payments)
    (coupons : world.db.coupons = before.db.coupons) :
    let done := commerce.play (savePayment dto order finalAmount) script world
    PaymentMatched order before done.1 done.2.2 ↔
      (Saves order script world → finalAmount = order.totalAmount -
        deducted order.buyerId before world / 100) ∧ (¬ Saves order script world →
        deducted order.buyerId before world = 0) := by
  apply play_savePayment fun done => PaymentMatched order before done.1 done.2.2 ↔ _
  · intro stopped error left
    constructor
    · intro matched
      exact ⟨fun saves => absurd saves stopped, fun _ => (matched.unharmed error rfl).1⟩
    · rintro ⟨_, unspent⟩
      exact .nothing (unspent stopped) payments coupons _
  · intro saves response left after payment generated amount stored rewards same
    have saved : savedRow before.db.payments after.db.payments =
        some payment := by
      rw [stored, payments]
      exact savedRow_save (by rw [← payments]; exact generated)
    have spent : deducted order.buyerId before after =
        deducted order.buyerId before world := by
      unfold deducted balance pointsOf
      rw [rewards]
    constructor
    · intro matched
      refine ⟨fun _ => ?_, fun stopped => absurd saves stopped⟩
      rw [← amount, ← spent]
      exact matched.amount payment saved
    · rintro ⟨exact, _⟩
      refine ⟨fun _ => ⟨payment, saved⟩, fun other stored => ?_, nofun⟩
      simp_all

/-- The points that are offered for the order are taken: it waits for its first
payment, the balance allows them, and no call throws up to the row that
deducts them. -/
structure PointsTaken (dto : InitiatePaymentDto) (order : Order) (points : ℚ)
    (before : World) (script : List Fault) : Prop where
  pending : order.status = .pending
  currency : order.currency = dto.currency
  first : before.db.payments.rows.find? (fun payment =>
    payment.orderId = dto.orderId ∧ payment.status = .pending) = none
  offered : dto.pointsToUse = some points
  positive : 0 < points
  enough : points ≤ balance order.buyerId before
  backed : -⌊min points (100 * order.totalAmount)⌋ ≤ balance order.buyerId before
  calls : ∀ place < 5, throwsAt script place = false

/-- After that the balance can be read, the buyer has a wallet, and it and the
payment do not throw. -/
structure Completes (order : Order) (before : World) (script : List Fault) :
    Prop where
  balance : throwsAt script 5 = false
  read : throwsAt script 6 = false
  wallet : (before.db.wallets.rows.find? fun wallet => wallet.userId = order.buyerId).isSome
  written : throwsAt script 7 = false

/-- If points are taken, they are a whole number of points or cents and a
payment is saved for them, or they are none. -/
def PaymentKept (dto : InitiatePaymentDto) (order : Order) (before : World)
    (script : List Fault) : Prop := ∀ points, PointsTaken dto order points before script →
    (Completes order before script → ∃ n : ℤ, min points (100 * order.totalAmount) = n) ∧
    (¬ Completes order before script → ⌊min points (100 * order.totalAmount)⌋ = 0)

theorem checkoutPoints_eq (pointsToUse : ℚ) (orderTotal : Amount) :
    checkoutPoints pointsToUse orderTotal = ⌊min pointsToUse (100 * orderTotal)⌋ := by
  rw [checkoutPoints, checkoutDiscount_points]

theorem throwsAt_drop (script : List Fault) (count place : ℕ) :
    throwsAt (script.drop count) place = throwsAt script (count + place) := by
  simp [throwsAt, List.getD_eq_getElem?_getD]

section

variable {dto : InitiatePaymentDto} {order : Order} {before : World} {script : List Fault}

theorem payment_matched_total (left : List Fault) :
    let done := commerce.play (savePayment dto order order.totalAmount) left before
    PaymentMatched order before done.1 done.2.2 := by simp [payment_matched_saved]

def amountAfter (total : Amount) : Except HttpException PointsResult → Amount
  | .ok result => total - result.discountAmount
  | .error _ => total

theorem play_payableAmount {points : ℚ} (positive : 0 < points)
    (offered : dto.pointsToUse = some points) :
    commerce.play (payableAmount order dto.pointsToUse >>= savePayment dto order) script before =
      let ended := commerce.play
        (applyPointsToCheckout order.buyerId points order.totalAmount) script before
      commerce.play (savePayment dto order (amountAfter order.totalAmount ended.1))
        ended.2.1 ended.2.2 := by
  unfold payableAmount
  rw [offered]
  simp only [gt_iff_lt, if_pos positive]
  rw [Program.bind_assoc, play_attempt_bind rfl]
  cases (commerce.play (applyPointsToCheckout order.buyerId points
    order.totalAmount) script before).1 <;> rfl

theorem payment_matched_checkout {points : ℚ} (positive : 0 < points)
    (offered : dto.pointsToUse = some points) :
    let done := commerce.play (payableAmount order dto.pointsToUse >>= savePayment dto order) script
      before
    PaymentMatched order before done.1 done.2.2 ↔
      (Takes order.buyerId points order.totalAmount script before →
        (throwsAt script 3 = false ∧ Saves order (script.drop 4) before →
          checkoutDiscount points order.totalAmount =
            checkoutPoints points order.totalAmount / 100) ∧
        (¬ (throwsAt script 3 = false ∧ Saves order (script.drop 4) before) →
          checkoutPoints points order.totalAmount = 0)) := by
  intro done
  have same : done = _ := play_payableAmount positive offered
  rw [same]
  apply play_applyPointsToCheckout fun ended =>
    PaymentMatched order before (commerce.play (savePayment dto order
        (amountAfter order.totalAmount ended.1)) ended.2.1 ended.2.2).1
      (commerce.play (savePayment dto order
        (amountAfter order.totalAmount ended.1)) ended.2.1 ended.2.2).2.2 ↔ _
  · intro untaken error left
    exact iff_of_true (payment_matched_total left) fun takes => absurd takes untaken
  · intro takes reward user taken
    have spent : deducted order.buyerId before (before.withReward reward) =
        checkoutPoints points order.totalAmount := by rw [deducted_withReward user, taken, neg_neg]
    have wallets : ∀ left, Saves order left (before.withReward reward) ↔
        Saves order left before :=
      fun left => ⟨fun saves => ⟨saves.read, saves.wallet, saves.written⟩,
        fun saves => ⟨saves.read, saves.wallet, saves.written⟩⟩
    constructor
    · intro throws error
      refine (payment_matched_saved before (before.withReward reward) rfl rfl).trans ?_
      have free : order.totalAmount = order.totalAmount -
          (checkoutPoints points order.totalAmount : ℚ) / 100 ↔
            checkoutPoints points order.totalAmount = 0 := by
        rw [eq_comm, sub_eq_self, div_eq_zero_iff, Int.cast_eq_zero]
        norm_num
      simp_all [amountAfter]
    · intro returns result discount
      refine (payment_matched_saved before (before.withReward reward) rfl rfl).trans ?_
      simp_all [amountAfter]

theorem payment_matched_early (untaken : ∀ points, ¬ PointsTaken dto order points before script)
    (outcome : Except HttpException PaymentResponseDto) :
    PaymentMatched order before outcome before ↔
      PaymentKept dto order before script :=
  iff_of_true (.nothing (deducted_self _ _) rfl rfl outcome)
    fun points taken => absurd taken (untaken points)

theorem payment_matched_checked (pending : order.status = .pending)
    (currency : order.currency = dto.currency)
    (first : before.db.payments.rows.find? (fun payment =>
      payment.orderId = dto.orderId ∧ payment.status = .pending) = none)
    (found : throwsAt script 0 = false) (looked : throwsAt script 1 = false) :
    let done := commerce.play (payableAmount order dto.pointsToUse >>= savePayment dto order)
      script.tail.tail before
    PaymentMatched order before done.1 done.2.2 ↔
      PaymentKept dto order before script := by
  intro done
  by_cases some : ∃ points, dto.pointsToUse = some points ∧ 0 < points
  · obtain ⟨points, offered, positive⟩ := some
    have takes : Takes order.buyerId points order.totalAmount script.tail.tail
        before ↔ PointsTaken dto order points before script := by
      constructor
      · rintro ⟨read, enough, again, backed, written⟩
        simp only [throwsAt_tail] at read again written
        rw [checkoutPoints_eq] at backed
        refine ⟨pending, currency, first, offered, positive, enough, backed, ?_⟩
        intro place below
        interval_cases place <;> assumption
      · intro taken
        refine ⟨?_, taken.enough, ?_, ?_, ?_⟩
        · simpa only [throwsAt_tail] using taken.calls 2 (by decide)
        · simpa only [throwsAt_tail] using taken.calls 3 (by decide)
        · rw [checkoutPoints_eq]
          exact taken.backed
        · simpa only [throwsAt_tail] using taken.calls 4 (by decide)
    have completes : throwsAt script.tail.tail 3 = false ∧
        Saves order (script.tail.tail.drop 4) before ↔
          Completes order before script := by
      constructor
      · rintro ⟨balance, read, wallet, written⟩
        simp only [throwsAt_tail, throwsAt_drop] at balance read written
        exact ⟨balance, read, wallet, written⟩
      · rintro ⟨balance, read, wallet, written⟩
        refine ⟨by simpa only [throwsAt_tail] using balance, ?_, wallet, ?_⟩
        · simpa only [throwsAt_tail, throwsAt_drop] using read
        · simpa only [throwsAt_tail, throwsAt_drop] using written
    refine (payment_matched_checkout positive offered).trans ?_
    rw [takes, completes, checkoutDiscount_eq_iff, checkoutPoints_eq]
    constructor
    · intro kept other taken
      cases offered.symm.trans taken.offered
      exact kept taken
    · exact fun kept => kept points
  · have total : done = commerce.play
        (savePayment dto order order.totalAmount) script.tail.tail before := by
      simp only [done, payableAmount]
      cases offered : dto.pointsToUse with
      | none => rfl
      | some points =>
        have none : ¬ points > 0 :=
          fun positive => some ⟨points, offered, positive⟩
        simp only [if_neg none]
        rfl
    rw [total]
    exact iff_of_true (payment_matched_total _) fun points taken =>
      absurd ⟨points, taken.offered, taken.positive⟩ some

theorem payment_matched_iff (found : before.db.orders.row dto.orderId = some order) :
    let done := commerce.play (initiatePayment dto) script before
    PaymentMatched order before done.1 done.2.2 ↔
      PaymentKept dto order before script := by
  unfold initiatePayment
  cases first : throwsAt script 0 with
  | true =>
    obtain ⟨error, entry⟩ := entry_of_throwsAt first
    rw [play_stops rfl entry]
    refine payment_matched_early (fun points taken => ?_) _
    exact absurd (first.symm.trans (taken.calls 0 (by decide))) Bool.noConfusion
  | false =>
    rw [play_next rfl first]
    simp only [act, found]
    by_cases review : order.status = .manualReview
    · rw [if_pos review]
      refine payment_matched_early (fun points taken => ?_) _
      rw [taken.pending] at review
      cases review
    rw [if_neg review]
    by_cases pending : order.status = .pending
    · rw [if_neg (not_not.mpr pending)]
      by_cases currency : order.currency = dto.currency
      · rw [if_neg (not_not.mpr currency)]
        cases second : throwsAt script.tail 0 with
        | true =>
          obtain ⟨error, entry⟩ := entry_of_throwsAt second
          rw [play_stops rfl entry]
          rw [throwsAt_tail] at second
          refine payment_matched_early (fun points taken => ?_) _
          exact absurd (second.symm.trans (taken.calls 1 (by decide))) Bool.noConfusion
        | false =>
          rw [play_next rfl second]
          rw [throwsAt_tail] at second
          simp only [act]
          cases waits : before.db.payments.rows.find? (fun payment =>
              payment.orderId = dto.orderId ∧ payment.status = .pending) with
          | some payment =>
            refine payment_matched_early (fun points taken => ?_) _
            cases waits.symm.trans taken.first
          | none => exact payment_matched_checked pending currency waits first second
      · rw [if_pos currency]
        exact payment_matched_early (fun points taken => currency taken.currency) _
    · rw [if_pos pending]
      exact payment_matched_early (fun points taken => pending taken.pending) _

end

/-! ### Both calls -/

/-- User 8, who has no wallet, has 500 points and an order of 100 dollars. -/
def walletless : World :=
  (openShop.withReward { userId := 8, points := 500, balanceAfter := 500 })
    |>.withOrder { id := 0, buyerId := 8, totalAmount := 100, items := [] }

end MarketX.Commerce
