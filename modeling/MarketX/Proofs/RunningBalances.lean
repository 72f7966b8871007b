/-
Module: MarketX.Proofs.RunningBalances
Purpose: When every row of a user's points says the balance that they add up
  to, and no redemption raises the balance or takes it below zero, whatever
  the driver makes of a sum and wherever the calls throw.
Trusted boundary: none beyond the model; the definitions under review are
  RightRow, RunningBalances and Settles
Main exports: column_plus, column_wrong, running_balances
-/
import MarketX.Proofs.PointsBenefits

namespace MarketX.Commerce

open Effects Handler Numerals

/-- The rows of a user, in the order in which they were saved. -/
def userRows (userId : Id) (world : World) : List RewardPoints :=
  world.db.rewards.filter fun reward => reward.userId = userId

/-! ### Texts of sums -/

theorem toString_toList (n : ℤ) :
    (toString n).toList = (if n < 0 then ['-'] else []) ++ Nat.toDigits 10 n.natAbs := by
  cases n with
  | ofNat n => exact Nat.toList_repr
  | negSucc n =>
    rw [if_pos (Int.negSucc_lt_zero n)]
    exact String.toList_append.trans (congrArg _ Nat.toList_repr)

/-- Behind a sign, or without one, what begins with a digit is read as a
natural number. -/
theorem integer?_signed {text : String} {negative : Bool} {first : Char} {others : List Char}
    (shape : text.toList = (if negative then ['-'] else []) ++ first :: others)
    (digit : first.isDigit = true) :
    integer? text = (natural? 10 (first :: others)).map fun (value : ℕ) =>
      (if negative then -1 else 1) * (value : ℤ) := by
  unfold integer?
  rw [shape]
  cases negative with
  | true => simp
  | false =>
    simp only [Bool.false_eq_true, if_false, List.nil_append, one_mul]
    split <;> simp_all

theorem toDigits_cons (n : ℕ) :
    ∃ first others, Nat.toDigits 10 n = first :: others ∧ first.isDigit = true := by
  obtain ⟨first, others, shape⟩ :=
    List.exists_cons_of_ne_nil (Nat.toDigits_ne_nil (n := n) (b := 10))
  exact ⟨first, others, shape, allDigits_toDigits n first (shape ▸ List.mem_cons_self)⟩

theorem integer?_toString (n : ℤ) : integer? (toString n) = some n := by
  have shape := toString_toList n
  obtain ⟨first, others, digits, digit⟩ := toDigits_cons n.natAbs
  have read := natural?_digits (allDigits_toDigits n.natAbs) Nat.toDigits_ne_nil
  rw [valueOf_toDigits, digits] at read
  rw [digits] at shape
  by_cases negative : n < 0
  · rw [if_pos negative] at shape
    rw [@integer?_signed _ true _ _ shape digit, read]
    exact congrArg some (by simp only [if_true]; omega)
  · rw [if_neg negative] at shape
    rw [@integer?_signed _ false _ _ shape digit, read]
    exact congrArg some (by simp only [Bool.false_eq_true, if_false]; omega)

theorem integer?_zero {points : ℤ} (nonneg : 0 ≤ points) :
    integer? ("0" ++ toString points) = some points := by
  have all : AllDigits ('0' :: Nat.toDigits 10 points.natAbs) :=
    AllDigits.append (fun c member => List.mem_singleton.mp member ▸ rfl)
      (allDigits_toDigits points.natAbs)
  have shape : ("0" ++ toString points).toList = (if false then ['-'] else []) ++
        '0' :: Nat.toDigits 10 points.natAbs := by
    rw [String.toList_append, toString_toList, if_neg (not_lt.mpr nonneg)]
    rfl
  rw [integer?_signed shape rfl, natural?_digits all nofun, valueOf_zero_cons, valueOf_toDigits]
  exact congrArg some (by simp only [Bool.false_eq_true, if_false]; omega)

theorem integer?_minus (sum : ℤ) {points : ℤ} (negative : points < 0) :
    integer? (toString sum ++ toString points) = none := by
  obtain ⟨first, others, digits, digit⟩ := toDigits_cons sum.natAbs
  have shape : (toString sum ++ toString points).toList =
      (if decide (sum < 0) then ['-'] else []) ++
        first :: (others ++ '-' :: Nat.toDigits 10 points.natAbs) := by
    rw [String.toList_append, toString_toList, toString_toList, if_pos negative, digits]
    simp
  have none : natural? 10 (first :: (others ++ '-' :: Nat.toDigits 10 points.natAbs)) = none :=
    natural?_none (c := '-') (by simp) (by decide)
  rw [integer?_signed shape digit, none]
  rfl

/-! ### The balance -/

/-- The sum comes as a text; the sum of no rows does not. -/
def Written (form : SumForm) (total : Option ℤ) : Prop :=
  form = .text ∧ total ≠ none

instance (form : SumForm) (total : Option ℤ) :
    Decidable (Written form total) := inferInstanceAs (Decidable (_ ∧ _))

theorem orZero_less (form : SumForm) (total : Option ℤ) (points : ℚ) :
    (form.orZero total).less points = true ↔ (total.getD 0 : ℚ) < points := by
  cases total with
  | none => simp [SumForm.orZero, RawSum.less]
  | some sum => cases form <;> grind [SumForm.orZero, SumForm.hand, RawSum.less, integer?_toString]

section

variable {form : SumForm} {total : Option ℤ} {points : ℤ}

theorem column_minus (written : Written form total) (negative : points < 0) :
    ((form.orZero total).plus points).column = none := by
  obtain ⟨rfl, some⟩ := written
  obtain ⟨sum, rfl⟩ := Option.ne_none_iff_exists'.mp some
  exact integer?_minus sum negative

/-- What is stored as the new balance is the sum, unless points are written
behind the text of another sum than zero. -/
theorem column_plus {balanceAfter : ℤ} (zero : Written form total → total = some 0)
    (stored : ((form.orZero total).plus points).column = some balanceAfter) :
    balanceAfter = total.getD 0 + points := by
  by_cases written : Written form total
  · by_cases negative : points < 0
    · rw [column_minus written negative] at stored
      cases stored
    · have read : ((form.orZero total).plus points).column = some points := by
        rw [zero written, written.1]
        exact integer?_zero (not_lt.mp negative)
      simp_all
  · cases form with
    | number => cases total <;> exact (Option.some.inj stored).symm
    | text =>
      cases total with
      | none => exact (Option.some.inj stored).symm
      | some sum => exact absurd ⟨rfl, nofun⟩ written

theorem column_written (sum : ℤ) (nonneg : 0 ≤ points) :
    ∃ length, 0 < length ∧ ((SumForm.text.orZero (some sum)).plus points).column =
        some (sum * 10 ^ length + if sum < 0 then -points else points) := by
  obtain ⟨first, others, digits, digit⟩ := toDigits_cons sum.natAbs
  have shape : (toString sum ++ toString points).toList =
      (if decide (sum < 0) then ['-'] else []) ++
        first :: (others ++ Nat.toDigits 10 points.natAbs) := by
    rw [String.toList_append, toString_toList, toString_toList, if_neg (not_lt.mpr nonneg), digits]
    simp
  have all : AllDigits (first :: others ++ Nat.toDigits 10 points.natAbs) := by
    rw [← digits]
    exact (allDigits_toDigits _).append (allDigits_toDigits _)
  have read := natural?_digits all nofun
  rw [← digits, valueOf_append, valueOf_toDigits, valueOf_toDigits, digits] at read
  refine ⟨(Nat.toDigits 10 points.natAbs).length, List.length_pos_iff.mpr Nat.toDigits_ne_nil, ?_⟩
  show integer? (toString sum ++ toString points) = _
  rw [integer?_signed shape digit]
  grind

/-- Points that are written behind the text of another sum than zero are not
added. -/
theorem column_wrong {sum : ℤ} (nonneg : 0 ≤ points)
    (stored : ((SumForm.text.orZero (some sum)).plus points).column =
      some (sum + points)) : sum = 0 := by
  obtain ⟨length, positive, read⟩ := column_written sum nonneg
  have same := Option.some.inj (read.symm.trans stored)
  have tenfold : (10 : ℤ) ≤ 10 ^ length := le_self_pow₀ (by decide) positive.ne'
  split at same
  · nlinarith
  · nlinarith

theorem column_zero (stored : ((form.orZero total).plus points).column =
      some (total.getD 0 + points)) (written : Written form total) :
    total = some 0 := by
  have nonneg : 0 ≤ points := by grind [column_minus]
  obtain ⟨rfl, some⟩ := written
  obtain ⟨sum, rfl⟩ := Option.ne_none_iff_exists'.mp some
  rw [column_wrong nonneg stored]

theorem column_none (refused : ((form.orZero total).plus points).column = none) :
    Written form total ∧ points < 0 := by
  cases total with
  | none => cases refused
  | some sum =>
    cases form with
    | number => cases refused
    | text =>
      refine ⟨⟨rfl, nofun⟩, ?_⟩
      by_contra nonneg
      obtain ⟨length, _, read⟩ := column_written sum (not_lt.mp nonneg)
      cases refused.symm.trans read

end

/-! ### The property -/

def pointsSum (rows : List RewardPoints) : ℤ :=
  (rows.map RewardPoints.points).sum

/-- The row says the sum of the rows up to itself; and with a redemption that
sum is not negative, and no larger than before. -/
structure RightRow (before : List RewardPoints) (row : RewardPoints) :
    Prop where
  balanceAfter : row.balanceAfter = pointsSum (before ++ [row])
  redeemed : row.transactionType = .redeemed → 0 ≤ pointsSum (before ++ [row]) ∧
      pointsSum (before ++ [row]) ≤ pointsSum before

instance (before : List RewardPoints) (row : RewardPoints) :
    Decidable (RightRow before row) :=
  decidable_of_iff (_ ∧ (row.transactionType = .redeemed → _ ∧ _)) ⟨fun both => ⟨both.1, both.2⟩,
      fun right => ⟨right.balanceAfter, right.redeemed⟩⟩

def RunningBalances (userId : Id) (world : World) : Prop :=
  EachAfter RightRow (userRows userId world)

instance (userId : Id) (world : World) :
    Decidable (RunningBalances userId world) := inferInstanceAs (Decidable (EachAfter _ _))

/-! ### The condition -/

/-- The points of the user, if there are rows. -/
def totalPoints (userId : Id) (world : World) : Option ℤ :=
  (commerce.act (.totalPoints userId) world).1

section

variable (form : SumForm) (total : Option ℤ)

/-- A reward of so many points is refused, by the service or by the column,
or is added to a number, and is no redemption that gives points or takes more
than there are. -/
def Bookable (points : ℤ) (redeems : Prop) : Prop := redeems ∧ total.getD 0 < points ∨
    Written form total ∧ points < 0 ∨ (Written form total → total = some 0) ∧
        (redeems → points ≤ 0 ∧ 0 ≤ total.getD 0 + points)

/-- What is asked of a call when the points of the user are these. -/
def Settles : PointsCall → Prop
  | .createReward dto => Bookable form total dto.points (dto.transactionType = some .redeemed)
  | .grantPointsForOrder _ totalAmount =>
    totalAmount * 10 < 1 ∨ (Written form total → total = some 0)
  | .redeemPoints _ => True
  | .applyPointsToCheckout pointsToUse orderTotal =>
    let offered := min pointsToUse (100 * orderTotal)
    (total.getD 0 : ℚ) < pointsToUse ∨ (total.getD 0 : ℚ) < -offered ∨
      Written form total ∧ 1 ≤ offered ∨ (Written form total → total = some 0) ∧ 0 ≤ offered
  | .adjustPoints points _ _ => Bookable form total points False

instance (points : ℤ) (redeems : Prop) [Decidable redeems] :
    Decidable (Bookable form total points redeems) := inferInstanceAs (Decidable (_ ∨ _ ∨ _))

instance (call : PointsCall) : Decidable (Settles form total call) :=
  match call with
  | .createReward _ | .adjustPoints _ _ _ => inferInstanceAs (Decidable (Bookable _ _ _ _))
  | .redeemPoints _ => inferInstanceAs (Decidable True)
  | .grantPointsForOrder _ _ => inferInstanceAs (Decidable (_ ∨ _))
  | .applyPointsToCheckout _ _ => inferInstanceAs (Decidable (_ ∨ _ ∨ _ ∨ _))

end

/-- One call after the other; each comes with what its calls of the database
throw. -/
def pointsStep (form : SumForm) (userId : Id) (world : World)
    (turn : PointsCall × List Fault) : World :=
  (commerce.exec (turn.1.program form userId) turn.2 world).2

/-! ### One call -/

section

variable {userId : Id} {world : World}

theorem userRows_withReward {reward : RewardPoints} (user : reward.userId = userId) :
    userRows userId (world.withReward reward) = userRows userId world ++ [reward] := by
  simp [userRows, World.withReward, user]

theorem RunningBalances.withReward (right : RunningBalances userId world)
    {reward : RewardPoints} (user : reward.userId = userId)
    (row : RightRow (userRows userId world) reward) :
    RunningBalances userId (world.withReward reward) := by
  simp_all [RunningBalances, userRows_withReward, EachAfter.concat]

theorem RunningBalances.last {reward : RewardPoints}
    (right : RunningBalances userId (world.withReward reward)) (user : reward.userId = userId) :
    RightRow (userRows userId world) reward := right _ reward [] (userRows_withReward user)

theorem totalPoints_eq : totalPoints userId world =
    match userRows userId world with
    | [] => none
    | rows => some (rows.map RewardPoints.points).sum := rfl

theorem totalPoints_getD :
    (totalPoints userId world).getD 0 = pointsSum (userRows userId world) := by
  rw [totalPoints_eq]
  cases userRows userId world <;> rfl

theorem pointsSum_concat (rows : List RewardPoints) (row : RewardPoints) :
    pointsSum (rows ++ [row]) = pointsSum rows + row.points := by simp [pointsSum]

end

section

variable {form : SumForm} {userId : Id} {world : World}

theorem wp_getUserBalance {post : Except HttpException RawSum → World → Prop}
    (answered : post (.ok (form.orZero (totalPoints userId world))) world)
    (thrown : ∀ error, post (.error error) world) :
    commerce.wp (RawRewards.getUserBalance form userId) post world := by
  unfold RawRewards.getUserBalance
  exact ⟨answered, fun _ => thrown⟩

theorem wp_createReward_right {dto : RewardsService.CreateRewardDto}
    (user : dto.userId = userId) (right : RunningBalances userId world)
    (bookable : Bookable form (totalPoints userId world) dto.points
      (dto.transactionType = some .redeemed)) :
    commerce.wp (RawRewards.createReward form dto)
      (fun _ after => RunningBalances userId after) world := by
  subst user
  unfold RawRewards.createReward
  rw [wp_bind]
  refine wp_getUserBalance ?_ fun _ => right
  apply wp_guard
  · exact fun _ => right
  intro accepted
  rw [orZero_less, Int.cast_lt] at accepted
  cases stored : ((form.orZero (totalPoints dto.userId world)).plus dto.points).column with
  | none => exact right
  | some balanceAfter =>
    refine ⟨?_, fun _ _ => right⟩
    rcases bookable with refused | ⟨written, negative⟩ | ⟨zero, redeems⟩
    · exact absurd refused accepted
    · simp_all [column_minus]
    · have sum := column_plus zero stored
      rw [totalPoints_getD] at sum redeems
      refine right.withReward rfl ⟨?_, fun redeemed => ?_⟩
      · rw [pointsSum_concat]
        exact sum
      · have asked : dto.transactionType = some .redeemed := by
          cases given : dto.transactionType <;> simp_all
        simp_all [pointsSum_concat]

theorem wp_discards {α : Type} (handler : Handler signature World)
    {body : Service α} {leaves : World → Prop}
    (held : handler.wp body (fun _ after => leaves after) world) :
    handler.wp (do let _ ← body; pure ()) (fun _ after => leaves after)
      world := by
  rw [wp_bind]
  refine handler.wp_mono held ?_
  rintro (error | answer) after left
  · exact left
  · exact left

theorem wp_createReward_then {α : Type} {dto : RewardsService.CreateRewardDto}
    {rest : RewardPoints → Service α} (user : dto.userId = userId)
    (right : RunningBalances userId world)
    (bookable : Bookable form (totalPoints userId world) dto.points
      (dto.transactionType = some .redeemed))
    (reads : ∀ reward after, RunningBalances userId after →
      commerce.wp (rest reward) (fun _ after => RunningBalances userId after) after) :
    commerce.wp (RawRewards.createReward form dto >>= rest)
      (fun _ after => RunningBalances userId after) world := by
  rw [wp_bind]
  refine commerce.wp_mono (wp_createReward_right user right bookable) ?_
  rintro (error | reward) after held
  · exact held
  · exact reads reward after held

theorem floor_bookable {total : Option ℤ} {offered pointsToUse : ℚ}
    {redeems : Prop} (redemption : redeems) (enough : ¬ (total.getD 0 : ℚ) < pointsToUse)
    (within : offered ≤ pointsToUse) :
    Bookable form total (-⌊offered⌋) redeems ↔
      (total.getD 0 : ℚ) < -offered ∨ Written form total ∧ 1 ≤ offered ∨
        (Written form total → total = some 0) ∧ 0 ≤ offered := by
  have refused : redeems ∧ total.getD 0 < -⌊offered⌋ ↔ (total.getD 0 : ℚ) < -offered := by
    rw [← Int.ceil_neg, Int.lt_ceil]
    exact and_iff_right redemption
  have minus : -⌊offered⌋ < 0 ↔ 1 ≤ offered := by simp [Int.lt_iff_add_one_le, Int.le_floor]
  have covered : (⌊offered⌋ : ℚ) ≤ total.getD 0 :=
    (Int.floor_le offered).trans (within.trans (not_lt.mp enough))
  simp_all [Int.floor_nonneg, Bookable]

theorem wp_reads {α : Type} {rest : RawSum → Service α} (right : RunningBalances userId world)
    (answers : ∀ balance, commerce.wp (rest balance)
      (fun _ after => RunningBalances userId after) world) :
    commerce.wp (RawRewards.getUserBalance form userId >>= rest)
      (fun _ after => RunningBalances userId after) world := by
  rw [wp_bind]
  exact wp_getUserBalance (answers _) fun _ => right

theorem wp_redeemPoints_right (dto : RedeemPointsDto) (right : RunningBalances userId world) :
    commerce.wp (RawRewards.redeemPoints form userId dto)
      (fun _ after => RunningBalances userId after) world := by
  unfold RawRewards.redeemPoints
  rw [wp_bind]
  refine wp_getUserBalance ?_ fun _ => right
  apply wp_guard
  · exact fun _ => right
  intro enough
  rw [orZero_less, Int.cast_lt] at enough
  have positive := dto.points_pos
  refine ⟨?_, fun fails => absurd fails Bool.false_ne_true⟩
  show commerce.wp (couponsRepository.insert _ >>= _) _ _
  refine ⟨?_, fun _ _ => right⟩
  -- the coupon is no row of points
  have bookable : Bookable form (totalPoints userId world) (-dto.points)
      (some PointsTransactionType.redeemed = some .redeemed) := by
    by_cases written : Written form (totalPoints userId world)
    · exact .inr (.inl ⟨written, by omega⟩)
    · exact .inr (.inr ⟨fun text => absurd text written, fun _ => ⟨by omega, by omega⟩⟩)
  exact wp_createReward_then rfl right bookable fun reward after held => wp_reads held fun _ => held

theorem wp_program_right (call : PointsCall) (right : RunningBalances userId world)
    (settles : Settles form (totalPoints userId world) call) :
    commerce.wp (call.program form userId) (fun _ after => RunningBalances userId after) world := by
  cases call with
  | createReward dto => exact wp_discards _ (wp_createReward_right rfl right settles)
  | adjustPoints points description referenceId =>
    refine wp_discards _ (wp_createReward_right rfl right ?_)
    exact settles.imp (fun refused => nomatch refused.1)
      (Or.imp_right fun added => ⟨added.1, nofun⟩)
  | grantPointsForOrder orderId totalAmount =>
    apply wp_discards
    unfold RawRewards.grantPointsForOrder
    apply wp_guard
    · exact fun _ => right
    intro positive
    refine wp_createReward_right rfl right (.inr (.inr ⟨?_, nofun⟩))
    refine settles.resolve_left fun less => positive ?_
    have below : ⌊totalAmount * RewardsService.pointsPerDollar⌋ < 1 :=
      Int.floor_lt.mpr (by exact_mod_cast less)
    omega
  | redeemPoints dto => exact wp_discards _ (wp_redeemPoints_right dto right)
  | applyPointsToCheckout pointsToUse orderTotal =>
    apply wp_discards
    unfold RawRewards.applyPointsToCheckout
    rw [wp_bind]
    refine wp_getUserBalance ?_ fun _ => right
    apply wp_guard
    · exact fun _ => right
    intro enough
    rw [orZero_less] at enough
    have used : ⌊checkoutDiscount pointsToUse orderTotal *
        RewardsService.pointsToDollarConversion⌋ = ⌊min pointsToUse (100 * orderTotal)⌋ :=
      congrArg _ (checkoutDiscount_points pointsToUse orderTotal)
    refine wp_createReward_then rfl right ?_ fun reward after held => wp_reads held fun _ => held
    show Bookable form _ (-⌊checkoutDiscount pointsToUse orderTotal *
      RewardsService.pointsToDollarConversion⌋) _
    rw [used]
    exact (floor_bookable rfl enough (min_le_left _ _)).mpr (settles.resolve_left enough)

end

/-! ### Calls in which nothing throws -/

def quiet : Handler signature World := commerce.shield fun _ => true

section

variable {form : SumForm} {userId : Id} {world : World}

theorem wp_quiet {α : Type} (op : Op) {rest : Reply op → Service α}
    {post : Except HttpException α → World → Prop}
    (next : quiet.wp (rest (commerce.act op world).1) post (commerce.act op world).2) :
    quiet.wp (await op >>= rest) post world := by
  rw [wp_bind]
  exact (wp_shield_perform commerce _ op _ _).mpr
    ⟨next, fun _ spared => absurd spared Bool.noConfusion⟩

theorem wp_quiet_balance {α : Type} {rest : RawSum → Service α}
    {post : Except HttpException α → World → Prop}
    (next : quiet.wp (rest (form.orZero (totalPoints userId world))) post world) :
    quiet.wp (RawRewards.getUserBalance form userId >>= rest) post world := by
  unfold RawRewards.getUserBalance
  rw [Program.bind_assoc]
  exact wp_quiet (.totalPoints userId) next

theorem quiet_createReward {dto : RewardsService.CreateRewardDto} (user : dto.userId = userId) :
    quiet.wp (RawRewards.createReward form dto) (fun _ after => RunningBalances userId after →
        Bookable form (totalPoints userId world) dto.points
          (dto.transactionType = some .redeemed)) world := by
  subst user
  refine wp_quiet_balance ?_
  apply wp_guard
  · intro refused _
    rw [orZero_less, Int.cast_lt] at refused
    exact .inl refused
  intro accepted
  cases stored : ((form.orZero (totalPoints dto.userId world)).plus dto.points).column with
  | none => exact fun _ => .inr (.inl (column_none stored))
  | some balanceAfter =>
    refine wp_quiet (.insertReward _) fun right => ?_
    obtain ⟨balance, redeemed⟩ := right.last rfl
    rw [pointsSum_concat, ← totalPoints_getD] at balance redeemed
    have added : balanceAfter = (totalPoints dto.userId world).getD 0 + dto.points := balance
    refine .inr (.inr ⟨column_zero (added ▸ stored), fun redeems => ?_⟩)
    simp_all

theorem quiet_createReward_then {α : Type}
    {dto : RewardsService.CreateRewardDto} (user : dto.userId = userId) (answer : RawSum → α) :
    quiet.wp (do
        let _ ← RawRewards.createReward form dto
        let remainingBalance ← RawRewards.getUserBalance form userId
        pure (answer remainingBalance))
      (fun _ after => RunningBalances userId after →
        Bookable form (totalPoints userId world) dto.points
          (dto.transactionType = some .redeemed)) world := by
  rw [wp_bind]
  refine quiet.wp_mono (quiet_createReward user) ?_
  rintro (error | reward) after bookable
  · exact bookable
  · exact wp_quiet_balance bookable

theorem quiet_program (call : PointsCall) :
    quiet.wp (call.program form userId) (fun _ after => RunningBalances userId after →
        Settles form (totalPoints userId world) call) world := by
  cases call with
  | createReward dto => exact wp_discards _ (quiet_createReward rfl)
  | adjustPoints points description referenceId =>
    apply wp_discards
    refine quiet.wp_mono (quiet_createReward rfl) ?_
    intro outcome after bookable right
    exact (bookable right).imp (fun refused => nomatch refused.1)
      (Or.imp_right fun added => ⟨added.1, nofun⟩)
  | redeemPoints dto => exact wp_of_forall _ (fun _ _ _ => trivial) _
  | grantPointsForOrder orderId totalAmount =>
    apply wp_discards
    unfold RawRewards.grantPointsForOrder
    apply wp_guard
    · intro none _
      have below : ⌊totalAmount * RewardsService.pointsPerDollar⌋ < 1 := by omega
      exact .inl (by exact_mod_cast Int.floor_lt.mp below)
    intro positive
    refine quiet.wp_mono (quiet_createReward rfl) ?_
    intro outcome after bookable right
    rcases bookable right with refused | ⟨_, negative⟩ | ⟨zero, _⟩
    · cases refused.1
    · exact absurd negative.le positive
    · exact .inr zero
  | applyPointsToCheckout pointsToUse orderTotal =>
    apply wp_discards
    refine wp_quiet_balance ?_
    apply wp_guard
    · intro refused _
      rw [orZero_less] at refused
      exact .inl refused
    intro enough
    rw [orZero_less] at enough
    refine quiet.wp_mono (quiet_createReward_then rfl _) ?_
    intro outcome after bookable right
    have used : ⌊checkoutDiscount pointsToUse orderTotal *
        RewardsService.pointsToDollarConversion⌋ = ⌊min pointsToUse (100 * orderTotal)⌋ :=
      congrArg _ (checkoutDiscount_points pointsToUse orderTotal)
    have booked : Bookable form (totalPoints userId world)
        (-⌊checkoutDiscount pointsToUse orderTotal *
          RewardsService.pointsToDollarConversion⌋) _ := bookable right
    rw [used] at booked
    exact .inr ((floor_bookable rfl enough (min_le_left _ _)).mp booked)

end

/-! ### Runs -/

/-- One call after the other, and nothing throws. -/
def undisturbedStep (form : SumForm) (userId : Id) (world : World) (call : PointsCall) : World :=
  pointsStep form userId world (call, [])

/-- Let the rows that the user has say the right balances, as where there are
none.  Then they do in every run whose calls settle, however the driver hands
out sums and wherever the calls throw; and in a run in which nothing throws
besides they do throughout only if every call settles. -/
theorem running_balances (form : SumForm) (userId : Id) (start : World)
    (right : RunningBalances userId start) :
    (∀ turns, Along (pointsStep form userId)
        (fun world turn => Settles form (totalPoints userId world) turn.1) start turns →
      ∀ front back, turns = front ++ back →
        RunningBalances userId (run (pointsStep form userId) start front)) ∧ ∀ calls,
      (∀ front back, calls = front ++ back →
        RunningBalances userId (run (undisturbedStep form userId) start front)) ↔
      Along (undisturbedStep form userId)
        (fun world call => Settles form (totalPoints userId world) call)
        start calls := by
  have preserved : ∀ (world : World) (turn : PointsCall × List Fault),
      RunningBalances userId world → Settles form (totalPoints userId world) turn.1 →
          RunningBalances userId (pointsStep form userId world turn) :=
    fun world turn right settles => commerce.wp_sound (wp_program_right turn.1 right settles) turn.2
  constructor
  · rintro turns settle front back rfl
    exact run_invariant preserved right (Along.append_iff.mp settle).1
  · intro calls
    refine reached_iff_along (fun world call held => ?_) right
    exact ⟨commerce.wp_sound_spared (quiet_program call)
      (commerce.spares_nil _ _ _), preserved world (call, []) held⟩

def afterCalls (form : SumForm) (calls : List PointsCall) : World :=
  run (undisturbedStep form 7) openShop calls

def savedRows (world : World) : List (ℤ × ℤ) :=
  (userRows 7 world).map fun row => (row.points, row.balanceAfter)

/-- With sums that are numbers, 100 points are earned, 30 make a coupon, 50
pay for half a dollar, and the rest is taken back. -/
theorem spent_to_zero :
    let calls : List PointsCall := [.createReward { userId := 7, points := 100 },
        .redeemPoints ⟨30, by decide⟩, .applyPointsToCheckout 50 20,
        .adjustPoints (-20) "closed" none]
    savedRows (afterCalls .number calls) = [(100, 100), (-30, 70), (-50, 20), (-20, 0)] ∧
      RunningBalances 7 (afterCalls .number calls) := by
  intro calls
  obtain ⟨_, exactly⟩ := running_balances .number 7 openShop (by decide)
  exact ⟨by decide +kernel, (exactly calls).mpr (by decide +kernel) calls []
    (List.append_nil _).symm⟩

/-- With sums that are texts, 100 points and 50 make 10050.  With sums that
are numbers, a checkout with -50 points gives 50, and a redemption of -1000
points leaves a debt. -/
theorem balances_broken :
    let earned := PointsCall.createReward { userId := 7, points := 100 }
    let joined := afterCalls .text [earned, .adjustPoints 50 "bonus" none]
    let given := afterCalls .number [earned, .applyPointsToCheckout (-50) 20]
    let owed := afterCalls .number [earned, .createReward
      { userId := 7, points := -1000, transactionType := some .redeemed }]
    (savedRows joined = [(100, 100), (50, 10050)] ∧ ¬ RunningBalances 7 joined) ∧
      (savedRows given = [(100, 100), (50, 150)] ∧ ¬ RunningBalances 7 given) ∧
      savedRows owed = [(100, 100), (-1000, -900)] ∧ ¬ RunningBalances 7 owed := by decide +kernel

end MarketX.Commerce
