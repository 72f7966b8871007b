/-
Module: MarketX.Proofs.CouponRace
Purpose: Checkouts that validate coupons and record their use, effect by
  effect in any order: when the limits of every coupon hold and its counter
  follows the recorded uses.
Trusted boundary: human-reviewed definition of couponRace, WithinLimits and
  Unraced
Main exports: couponRace, WithinLimits, Unraced, limits_hold_unraced
-/
import MarketX.Effects.Dialogues
import MarketX.Commerce.Runs

namespace MarketX.Commerce

open Effects Handler CouponsService

/-! ### The race -/

abbrev CouponPool := Pool signature World HttpException CouponCall

/-- Besides, everything but the coupons and their uses may change. -/
abbrev CouponTurn := Turn HttpException CouponCall World

section

variable (toUpperCase : String → String)

def besidesCoupons (other world : World) : World :=
  { other with
    db := { other.db with
      coupons := world.db.coupons
      couponUsages := world.db.couponUsages } }

def couponRace : CouponPool → CouponTurn → CouponPool :=
  Pool.step commerce (CouponCall.program toUpperCase) besidesCoupons

/-! ### The property -/

/-- How many of the recorded uses are counted. -/
def uses (counts : CouponUsage → Bool) (world : World) : ℕ := world.db.couponUsages.countP counts

abbrev usesOf (couponId : Id) : World → ℕ := uses fun usage => usage.couponId = couponId

abbrev usesBy (couponId userId : Id) : World → ℕ :=
  uses fun usage => usage.couponId = couponId ∧ usage.userId = userId

abbrev usesFor (couponId orderId : Id) : World → ℕ :=
  uses fun usage => usage.couponId = couponId ∧ usage.orderId = orderId

/-- The next effect is the increment of the coupon's counter. -/
def awaitsIncrement (couponId : Id) : Option Op → Bool
  | some (.incrementUsageCount id) => id = couponId
  | _ => false

def betweenWrites (couponId : Id) (pool : CouponPool) : ℕ := pool.tally fun thread =>
    if awaitsIncrement couponId thread.rest.next? then 1 else 0

/-- A coupon is used no more often than its limits say, for no order twice,
and its counter is short of the uses by those that are being recorded. -/
structure WithinLimits (world : World) (id : Id) (coupon : Coupon)
    (recording : ℕ) : Prop where
  total : 0 < coupon.totalUsageLimit → usesOf id world ≤ coupon.totalUsageLimit
  perUser : 0 < coupon.perUserLimit → ∀ userId, usesBy id userId world ≤ coupon.perUserLimit
  once : ∀ orderId, usesFor id orderId world ≤ 1
  counted : coupon.currentUsageCount + recording = usesOf id world

def AllWithinLimits (pool : CouponPool) : Prop :=
  ∀ id coupon, pool.state.db.coupons.row id = some coupon →
    WithinLimits pool.state id coupon (betweenWrites id pool)

/-! ### The condition -/

def couponWith (code : String) (world : World) : Option Coupon :=
  world.db.coupons.rows.find? fun coupon => coupon.code = code

def stillSo (couponId : Id) (world : World) : Op × World → Bool
  | (.findCoupon code, met) => (couponWith code met).all fun coupon =>
    coupon.totalUsageLimit = 0 ∨ usesOf couponId world ≤ coupon.currentUsageCount
  | (.countCouponUsages id userId, met) => usesBy id userId world ≤ usesBy id userId met
  | _ => true

/-- When a use is recorded, no other has been since the call looked at the
counter and at those of its user, and there is none for the order; and the
counter is incremented without a failure. -/
def unraced (past : Past signature World) (world : World) (fault : Option HttpException) : Op → Bool
  | .insertCouponUsage usage =>
    fault.isSome ∨ (usesFor usage.couponId usage.orderId world = 0 ∧
        past.all (stillSo usage.couponId world))
  | .incrementUsageCount _ => fault.isNone
  | _ => true

def Unraced (pool : CouponPool) (turn : CouponTurn) : Prop := ∀ moves ∈ pool.mover? turn,
    unraced moves.1.past pool.state turn.fault? moves.2 = true

instance (pool : CouponPool) (turn : CouponTurn) :
    Decidable (Unraced pool turn) := inferInstanceAs (Decidable (∀ moves ∈ pool.mover? turn, _))

end

/-! ### The dialogue of a checkout -/

/-- A checkout is validating, or it has recorded a use and not yet counted
it, or it is over. -/
inductive CouponPhase where
  | validating
  | recorded (couponId : Id)
  | ended
deriving DecidableEq

/-- What a call has seen of a coupon that it may use. -/
structure Validated (past : Past signature World) (coupon : Coupon)
    (userId : Id) : Prop where
  found : ∃ code met, (Op.findCoupon code, met) ∈ past ∧ couponWith code met = some coupon
  spare : 0 < coupon.totalUsageLimit → coupon.currentUsageCount < coupon.totalUsageLimit
  counted : 0 < coupon.perUserLimit → ∃ met, (Op.countCouponUsages coupon.id userId, met) ∈ past ∧
      usesBy coupon.id userId met < coupon.perUserLimit

inductive CouponAllows : Past signature World → CouponPhase → Op → Prop where
  | finds {past : Past signature World} {code : String} :
      CouponAllows past .validating (.findCoupon code)
  | looks {past : Past signature World} :
      CouponAllows past .validating .dateNow
  | counts {past : Past signature World} {couponId userId : Id} :
      CouponAllows past .validating (.countCouponUsages couponId userId)
  | records {past : Past signature World} {usage : CouponUsage}
      {coupon : Coupon} (about : usage.couponId = coupon.id)
      (validated : Validated past coupon usage.userId) :
      CouponAllows past .validating (.insertCouponUsage usage)
  | increments {past : Past signature World} {couponId : Id} :
      CouponAllows past (.recorded couponId) (.incrementUsageCount couponId)

def CouponPhase.after (phase : CouponPhase) : Op → CouponPhase
  | .insertCouponUsage usage => .recorded usage.couponId
  | .incrementUsageCount _ => .ended
  | _ => phase

/-- No call ends between its two writes, unless the second one fails. -/
def couponDialogue : CouponCall → Dialogue signature World CouponPhase :=
  fun _ =>
    { start := .validating
      allows := CouponAllows
      acted := fun phase op _ => phase.after op
      failed := fun _ _ _ => .ended
      ends := fun phase => ∀ couponId, phase ≠ .recorded couponId }

section

variable {call : CouponCall} {α : Type}

theorem speaks_await_bind {op : Op} {rest : Reply op → Service α}
    {post : Except HttpException α → Past signature World → CouponPhase →
      Prop} {past : Past signature World} {phase : CouponPhase}
    (allowed : CouponAllows past phase op)
    (failed : ∀ error later, post (.error error) later .ended)
    (acted : ∀ met, (rest (act op met).1).Speaks commerce
      (couponDialogue call) post ((op, met) :: past) (phase.after op)) :
    (await op >>= rest).Speaks commerce (couponDialogue call) post past
      phase := speaks_perform_bind allowed acted fun _ _ error => failed error _

theorem speaks_validateCoupon {coupon : Coupon} {userId : Id}
    {items : List OrderItemForCouponDto} {subtotal : Option Amount}
    {post : Except HttpException (Option String) → Past signature World →
      CouponPhase → Prop} {past : Past signature World}
    (found : ∃ code met, (Op.findCoupon code, met) ∈ past ∧ couponWith code met = some coupon)
    (valid : ∀ later, Validated later coupon userId → post (.ok none) later .validating)
    (invalid : ∀ message later, post (.ok (some message)) later .validating)
    (failed : ∀ error later, post (.error error) later .ended) :
    (validateCoupon coupon userId items subtotal).Speaks commerce
      (couponDialogue call) post past .validating := by
  have later : ∀ entry, ∃ code met, (Op.findCoupon code, met) ∈ entry :: past ∧
        couponWith code met = some coupon := by grind
  have checked : ∀ later, Validated later coupon userId →
      post (.ok (checkOrder coupon items subtotal)) later .validating := by grind [checkOrder]
  apply speaks_await_bind .looks failed
  intro met
  cases usable : checkUsable coupon (act .dateNow met).1 with
  | some message => exact invalid message _
  | none =>
    have spare : 0 < coupon.totalUsageLimit →
        coupon.currentUsageCount < coupon.totalUsageLimit := by grind [checkUsable]
    apply speaks_branch
    · intro perUser
      apply speaks_await_bind .counts failed
      intro counted
      apply speaks_branch
      · exact fun _ => invalid _ _
      · intro within
        apply checked
        refine ⟨?_, spare, fun _ => ⟨counted, List.mem_cons_self, ?_⟩⟩
        · simp_all
        · rw [usesBy, uses, List.countP_eq_length_filter]
          exact not_le.mp within
    · intro unlimited
      apply checked
      exact ⟨later _, spare, fun limited => absurd limited unlimited⟩

theorem speaks_program (toUpperCase : String → String) (call : CouponCall) :
    (call.program toUpperCase).Speaks commerce (couponDialogue call)
      (fun _ _ => (couponDialogue call).ends) [] (couponDialogue call).start := by
  have ended : (couponDialogue call).ends .ended := nofun
  have refused : (couponDialogue call).ends .validating := nofun
  apply speaks_bind
  apply speaks_await_bind .finds fun _ _ => ended
  intro met
  split
  next => exact refused
  next coupon found =>
    apply speaks_bind
    apply speaks_validateCoupon
    · exact ⟨_, met, List.mem_cons_self, found⟩
    · intro later validated
      apply speaks_await_bind (.records rfl validated) fun _ _ => ended
      intro inserted
      apply speaks_perform CouponAllows.increments
      · exact fun _ => ended
      · exact fun _ _ _ => ended
    · exact fun _ _ => refused
    · exact fun _ _ => ended

end

/-! ### The invariant -/

section

variable {start world after : World}

theorem uses_withCouponUsage (counts : CouponUsage → Bool) (world : World) (usage : CouponUsage) :
    uses counts (world.withCouponUsage usage) =
      uses counts world + if counts usage then 1 else 0 := by simp [uses, World.withCouponUsage]

def limitsOf (world : World) (id : Id) : Option (ℕ × ℕ) :=
  (world.db.coupons.row id).map fun coupon =>
    (coupon.totalUsageLimit, coupon.perUserLimit)

theorem limitsOf_countUsage (world : World) (couponId : Id) :
    limitsOf (world.withCoupons (countUsage world.db.coupons couponId)) =
      limitsOf world := by
  funext id
  unfold limitsOf countUsage
  cases found : world.db.coupons.row couponId with
  | none => rfl
  | some coupon =>
    show ((world.db.coupons.save _).row id).map _ = _
    rw [Table.row_save]
    split
    next same =>
      have key : coupon.id = couponId := world.db.coupons.keyed found
      rw [same]
      show _ = (world.db.coupons.row coupon.id).map _
      rw [key, found]
      rfl
    next => rfl

theorem limitsOf_found {code : String} {coupon : Coupon}
    (found : couponWith code world = some coupon) :
    limitsOf world coupon.id =
      some (coupon.totalUsageLimit, coupon.perUserLimit) := by
  have listed := List.mem_of_find?_eq_some found
  have stored : world.db.coupons.row coupon.id = some coupon := Table.mem_rows.mp listed
  rw [limitsOf, stored]
  rfl

abbrev CouponCast := Cast signature World HttpException CouponCall CouponPhase

/-- The calls of the cast that have recorded a use and not counted it. -/
def recording (id : Id) (cast : CouponCast) : ℕ :=
  (cast.map fun role => if role.2 = .recorded id then 1 else 0).sum

theorem recording_split (id : Id) (front back : CouponCast)
    (role : Thread signature World HttpException CouponCall × CouponPhase) :
    recording id (front ++ role :: back) = recording id (front ++ back) +
        if role.2 = .recorded id then 1 else 0 := by grind [recording]

theorem recording_spawned (id : Id) (cast : CouponCast)
    (thread : Thread signature World HttpException CouponCall) :
    recording id (cast ++ [(thread, .validating)]) = recording id cast := by simp [recording]

/-- What holds of the pool as long as nobody is outrun: no limit is changed,
nor was when a call looked. -/
structure Tallied (start world : World) (cast : CouponCast) : Prop where
  limits : limitsOf world = limitsOf start
  seen : ∀ role ∈ cast, ∀ entry ∈ role.1.past, limitsOf entry.2 = limitsOf start
  within : ∀ id coupon, world.db.coupons.row id = some coupon →
    WithinLimits world id coupon (recording id cast)

section

variable {front back : CouponCast} {thread : Thread signature World HttpException CouponCall}
  {phase : CouponPhase} {op : Op} {rest : Service Unit}

theorem Tallied.seen_answered (tallied : Tallied start world (front ++ (thread, phase) :: back))
    (later : CouponPhase) :
    ∀ role ∈ front ++ (thread.answered op world rest, later) :: back,
      ∀ entry ∈ role.1.past, limitsOf entry.2 = limitsOf start := by
  intro role member entry past
  rcases List.mem_append.mp member with before | member
  · exact tallied.seen role (by simp [before]) entry past
  rcases List.mem_cons.mp member with rfl | behind
  · rcases List.mem_cons.mp past with rfl | earlier
    · exact tallied.limits
    · exact tallied.seen (thread, phase) (by simp) entry earlier
  · exact tallied.seen role (by simp [behind]) entry past

theorem Tallied.looked (tallied : Tallied start world (front ++ (thread, phase) :: back))
    (idle : ∀ id, phase ≠ .recorded id) {later : CouponPhase} (quiet : ∀ id, later ≠ .recorded id) :
    Tallied start world (front ++ (thread.answered op world rest, later) :: back) := by
  refine ⟨tallied.limits, tallied.seen_answered later, ?_⟩
  intro id coupon stored
  have within := tallied.within id coupon stored
  rw [recording_split, if_neg (idle id)] at within
  rw [recording_split, if_neg (quiet id)]
  exact within

/-- What a call has read of the coupon is still so, and the order has none:
there is room for one more use. -/
theorem Tallied.recorded {usage : CouponUsage} {coupon : Coupon} (tallied : Tallied start world
      (front ++ (thread, .validating) :: back)) (about : usage.couponId = coupon.id)
    (validated : Validated thread.past coupon usage.userId)
    (unused : usesFor usage.couponId usage.orderId world = 0) (still : ∀ entry ∈ thread.past,
      stillSo usage.couponId world entry = true) :
    Tallied start (world.withCouponUsage usage)
      (front ++ (thread.answered (.insertCouponUsage usage) world rest,
        .recorded usage.couponId) :: back) := by
  refine ⟨tallied.limits, tallied.seen_answered _, ?_⟩
  intro id stored found
  change world.db.coupons.row id = some stored at found
  have within := tallied.within id stored found
  rw [recording_split] at within
  rw [recording_split]
  by_cases same : id = usage.couponId
  · subst same
    -- the limits are those that the call has checked
    obtain ⟨code, met, member, foundThen⟩ := validated.found
    have sameLimits : limitsOf world usage.couponId =
        some (coupon.totalUsageLimit, coupon.perUserLimit) := by
      rw [tallied.limits, about, ← limitsOf_found foundThen,
        tallied.seen (thread, .validating) (by simp) _ member]
    rw [limitsOf, found, Option.map_some, Option.some.injEq, Prod.mk.injEq] at sameLimits
    obtain ⟨sameTotal, samePerUser⟩ := sameLimits
    have grown : usesOf usage.couponId (world.withCouponUsage usage) =
        usesOf usage.couponId world + 1 :=
      (uses_withCouponUsage _ world usage).trans (congrArg _ (if_pos (decide_eq_true rfl)))
    constructor
    · intro limited
      have read := still _ member
      rw [sameTotal] at limited
      have spare := validated.spare limited
      simp only [stillSo, foundThen, Option.all_some, decide_eq_true_eq] at read
      omega
    · intro limited userId
      rw [samePerUser] at limited
      have before := within.perUser (by omega) userId
      rw [usesBy, uses_withCouponUsage]
      split
      next counted =>
        obtain ⟨counting, read, room⟩ := validated.counted limited
        have unchanged := of_decide_eq_true (still _ read)
        grind
      next => exact before
    · intro orderId
      rw [usesFor, uses_withCouponUsage]
      split
      next counted => grind
      next => exact within.once orderId
    · have counted := within.counted
      grind
  · have others : ∀ counts : CouponUsage → Bool, (counts usage = true → usage.couponId = id) →
          uses counts (world.withCouponUsage usage) = uses counts world := by
      intro counts only
      rw [uses_withCouponUsage, if_neg, Nat.add_zero]
      exact fun counted => same (only counted).symm
    have kept : usesOf id (world.withCouponUsage usage) = usesOf id world :=
      others _ of_decide_eq_true
    constructor
    · rw [kept]
      exact within.total
    · intro limited userId
      rw [usesBy, others _ fun counted => (of_decide_eq_true counted).1]
      exact within.perUser limited userId
    · intro orderId
      rw [usesFor, others _ fun counted => (of_decide_eq_true counted).1]
      exact within.once orderId
    · rw [kept, ← within.counted]
      simp [Ne.symm same]

theorem Tallied.counted {couponId : Id} (tallied : Tallied start world
      (front ++ (thread, .recorded couponId) :: back)) :
    Tallied start (world.withCoupons (countUsage world.db.coupons couponId))
      (front ++ (thread.answered (.incrementUsageCount couponId) world rest, .ended) :: back) := by
  refine ⟨(limitsOf_countUsage world couponId).trans tallied.limits, tallied.seen_answered _, ?_⟩
  intro id stored found
  rw [recording_split, if_neg nofun, Nat.add_zero]
  change (countUsage world.db.coupons couponId).row id = some stored at found
  cases row : world.db.coupons.row couponId with
  | none =>
    rw [countUsage, row] at found
    have within := tallied.within id stored found
    have other : couponId ≠ id := by
      rintro rfl
      rw [row] at found
      cases found
    rw [recording_split, if_neg (by simp [other]), Nat.add_zero] at within
    exact ⟨within.total, within.perUser, within.once, within.counted⟩
  | some coupon =>
    have key : coupon.id = couponId := world.db.coupons.keyed row
    rw [countUsage, row] at found
    change (world.db.coupons.save _).row id = _ at found
    rw [Table.row_save] at found
    split at found
    next same =>
      cases found
      have here : id = couponId := same.trans key
      subst here
      have within := tallied.within _ coupon row
      rw [recording_split, if_pos rfl] at within
      have balance := within.counted
      refine ⟨within.total, within.perUser, within.once, ?_⟩
      show coupon.currentUsageCount + 1 + _ = usesOf id world
      omega
    next different =>
      have other : couponId ≠ id := by
        rintro rfl
        exact different key.symm
      have within := tallied.within id stored found
      rw [recording_split, if_neg (by simp [other]), Nat.add_zero] at within
      exact ⟨within.total, within.perUser, within.once, within.counted⟩

end

theorem tallied_spoke {toUpperCase : String → String} {pool : CouponPool}
    {cast later : CouponCast} {turn : CouponTurn} {after : World}
    (tallied : Tallied start pool.state cast) (isUnraced : Unraced pool turn)
    (spoke : Pool.Spoke commerce (CouponCall.program toUpperCase)
      besidesCoupons couponDialogue pool cast turn after later) :
    Tallied start after later := by
  cases spoke with
  | stays => exact tallied
  | changes =>
    refine ⟨tallied.limits, tallied.seen, fun id coupon stored => ?_⟩
    have within := tallied.within id coupon stored
    exact ⟨within.total, within.perUser, within.once, within.counted⟩
  | @spawns call =>
    refine ⟨tallied.limits, ?_, ?_⟩
    · intro role member
      rcases List.mem_append.mp member with old | new
      · exact tallied.seen role old
      · simp_all
    · intro id coupon stored
      show WithinLimits _ id coupon (recording id (cast ++ [(_, CouponPhase.validating)]))
      rw [recording_spawned]
      exact tallied.within id coupon stored
  | @acts _ front back thread phase op rest split moves allowed acts =>
    subst split
    have careful := isUnraced _ moves
    cases allowed with
    | finds | looks | counts => exact tallied.looked nofun nofun
    | increments => exact tallied.counted
    | records about validated =>
      have unfailing : turn.fault? = none := by
        rcases Handler.acts_cases acts with none | total
        · exact none
        · cases total
      simp only [unraced, unfailing, Option.isSome_none,
        Bool.false_eq_true, false_or, decide_eq_true_eq, List.all_eq_true] at careful
      exact tallied.recorded about validated careful.1 careful.2
  | @fails _ front back thread phase op error rest split moves allowed exposed throws =>
    subst split
    have careful := isUnraced _ moves
    cases allowed with
    | increments =>
      rw [throws] at careful
      cases careful
    | finds | looks | counts | records => exact tallied.looked nofun nofun

end

/-! ### Whole runs -/

theorem betweenWrites_eq {pool : CouponPool} {cast : CouponCast}
    (spoken : pool.Spoken commerce couponDialogue cast) (id : Id) :
    betweenWrites id pool = recording id cast := by
  unfold betweenWrites Pool.tally recording
  rw [spoken.threads, List.map_map]
  congr 1
  apply List.map_congr_left
  rintro ⟨thread, phase⟩ member
  have speaks := spoken.speaks _ member
  simp only [Function.comp_apply]
  rw [Thread.Speaks] at speaks
  cases rest : thread.rest with
  | pure value =>
    rw [rest] at speaks
    rw [if_neg (speaks id), if_neg (by simp [Program.next?, awaitsIncrement])]
  | throw error =>
    rw [rest] at speaks
    rw [if_neg (speaks id), if_neg (by simp [Program.next?, awaitsIncrement])]
  | call op next =>
    rw [rest] at speaks
    obtain ⟨allowed, -⟩ := speaks
    cases allowed <;> simp [Program.next?, awaitsIncrement, eq_comm]

/-- In every interleaving in which nobody records a use after another one has
changed what was read, and no count fails: the limits of every coupon hold,
no order uses a coupon twice, and the counters follow the uses. -/
theorem limits_hold_unraced {toUpperCase : String → String} {start : World}
    {turns : List CouponTurn} (within : AllWithinLimits ⟨start, []⟩)
    (isUnraced : Along (couponRace toUpperCase) Unraced ⟨start, []⟩ turns) :
    AllWithinLimits (run (couponRace toUpperCase) ⟨start, []⟩ turns) := by
  obtain ⟨cast, spoken, tallied⟩ := Pool.spoken_invariant (Tallied start)
    (speaks_program toUpperCase) (fun _ _ _ _ _ _ tallied isUnraced spoke =>
      tallied_spoke tallied isUnraced spoke)
    ⟨rfl, nofun, within⟩ isUnraced
  intro id coupon stored
  have within := tallied.within id coupon stored
  rw [← betweenWrites_eq spoken] at within
  exact within

def fiveOff (totalUsageLimit currentUsageCount : ℕ) : Coupon where
  id := 0
  code := "FIVE"
  name := "five off"
  discountType := .fixedAmount
  discountValue := 5
  totalUsageLimit
  currentUsageCount
  perUserLimit := 1

def couponShop (totalUsageLimit : ℕ) : World :=
  { openShop with
    db := { openShop.db with
      coupons := .save .empty (fiveOff totalUsageLimit 0) } }

theorem couponShop_within (totalUsageLimit : ℕ) :
    AllWithinLimits ⟨couponShop totalUsageLimit, []⟩ := by
  intro id coupon stored
  change ((Table.empty : Table Coupon).save _).row id = some coupon at stored
  rw [Table.row_save] at stored
  split at stored
  · cases stored
    exact ⟨fun _ => Nat.zero_le _, fun _ _ => Nat.zero_le _, fun _ => Nat.zero_le _, rfl⟩
  · cases stored

/-- A user buys a lamp with the coupon. -/
def couponCheckout (userId orderId : Id) : CouponCall where
  dto :=
    { code := "FIVE", userId
      items := [{ productId := 0, quantity := 1, price := 100
                  subtotal := 100 }] }
  orderId
  orderAmount := 100
  currency := "USD"

/-- So many effects of one call, none failing. -/
def couponTurns (index count : ℕ) : List CouponTurn := List.replicate count (.perform index none)

theorem two_users_one_coupon :
    AllWithinLimits (run (couponRace id) ⟨couponShop 2, []⟩
      ([.spawn (couponCheckout 7 0), .spawn (couponCheckout 8 1)] ++
        couponTurns 0 5 ++ couponTurns 1 5)) :=
  limits_hold_unraced (couponShop_within 2) (by decide)

/-- A coupon for one use is used twice by one user, by calls that both
validate it first; it is used for one order by two users; and a use is never
counted, because the second write fails. -/
theorem coupon_used_twice :
    AllWithinLimits ⟨couponShop 1, []⟩ ∧ AllWithinLimits ⟨couponShop 2, []⟩ ∧
      ¬ AllWithinLimits (run (couponRace id) ⟨couponShop 1, []⟩
        ([.spawn (couponCheckout 7 0), .spawn (couponCheckout 7 1)] ++
          couponTurns 0 3 ++ couponTurns 1 3 ++ couponTurns 0 2 ++ couponTurns 1 2)) ∧
      ¬ AllWithinLimits (run (couponRace id) ⟨couponShop 2, []⟩
        ([.spawn (couponCheckout 7 0), .spawn (couponCheckout 8 0)] ++
          couponTurns 0 5 ++ couponTurns 1 5)) ∧
      ¬ AllWithinLimits (run (couponRace id) ⟨couponShop 1, []⟩
        (.spawn (couponCheckout 7 0) :: couponTurns 0 4 ++
          [.perform 0 (some (.error "connection lost"))])) := by
  refine ⟨couponShop_within 1, couponShop_within 2, fun within => ?_,
    fun within => ?_, fun within => ?_⟩
  · have total := (within 0 (fiveOff 1 2) (by decide)).total (by decide)
    exact absurd total (by decide)
  · have once := (within 0 (fiveOff 2 2) (by decide)).once 0
    exact absurd once (by decide)
  · have counted := (within 0 (fiveOff 1 0) (by decide)).counted
    exact absurd counted (by decide)

end MarketX.Commerce
