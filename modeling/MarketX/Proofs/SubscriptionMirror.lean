/-
Module: MarketX.Proofs.SubscriptionMirror
Purpose: When a period of a subscription ends, and what the row of a user says
  about their subscription after a call that returns.
Trusted boundary: human-reviewed definition of inZone, Regular, InTurn,
  MonthlyRenewals, Advances, Mirrors, Affected, returns and renewalsThrow
Main exports: inZone, Regular, periods_regular_iff, standing_follows_subscription
-/
import MarketX.Numerals.Calendar
import MarketX.Proofs.ActiveSubscriptions

namespace MarketX.Subscriptions

open Effects Handler SubscriptionsService Numerals.Calendar

/-! ### One period -/

/-- The calendar of a zone: `setFullYear` for twelve months, `setMonth` for
fewer. -/
def inZone (zone : Zone) : Calendar := fun date months =>
  if months = 12 then zone.setFullYear date (zone.getFullYear date + 1)
  else zone.setMonth date (zone.getMonth date + months)

def BillingCycle.months : BillingCycle → ℕ
  | .monthly => 1
  | .quarterly => 3
  | .yearly => 12

section

variable (zone : Zone) (cycle : BillingCycle) (start : Date)

theorem calculateEndDate_eq :
    calculateEndDate (inZone zone) start cycle =
      zone.later start cycle.months := by
  cases cycle with
  | monthly => exact zone.setMonth_add start 1
  | quarterly => exact zone.setMonth_add start 3
  | yearly => exact zone.setFullYear_add start 1

def targetMonth : ℤ := zone.month start + cycle.months

/-- That month has the day on which the period begins. -/
def fits : Bool := zone.getDate start ≤ daysInMonth (targetMonth zone cycle start)

/-- A period ends in its month, on the day it began on or the last one, at the
same time of day; and one that begins later does not end earlier. -/
structure Regular : Prop where
  month : zone.month (calculateEndDate (inZone zone) start cycle) = targetMonth zone cycle start
  date : zone.getDate (calculateEndDate (inZone zone) start cycle) =
    min (zone.getDate start) (daysInMonth (targetMonth zone cycle start))
  time : zone.timeWithinDay (calculateEndDate (inZone zone) start cycle) = zone.timeWithinDay start
  ordered : ∀ other, start ≤ other → calculateEndDate (inZone zone) start cycle ≤
      calculateEndDate (inZone zone) other cycle

theorem regular_iff : Regular zone cycle start ↔ fits zone cycle start := by
  rw [fits, decide_eq_true_iff]
  constructor
  · intro regular
    by_contra carried
    have month := regular.month
    rw [calculateEndDate_eq, Zone.month_later_carried (not_le.mp carried)] at month
    exact absurd month (Int.lt_succ _).ne'
  · intro within
    refine ⟨?_, ?_, ?_, fun other le => ?_⟩
    · rw [calculateEndDate_eq]
      exact Zone.month_later within
    · rw [calculateEndDate_eq, Zone.getDate_later within, min_eq_left within]
    · rw [calculateEndDate_eq, Zone.timeWithinDay_later]
    · rw [calculateEndDate_eq, calculateEndDate_eq]
      exact Zone.later_le_later within le

end

/-! ### One renewal after the other -/

structure Renewal where
  now : Date
  faults : List Fault := []

section

variable (zone : Zone) (id : Id)

def renewalStep (world : World) (renewal : Renewal) : World := attemptStep (inZone zone) world
    ⟨.processRenewal id, renewal.now, renewal.faults⟩

def expiryMonth (world : World) : Option ℤ :=
  (world.subscriptions.row id).map fun subscription => zone.month subscription.expiresAt

/-- The subscription is a monthly one, and it is renewed in the month in which
it expires. -/
def InTurn (world : World) (renewal : Renewal) : Prop :=
  ∀ subscription, world.subscriptions.row id = some subscription →
    subscription.billingCycle = .monthly ∧
      zone.month renewal.now = zone.month subscription.expiresAt

instance (world : World) (renewal : Renewal) :
    Decidable (InTurn zone id world renewal) :=
  inferInstanceAs (Decidable (∀ subscription ∈ world.subscriptions.row id,
    subscription.billingCycle = .monthly ∧
      zone.month renewal.now = zone.month subscription.expiresAt))

/-- The subscription renews itself, and the renewal is saved. -/
def renewalSaved (world : World) (renewal : Renewal) : Bool := savesRenewal renewal.faults &&
    (world.subscriptions.row id).any Subscription.autoRenew

/-- A renewal that is saved goes on to the next month, and no further. -/
def Advances (world : World) (renewal : Renewal) : Prop :=
  expiryMonth zone id (renewalStep zone id world renewal) = if renewalSaved id world renewal then
      (expiryMonth zone id world).map (· + 1)
    else expiryMonth zone id world

instance (world : World) (renewal : Renewal) :
    Decidable (Advances zone id world renewal) := inferInstanceAs (Decidable (_ = _))

/-- A renewal that is saved is made on a day that the next month has. -/
def Fitting (world : World) (renewal : Renewal) : Prop := renewalSaved id world renewal = true →
    fits zone .monthly renewal.now = true

variable {zone id} {world : World} {renewal : Renewal}

variable (world) in
theorem saved_processRenewal {addMonths : Calendar} {faults : List Fault}
    {subscription : Subscription} (saves : savesRenewal faults = true)
    (found : world.subscriptions.row id = some subscription)
    (auto : subscription.autoRenew = true) :
    (subscriptions.exec (processRenewal addMonths id) faults world).2.subscriptions =
      world.subscriptions.save (renewed addMonths subscription world.now) := by
  obtain ⟨loads, saves⟩ := (Bool.and_eq_true _ _).mp saves
  rw [Option.isNone_iff_eq_none] at loads saves
  unfold processRenewal
  rw [exec_await_acts (.inl loads)]
  simp only [act, found, auto, Bool.not_true, Bool.false_eq_true, if_false]
  rw [exec_await_acts (.inr rfl), exec_await_acts (.inl saves)]
  -- The row of the user does not matter any more.
  cases updates : faults.tail.tail.tail.headD none with
  | none =>
    unfold updateUserSubscriptionStatus
    rw [exec_await_acts (.inl updates)]
    rfl
  | some error =>
    unfold updateUserSubscriptionStatus
    rw [exec_await_fails updates rfl]
    rfl

variable (world) in
theorem refused_processRenewal {addMonths : Calendar} {faults : List Fault}
    (loads : faults.headD none = none)
    (refuses : (world.subscriptions.row id).any Subscription.autoRenew = false) :
    (subscriptions.exec (processRenewal addMonths id) faults world).2 =
      world := by
  unfold processRenewal
  rw [exec_await_acts (.inl loads)]
  simp only [act]
  cases found : world.subscriptions.row id with
  | none => rfl
  | some subscription =>
    rw [found] at refuses
    have manual : subscription.autoRenew = false := refuses
    simp only [manual, Bool.not_false, if_true]
    rfl

theorem renewalStep_eq : renewalStep zone id world renewal =
    (subscriptions.exec (processRenewal (inZone zone) id) renewal.faults
      { world with now := renewal.now }).2 := by
  show (subscriptions.exec (processRenewal (inZone zone) id >>= fun _ =>
    (pure () : Service Unit)) renewal.faults _).2 = _
  rw [exec_discard]
  rfl

theorem renewalStep_unsaved (unsaved : renewalSaved id world renewal = false) :
    (renewalStep zone id world renewal).subscriptions =
      world.subscriptions := by
  rw [renewalStep_eq]
  cases saves : savesRenewal renewal.faults <;> simp_all [savesRenewal, unsaved_processRenewal,
    renewalSaved, refused_processRenewal]

theorem renewalStep_saved (saved : renewalSaved id world renewal = true) :
    ∃ subscription, world.subscriptions.row id = some subscription ∧
      (renewalStep zone id world renewal).subscriptions = world.subscriptions.save
          (renewed (inZone zone) subscription renewal.now) := by
  obtain ⟨saves, renews⟩ := (Bool.and_eq_true _ _).mp saved
  obtain ⟨subscription, found, auto⟩ := (Option.any_eq_true _ _).mp renews
  simp_all [renewalStep_eq, saved_processRenewal]

theorem advances_iff (inTurn : InTurn zone id world renewal) :
    Advances zone id world renewal ↔ Fitting zone id world renewal := by
  rw [Advances, Fitting, expiryMonth, expiryMonth]
  cases saved : renewalSaved id world renewal with
  | false => simp_all [renewalStep_unsaved]
  | true =>
    obtain ⟨subscription, found, rows⟩ := renewalStep_saved saved
    obtain ⟨monthly, sameMonth⟩ := inTurn subscription found
    have key : subscription.id = id := world.subscriptions.keyed found
    rw [if_pos rfl, row_renewed rows, if_pos key.symm, found]
    have ends : (renewed (inZone zone) subscription renewal.now).expiresAt =
        zone.later renewal.now BillingCycle.monthly.months := by
      simp_all [renewed, calculateEndDate_eq]
    show some (zone.month _) = some (zone.month subscription.expiresAt + 1) ↔ (true = true → _)
    rw [ends, Option.some_inj, ← sameMonth, imp_iff_right rfl, fits, decide_eq_true_iff]
    constructor
    · intro next
      by_contra carried
      rw [Zone.month_later_carried (not_le.mp carried)] at next
      exact absurd next (Int.lt_succ _).ne'
    · exact Zone.month_later

end

/-- Renewals of a subscription, each in the month in which the period before
it ends. -/
structure MonthlyRenewals (zone : Zone) where
  id : Id
  start : World
  renewals : List Renewal
  inTurn : Along (renewalStep zone id) (InTurn zone id) start renewals

/-- A period ends as its cycle says, and renewals go on month by month, exactly
where each begins on a day that the month of its end has. -/
theorem periods_regular_iff (zone : Zone) :
    (∀ cycle start, Regular zone cycle start ↔ fits zone cycle start) ∧
      ∀ monthly : MonthlyRenewals zone,
        Along (renewalStep zone monthly.id) (Advances zone monthly.id)
            monthly.start monthly.renewals ↔
          Along (renewalStep zone monthly.id) (Fitting zone monthly.id)
            monthly.start monthly.renewals :=
  ⟨fun cycle start => regular_iff zone cycle start,
    fun monthly => monthly.inTurn.iff fun _ _ => advances_iff⟩

/-- A monthly subscription that expires on 31 December 2022. -/
def yearEnd : World where
  subscriptions := Table.empty.save
    { id := 0
      userId := 7
      tier := .basic
      price := 10
      startsAt := 1669766400000
      expiresAt := 1672444800000
      createdAt := 1669766400000 }
  users _ := {}
  now := 1672444800000

/-- It is renewed when it expires, on 31 December and on 31 January. -/
def yearEndRenewals : MonthlyRenewals ⟨0⟩ where
  id := 0
  start := yearEnd
  renewals := [{ now := 1672444800000 }, { now := 1675123200000 }]
  inTurn := by decide

/-- The period that begins on 31 January ends on 3 March, later than the one
that begins a day later; there is none that ends in February. -/
theorem periods_skip_february :
    let zone : Zone := ⟨0⟩
    (calculateEndDate (inZone zone) 1675123200000 .monthly = 1677801600000 ∧
      calculateEndDate (inZone zone) 1675209600000 .monthly = 1677628800000 ∧
      ¬ Regular zone .monthly 1675123200000) ∧
    ((List.range 3).map (fun count => expiryMonth zone 0 (run (renewalStep zone 0) yearEnd
          (yearEndRenewals.renewals.take count))) =
      [some (monthIndex 2022 11), some (monthIndex 2023 0), some (monthIndex 2023 2)] ∧
      ¬ Along (renewalStep zone yearEndRenewals.id)
        (Advances zone yearEndRenewals.id) yearEndRenewals.start yearEndRenewals.renewals) := by
  refine ⟨⟨by decide, by decide, ?_⟩, by decide, by decide⟩
  exact (regular_iff ⟨0⟩ .monthly 1675123200000).not.mpr (by decide)

open Effects Handler SubscriptionsService

/-! ### The mirror -/

/-- The subscription of a user that has been written last. -/
def World.lastWritten (world : World) (userId : Id) : Option Subscription :=
  world.written.find? fun subscription => subscription.userId = userId

/-- The row of a user shows the ACTIVE subscription, or the one written last
if none is ACTIVE. -/
structure Mirrors (world : World) (userId : Id) : Prop where
  active : ∀ subscription, world.subscriptions.row subscription.id = some subscription →
      subscription.userId = userId → subscription.status = .active →
        world.users userId = standingOf subscription
  last : (∀ subscription, world.subscriptions.row subscription.id = some subscription →
        subscription.userId = userId → subscription.status ≠ .active) →
    ∀ subscription, world.lastWritten userId = some subscription →
      world.users userId = standingOf subscription

/-- Between two worlds a subscription of the user has been written. -/
def Affected (world after : World) (userId : Id) : Prop :=
  ∃ new, after.written = new ++ world.written ∧ ∃ subscription ∈ new, subscription.userId = userId

section

variable (addMonths : Calendar)

/-- The call returns. -/
def returns (world : World) (attempt : Attempt) : Bool :=
  (subscriptions.exec (attempt.call.program addMonths) attempt.faults (attempt.found world)).1.isOk

/-- Each renewal throws that the loop of the check attempts. -/
def throwRenewals : List Subscription → List Fault → World → Bool
  | [], _, _ => true
  | subscription :: rows, faults, world =>
    !renews addMonths subscription faults world && throwRenewals rows
        (subscriptions.leftover (checkExpired addMonths subscription) faults world)
        (subscriptions.exec (checkExpired addMonths subscription) faults world).2

/-- If the call is the check, each renewal throws that it attempts. -/
def renewalsThrow (world : World) (attempt : Attempt) : Bool :=
  match attempt.call with
  | .checkExpiredSubscriptions =>
    throwRenewals addMonths (world.expiredAt attempt.now)
      attempt.faults.tail.tail (attempt.found world)
  | _ => true

end

/-! ### What concerns one user -/

/-- The row of the user and the subscriptions of the user are the same. -/
structure Alike (userId : Id) (world after : World) : Prop where
  standing : world.users userId = after.users userId
  rows : ∀ subscription : Subscription, subscription.userId = userId →
    (world.subscriptions.row subscription.id = some subscription ↔
      after.subscriptions.row subscription.id = some subscription)
  last : world.lastWritten userId = after.lastWritten userId

section

variable {addMonths : Calendar} {world after : World} {userId : Id} {subscription : Subscription}

theorem Alike.trans {middle : World} (first : Alike userId world middle)
    (second : Alike userId middle after) : Alike userId world after where
  standing := first.standing.trans second.standing
  rows subscription owner :=
    (first.rows subscription owner).trans (second.rows subscription owner)
  last := first.last.trans second.last

theorem Alike.mirrors_iff (alike : Alike userId world after) :
    Mirrors world userId ↔ Mirrors after userId := by
  obtain ⟨standing, rows, last⟩ := alike
  constructor
  · rintro ⟨active, lastOne⟩
    constructor
    · grind
    · grind
  · rintro ⟨active, lastOne⟩
    constructor
    · grind
    · grind

theorem alike_withSubscription
    (stored : ∀ other, world.subscriptions.row subscription.id = some other →
      other.userId ≠ userId) (others : subscription.userId ≠ userId) :
    Alike userId world (world.withSubscription subscription) where
  standing := rfl
  rows other owner := by
    show _ ↔ (world.subscriptions.save subscription).row other.id = some other
    by_cases same : other.id = subscription.id
    · rw [same]
      constructor
      · exact fun found => absurd owner (stored other found)
      · intro found
        have here : (world.subscriptions.save subscription).row
            subscription.id = some subscription := Table.row_save_self _ _
        simp_all
    · rw [Table.row_save_of_ne _ _ same]
  last := by
    show _ = List.find? _ (subscription :: world.written)
    rw [List.find?_cons_of_neg (by simpa using others)]
    rfl

theorem alike_withStanding {other : Id} {standing : Standing} (others : other ≠ userId) :
    Alike userId world (world.withStanding other standing) where
  standing := (Function.update_of_ne others.symm _ _).symm
  rows _ _ := Iff.rfl
  last := rfl

variable (subscription) in
theorem alike_mirrored (stored : ∀ other, world.subscriptions.row subscription.id = some other →
      other.userId ≠ userId) (others : subscription.userId ≠ userId) :
    Alike userId world (world.mirrored subscription) :=
  (alike_withSubscription stored others).trans (alike_withStanding others)

/-- What is copied is what the row of the user shows, unless another
subscription of the user is ACTIVE. -/
theorem mirrors_mirrored (alone : ∀ other, world.subscriptions.row other.id = some other →
      other.userId = subscription.userId → other.status = .active → other.id = subscription.id) :
    Mirrors (world.mirrored subscription) subscription.userId := by
  have shown : (world.mirrored subscription).users subscription.userId =
      standingOf subscription := Function.update_self _ _ _
  constructor
  · intro other found owner active
    change (world.subscriptions.save subscription).row other.id = some other at found
    rw [Table.row_save] at found
    split at found
    next => cases found; exact shown
    next different => exact absurd (alone other found owner active) different
  · intro _ other last
    change List.find? _ (subscription :: world.written) = some other at last
    simp_all

end

/-! ### The check -/

section

variable {addMonths : Calendar} {world after : World} {userId : Id}
  {subscription : Subscription} {renews : Bool}

theorem Swept.alike (swept : Swept addMonths world subscription renews true after)
    (stored : world.subscriptions.row subscription.id = some subscription)
    (others : subscription.userId ≠ userId) : Alike userId world after := by
  have apart : ∀ {other}, world.subscriptions.row subscription.id =
      some other → other.userId ≠ userId := by simp_all
  cases swept with
  | renewed success =>
    have renewal : Alike userId world (world.mirrored
        (SubscriptionsService.renewed addMonths subscription world.now)) :=
      alike_mirrored _ (fun _ => apart) others
    exact renewal.trans (alike_withStanding others)
  | @lapsed status before failure ended written =>
    have started : Alike userId world before ∧ ∀ other,
        before.subscriptions.row subscription.id = some other → other.userId ≠ userId := by
      rcases written with rfl | ⟨row, same, owner, rfl⟩
      · exact ⟨⟨rfl, fun _ _ => Iff.rfl, rfl⟩, fun _ => apart⟩
      · refine ⟨alike_withSubscription (fun other found => ?_)
          (owner ▸ others), fun other found => ?_⟩
        · rw [same] at found
          exact apart found
        · change (world.subscriptions.save row).row subscription.id = _ at found
          have here : (world.subscriptions.save row).row row.id =
              some row := Table.row_save_self _ _
          simp_all
    exact started.1.trans (alike_mirrored
      (Subscriptions.lapsed subscription status) started.2 others)

/-- The row of the user shows the subscription unless it is renewed: then it
shows when the subscription would have expired. -/
theorem Swept.mirrors_iff (later : ∀ date months, date ≤ addMonths date months)
    (swept : Swept addMonths world subscription renews true after) (one : OneActive world)
    (stored : world.subscriptions.row subscription.id = some subscription)
    (active : subscription.status = .active) (expired : subscription.expiresAt < world.now) :
    Mirrors after subscription.userId ↔ renews = false := by
  cases swept with
  | renewed success =>
    refine iff_of_false (fun mirrors => ?_) (by simp [success])
    let renewal := SubscriptionsService.renewed addMonths subscription world.now
    have shown := mirrors.active renewal (Table.row_save_self _ renewal) rfl rfl
    have same : some subscription.expiresAt = some renewal.expiresAt :=
      congrArg Standing.subscriptionExpiresAt ((Function.update_self _ _ _).symm.trans shown)
    have ends : world.now ≤ renewal.expiresAt := by
      show world.now ≤ calculateEndDate addMonths world.now _
      cases subscription.billingCycle <;> exact later _ _
    grind
  | @lapsed status before failure ended written =>
    refine iff_of_true ?_ failure
    apply mirrors_mirrored
    intro other found owner isActive
    by_contra different
    have earlier : world.subscriptions.row other.id = some other := by
      rcases written with rfl | ⟨row, same, -, rfl⟩
      · exact found
      · change (world.subscriptions.save row).row other.id = _ at found
        rwa [Table.row_save_of_ne] at found
        intro here
        exact different (here.trans same)
    exact different (one other.id subscription.id other subscription earlier
      stored owner isActive active)

theorem Swept.now {completed : Bool}
    (swept : Swept addMonths world subscription renews completed after) :
    after.now = world.now := by
  cases swept with
  | renewed success => rfl
  | lapsed failure ended written =>
    rcases written with rfl | ⟨row, -, -, rfl⟩ <;> rfl
  | failed now rows => exact now

/-- A subscription of this user is written, and of no other. -/
def WritesOf (users : Id → Prop) (world after : World) : Prop :=
  ∃ new, after.written = new ++ world.written ∧
    ∀ userId, (∃ subscription ∈ new, subscription.userId = userId) ↔ users userId

theorem writesOf_mirrored :
    WritesOf (fun userId => subscription.userId = userId) world (world.mirrored subscription) := by
  refine ⟨[subscription], rfl, fun userId => ?_⟩
  simp

theorem Swept.writesOf (swept : Swept addMonths world subscription renews true after) :
    WritesOf (fun userId => subscription.userId = userId) world after := by
  cases swept with
  | renewed success => exact writesOf_mirrored
  | @lapsed status before failure ended written =>
    rcases written with rfl | ⟨row, -, owner, rfl⟩
    · exact writesOf_mirrored
    · refine ⟨[Subscriptions.lapsed subscription status, row], rfl, fun userId => ?_⟩
      simp [Subscriptions.lapsed, owner]

theorem WritesOf.trans {users others : Id → Prop} {middle : World}
    (first : WritesOf users world middle) (second : WritesOf others middle after) :
    WritesOf (fun userId => users userId ∨ others userId) world after := by
  obtain ⟨newFirst, front, ofFirst⟩ := first
  obtain ⟨newSecond, back, ofSecond⟩ := second
  refine ⟨newSecond ++ newFirst, ?_, fun userId => ?_⟩
  · rw [back, front, List.append_assoc]
  · grind

theorem WritesOf.affected_iff {users : Id → Prop} (writes : WritesOf users world after) :
    Affected world after userId ↔ users userId := by
  obtain ⟨new, split, ofUsers⟩ := writes
  rw [← ofUsers]
  constructor
  · rintro ⟨other, splitOther, row⟩
    simp_all
  · exact fun row => ⟨new, split, row⟩

/-- What the loop of the check leaves, if nothing stops it. -/
structure Looped (addMonths : Calendar) (rows : List Subscription)
    (faults : List Fault) (world after : World) : Prop where
  mirrors : (∀ row ∈ rows, Mirrors after row.userId) ↔
    throwRenewals addMonths rows faults world = true
  others : ∀ userId, (∀ row ∈ rows, row.userId ≠ userId) → Alike userId world after
  writes : WritesOf (fun userId => ∃ row ∈ rows, row.userId = userId) world after

theorem looped_loop (later : ∀ date months, date ≤ addMonths date months)
    {rows : List Subscription} (pending : Pending world rows)
    (one : OneActive world) (expired : ∀ row ∈ rows, row.expiresAt < world.now)
    {faults : List Fault} (completes : (subscriptions.exec (rows.forM (checkExpired addMonths))
      faults world).1.isOk = true) :
    Looped addMonths rows faults world
      (subscriptions.exec (rows.forM (checkExpired addMonths)) faults world).2 := by
  induction rows generalizing world faults with
  | nil =>
    refine ⟨?_, fun _ _ => ⟨rfl, fun _ _ => Iff.rfl, rfl⟩, [], rfl, ?_⟩
    · exact iff_of_true (List.forall_mem_nil _) rfl
    · simp
  | cons head rows ih =>
    have stored := pending.stored head List.mem_cons_self
    have active := pending.active head List.mem_cons_self
    have swept := swept_checkExpired addMonths stored faults
    change (subscriptions.exec (checkExpired addMonths head >>= fun _ =>
      rows.forM (checkExpired addMonths)) faults world).1.isOk = true
      at completes
    show Looped addMonths (head :: rows) faults world
      (subscriptions.exec (checkExpired addMonths head >>= fun _ =>
        rows.forM (checkExpired addMonths)) faults world).2
    cases outcome : (subscriptions.exec (checkExpired addMonths head) faults world).1 with
    | error error =>
      rw [exec_bind_error outcome] at completes
      cases completes
    | ok value =>
      rw [exec_bind_ok outcome] at completes ⊢
      rw [outcome] at swept
      have still := swept.oneRow.still stored active
      have expiredTail : ∀ row ∈ rows, row.expiresAt <
          (subscriptions.exec (checkExpired addMonths head) faults world).2.now := by
        rw [swept.now]
        exact fun row member => expired row (List.mem_cons_of_mem _ member)
      have looped := ih (pending.tail swept.oneRow) (still.oneActive one) expiredTail completes
      -- ACTIVE subscriptions are of different users
      have apart : ∀ row ∈ rows, row.userId ≠ head.userId := by
        intro row member same
        have distinct := (List.pairwise_cons.mp pending.distinct).1 row member
        have listed := List.mem_cons_of_mem head member
        exact distinct (one head.id row.id head row stored
          (pending.stored row listed) same.symm active (pending.active row listed))
      constructor
      · rw [List.forall_mem_cons, looped.mirrors, ← (looped.others head.userId apart).mirrors_iff,
          swept.mirrors_iff later one stored active (expired head List.mem_cons_self)]
        rw [throwRenewals, Bool.and_eq_true, Bool.not_eq_true']
      · intro userId others
        exact (swept.alike stored (others head List.mem_cons_self)).trans
          (looped.others userId fun row member => others row (List.mem_cons_of_mem _ member))
      · obtain ⟨new, split, ofUsers⟩ := swept.writesOf.trans looped.writes
        refine ⟨new, split, fun userId => ?_⟩
        rw [ofUsers]
        simp

end

/-! ### Every call -/

section

variable {addMonths : Calendar} {world after : World}

theorem mirrors_change {call : SubscriptionCall} {subscription : Subscription}
    (one : OneActive world) (change : Change addMonths world call subscription)
    (isAlone : ∀ id current, call = .processRenewal id → world.subscriptions.row id = some current →
        current.autoRenew = true → alone world current = true) :
    Mirrors (world.mirrored subscription) subscription.userId := by
  apply mirrors_mirrored
  intro other found owner active
  cases change with
  | creates none fresh sameOwner pending =>
    exact absurd active (activeOf_none.mp none _ other found (owner.trans sameOwner))
  | upgrades foundCurrent same sameOwner pending =>
    obtain ⟨stored, -, isActive⟩ := activeOf_some foundCurrent
    rw [same]
    exact one _ _ other _ found stored (owner.trans sameOwner) active isActive
  | cancels foundCurrent same sameOwner cancelled =>
    obtain ⟨stored, -, isActive⟩ := activeOf_some foundCurrent
    rw [same]
    exact one _ _ other _ found stored (owner.trans sameOwner) active isActive
  | @renews id current foundCurrent auto =>
    exact alone_iff.mp (isAlone id current rfl foundCurrent auto) _ other found owner active

/-- The users that a call affects are shown their subscription iff no renewal
of the check returns. -/
theorem mirrors_call (later : ∀ date months, date ≤ addMonths date months)
    {call : SubscriptionCall} {faults : List Fault} (one : OneActive world)
    (isAlone : renewsOnly alone world ⟨call, world.now, faults⟩ = true)
    (completes : (subscriptions.exec (call.program addMonths) faults world).1.isOk = true) :
    (∀ userId, Affected world (subscriptions.exec (call.program addMonths) faults world).2 userId →
      Mirrors (subscriptions.exec (call.program addMonths) faults world).2 userId) ↔
      renewalsThrow addMonths world ⟨call, world.now, faults⟩ = true := by
  by_cases check : call = .checkExpiredSubscriptions
  · subst check
    change (subscriptions.exec (checkExpiredSubscriptions addMonths) faults
      world).1.isOk = true at completes
    show (∀ userId, Affected world (subscriptions.exec
        (checkExpiredSubscriptions addMonths) faults world).2 userId →
      Mirrors (subscriptions.exec (checkExpiredSubscriptions addMonths) faults world).2 userId) ↔ _
    unfold checkExpiredSubscriptions at completes ⊢
    rw [exec_await_acts (.inr rfl)] at completes ⊢
    cases loads : faults.tail.headD none with
    | some error =>
      rw [exec_await_fails loads rfl] at completes
      cases completes
    | none =>
      rw [exec_await_acts (.inl loads)] at completes ⊢
      have expired : ∀ row ∈ world.expiredAt world.now,
          row.expiresAt < world.now := fun row member =>
        (of_decide_eq_true (List.mem_filter.mp member).2).2
      have looped := looped_loop later (pending_expiredAt world world.now) one expired completes
      refine Iff.trans ?_ looped.mirrors
      constructor
      · exact fun mirrors row member => mirrors row.userId
          (looped.writes.affected_iff.mpr ⟨row, member, rfl⟩)
      · intro mirrors userId affected
        obtain ⟨row, member, rfl⟩ := looped.writes.affected_iff.mp affected
        exact mirrors row member
  · have quiet : renewalsThrow addMonths world ⟨call, world.now, faults⟩ =
        true := by
      cases call with
      | checkExpiredSubscriptions => exact absurd rfl check
      | _ => rfl
    refine iff_of_true (fun userId affected => ?_) quiet
    have done := subscriptions.wp_sound (done_program addMonths world check) faults
    have unsaved : ∀ id, call = .processRenewal id → savesRenewal faults = false →
          (subscriptions.exec (call.program addMonths) faults world).2 =
            world := by
      rintro id rfl unsaved
      show (subscriptions.exec (processRenewal addMonths id >>= fun _ =>
        (pure () : Service Unit)) faults world).2 = world
      rw [exec_discard]
      exact unsaved_processRenewal unsaved
    rw [completes] at done
    generalize (subscriptions.exec (call.program addMonths) faults world).2 = after at *
    cases done with
    | unwanted none =>
      obtain ⟨new, split, row, member, -⟩ := affected
      simp_all
    | @mirrored subscription change =>
      rw [writesOf_mirrored.affected_iff] at affected
      subst affected
      apply mirrors_change one change
      rintro id current rfl found auto
      refine renewsOnly_saved isAlone found auto ?_
      by_contra fails
      have nothing := unsaved id rfl (Bool.eq_false_iff.mpr fails)
      have written := congrArg (fun world => world.written.length) nothing
      simp [World.mirrored, World.withSubscription, World.withStanding] at written

end

/-- In every history in which no renewal is saved beside another ACTIVE
subscription of its user, a call that returns leaves the rows of all users
whose subscriptions it has written as their subscriptions are, unless it is a
check one of whose renewals returns. -/
theorem standing_follows_subscription (addMonths : Calendar)
    (later : ∀ date months, date ≤ addMonths date months) {start : World}
    (one : OneActive start) (attempts : List Attempt) (isAlone : Along (attemptStep addMonths)
      (fun world attempt => renewsOnly alone world attempt = true) start attempts) :
    Along (attemptStep addMonths) (fun world attempt =>
      returns addMonths world attempt = true → ((∀ userId,
            Affected world (attemptStep addMonths world attempt) userId →
              Mirrors (attemptStep addMonths world attempt) userId) ↔
          renewalsThrow addMonths world attempt = true)) start attempts := by
  refine along_of_invariant (fun world attempt one isAlone => oneActive_step addMonths one isAlone)
    (fun world attempt one isAlone completes => ?_) one isAlone
  obtain ⟨call, now, faults⟩ := attempt
  exact mirrors_call later one isAlone completes

/-! ### One user -/

theorem plainCalendar_later (date : Date) (months : ℕ) :
    date ≤ plainCalendar date months := by
  unfold plainCalendar
  lia

/-- The check, and what fails in it. -/
def sweep (now : Date) (faults : List Fault) : Attempt where
  call := .checkExpiredSubscriptions
  now := now
  faults := faults

/-- The save of the renewal fails, and the subscription is suspended. -/
theorem suspended_standing :
    Along (attemptStep plainCalendar) (fun world attempt =>
      returns plainCalendar world attempt = true → ((∀ userId,
            Affected world (attemptStep plainCalendar world attempt) userId →
              Mirrors (attemptStep plainCalendar world attempt) userId) ↔
          renewalsThrow plainCalendar world attempt = true)) newUser
      [subscribe, renew 0 2000, sweep 2592003000 [none, none, none, none, some default]] :=
  standing_follows_subscription plainCalendar plainCalendar_later
    newUser_oneActive _ (by decide)

/-- The check renews the subscription of user 7, whose row goes on to say when
it would have expired. -/
theorem renewed_standing_stale :
    let world := run (attemptStep plainCalendar) newUser [subscribe, renew 0 2000]
    let attempt := sweep 2592003000 []
    returns plainCalendar world attempt = true ∧
      Affected world (attemptStep plainCalendar world attempt) 7 ∧
        ¬ Mirrors (attemptStep plainCalendar world attempt) 7 := by
  intro world attempt
  refine ⟨by decide, ⟨(attemptStep plainCalendar world attempt).written.take 1,
      by decide +kernel, by decide +kernel⟩, fun mirrors => ?_⟩
  have stale : ((attemptStep plainCalendar world
      attempt).subscriptions.row 0).any (fun subscription =>
        subscription.id = 0 ∧ subscription.userId = 7 ∧ subscription.status = .active ∧
            (attemptStep plainCalendar world attempt).users 7 ≠
              standingOf subscription) = true := by decide
  obtain ⟨subscription, stored, facts⟩ := (Option.any_eq_true _ _).mp stale
  obtain ⟨key, owner, active, different⟩ := of_decide_eq_true facts
  rw [← key] at stored
  exact different (mirrors.active subscription stored owner active)

end MarketX.Subscriptions
