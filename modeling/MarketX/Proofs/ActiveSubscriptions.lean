/-
Module: MarketX.Proofs.ActiveSubscriptions
Purpose: What each call to the subscriptions writes, and which subscriptions
  are ACTIVE in a history of calls.
Trusted boundary: human-reviewed definition of Attempt, attemptStep, OneActive,
  Ended and Orderly
Main exports: activeOf_some, activeOf_none, Change, Done, Attempt, at_most_one_active
-/
import MarketX.Effects.Runs
import MarketX.Effects.Schedules
import MarketX.Subscriptions.SubscriptionsService

namespace MarketX.Subscriptions

open Effects Handler SubscriptionsService

/-! ### ACTIVE subscriptions -/

section

variable {world : World} {userId : Id} {subscription : Subscription}

theorem activeOf_some (found : world.activeOf userId = some subscription) :
    world.subscriptions.row subscription.id = some subscription ∧
      subscription.userId = userId ∧ subscription.status = .active := by
  have member := List.mem_filter.mp (List.argmax_mem found)
  exact ⟨Table.mem_rows.mp member.1, of_decide_eq_true member.2⟩

theorem activeOf_none :
    world.activeOf userId = none ↔ ∀ id other, world.subscriptions.row id = some other →
        other.userId = userId → other.status ≠ .active := by
  rw [World.activeOf, List.argmax_eq_none, List.filter_eq_nil_iff]
  constructor
  · grind [Table.mem_rows_of_row]
  · intro none other member selected
    obtain ⟨owner, active⟩ := of_decide_eq_true selected
    exact none _ other (Table.mem_rows.mp member) owner active

end

/-! ### Calls about one subscription -/

/-- A subscription is saved and its state copied to the user's row. -/
def World.mirrored (world : World) (subscription : Subscription) : World :=
  (world.withSubscription subscription).withStanding subscription.userId (standingOf subscription)

/-- The row that a call writes. -/
inductive Change (addMonths : Calendar) (world : World) :
    SubscriptionCall → Subscription → Prop where
  | creates {userId : Id} {dto : CreateSubscriptionDto}
      {subscription : Subscription} (none : world.activeOf userId = none)
      (fresh : subscription.id = world.subscriptions.next) (owner : subscription.userId = userId)
      (pending : subscription.status = .pending) :
      Change addMonths world (.createSubscription userId dto) subscription
  | upgrades {userId : Id} {dto : UpgradeSubscriptionDto} {current subscription : Subscription}
      (found : world.activeOf userId = some current) (same : subscription.id = current.id)
      (owner : subscription.userId = current.userId) (pending : subscription.status = .pending) :
      Change addMonths world (.upgradeSubscription userId dto) subscription
  | cancels {userId : Id} {reason : Option String} {current subscription : Subscription}
      (found : world.activeOf userId = some current) (same : subscription.id = current.id)
      (owner : subscription.userId = current.userId)
      (cancelled : subscription.status = .cancelled) :
      Change addMonths world (.cancelSubscription userId reason) subscription
  | renews {id : Id} {current : Subscription} (found : world.subscriptions.row id = some current)
      (auto : current.autoRenew = true) :
      Change addMonths world (.processRenewal id) (renewed addMonths current world.now)

/-- How far a call comes: it throws before it writes, or there is nothing to
write, or it writes the subscription only, or both rows, and then it
returns. -/
inductive Done (addMonths : Calendar) (world : World)
    (call : SubscriptionCall) : Bool → World → Prop where
  | refused : Done addMonths world call false world
  | unwanted (none : ∀ subscription, ¬ Change addMonths world call subscription) :
      Done addMonths world call true world
  | stored {subscription : Subscription} (change : Change addMonths world call subscription) :
      Done addMonths world call false (world.withSubscription subscription)
  | mirrored {subscription : Subscription} (change : Change addMonths world call subscription) :
      Done addMonths world call true (world.mirrored subscription)

section

variable {addMonths : Calendar} {world : World} {α : Type}

theorem wp_await_bind {op : Op} {rest : Reply op → Service α}
    {post : Except HttpException α → World → Prop}
    (acts : subscriptions.wp (rest (act op world).1) post (act op world).2)
    (fails : mayFail op = true → ∀ error, post (.error error) world) :
    subscriptions.wp (await op >>= rest) post world := by exact ⟨acts, fails⟩

theorem exec_await_acts {op : Op} {rest : Reply op → Service α}
    {faults : List Fault} {world : World} (acts : faults.headD none = none ∨ mayFail op = false) :
    subscriptions.exec (await op >>= rest) faults world =
      subscriptions.exec (rest (act op world).1) faults.tail (act op world).2 :=
  exec_perform_acts acts

theorem exec_await_fails {op : Op} {rest : Reply op → Service α}
    {faults : List Fault} {world : World} {error : HttpException}
    (fails : faults.headD none = some error) (exposed : mayFail op = true) :
    subscriptions.exec (await op >>= rest) faults world = (.error error, world) :=
  exec_perform_fails fails exposed

theorem done_save {call : SubscriptionCall} {subscription : Subscription}
    (change : Change addMonths world call subscription) :
    subscriptions.wp (do
        subscriptionRepo.save subscription
        updateUserSubscriptionStatus subscription.userId subscription
        pure subscription : Service Subscription)
      (fun outcome after => Done addMonths world call outcome.isOk after)
      world := by
  apply wp_await_bind _ fun _ _ => .refused
  apply wp_await_bind _ fun _ _ => .stored change
  exact .mirrored change

theorem done_createSubscription (userId : Id) (dto : CreateSubscriptionDto) :
    subscriptions.wp (createSubscription addMonths userId dto)
      (fun outcome after => Done addMonths world
        (.createSubscription userId dto) outcome.isOk after) world := by
  apply wp_await_bind _ fun _ _ => .refused
  simp only [act]
  refine wp_branch _ _ (fun _ => .refused) fun inactive => ?_
  have none : world.activeOf userId = none := by
    cases found : world.activeOf userId with
    | none => rfl
    | some current =>
      rw [found] at inactive
      simp [(activeOf_some found).2.2] at inactive
  cases offered dto.tier with
  | none => exact .refused
  | some offer =>
    apply wp_await_bind _ nofun
    apply wp_await_bind _ fun _ _ => .refused
    have change (row : Subscription) (owner : row.userId = userId)
        (pending : row.status = .pending) :
        Change addMonths world (.createSubscription userId dto)
          (world.created row) := .creates none rfl owner pending
    apply wp_await_bind _ fun _ _ => .stored (change _ rfl rfl)
    exact .mirrored (change _ rfl rfl)

theorem done_upgradeSubscription (userId : Id) (dto : UpgradeSubscriptionDto) :
    subscriptions.wp (upgradeSubscription addMonths userId dto)
      (fun outcome after => Done addMonths world
        (.upgradeSubscription userId dto) outcome.isOk after) world := by
  apply wp_await_bind _ fun _ _ => .refused
  simp only [act]
  cases found : world.activeOf userId with
  | none => exact .refused
  | some current =>
    refine wp_branch _ _ (fun _ => .refused) fun _ => ?_
    cases offered dto.targetTier with
    | none => exact .refused
    | some offer =>
      apply wp_await_bind _ nofun
      have owner := (activeOf_some found).2.1
      subst owner
      exact done_save (.upgrades found rfl rfl rfl)

theorem done_cancelSubscription (userId : Id) (reason : Option String) :
    subscriptions.wp (cancelSubscription userId reason) (fun outcome after => Done addMonths world
        (.cancelSubscription userId reason) outcome.isOk after) world := by
  apply wp_await_bind _ fun _ _ => .refused
  simp only [act]
  cases found : world.activeOf userId with
  | none => exact .refused
  | some current =>
    apply wp_await_bind _ nofun
    have owner := (activeOf_some found).2.1
    subst owner
    exact done_save (.cancels found rfl rfl rfl)

variable (addMonths world) in
theorem done_processRenewal (id : Id) :
    subscriptions.wp (processRenewal addMonths id)
      (fun outcome after => Done addMonths world (.processRenewal id)
        outcome.isOk after) world := by
  apply wp_await_bind _ fun _ _ => .refused
  simp only [act]
  cases found : world.subscriptions.row id with
  | none => exact .refused
  | some current =>
    refine wp_branch _ _ (fun manual => .unwanted ?_) fun auto => ?_
    · intro subscription change
      cases change with
      | renews stored auto => simp_all
    have auto : current.autoRenew = true := by simpa using auto
    apply wp_await_bind _ nofun
    exact done_save (.renews found auto)

variable (addMonths world) in
theorem done_program {call : SubscriptionCall} (single : call ≠ .checkExpiredSubscriptions) :
    subscriptions.wp (call.program addMonths)
      (fun outcome after => Done addMonths world call outcome.isOk after)
      world := by
  have discards {service : Service Subscription}
      (done : subscriptions.wp service (fun outcome after =>
        Done addMonths world call outcome.isOk after) world) :
      subscriptions.wp (do let _ ← service; pure () : Service Unit)
        (fun outcome after => Done addMonths world call outcome.isOk after)
        world := by
    refine wp_discard _ (wp_mono _ done fun outcome after reached => ?_)
    cases outcome <;> exact reached
  cases call with
  | createSubscription userId dto => exact discards (done_createSubscription userId dto)
  | upgradeSubscription userId dto => exact discards (done_upgradeSubscription userId dto)
  | cancelSubscription userId reason => exact discards (done_cancelSubscription userId reason)
  | processRenewal id => exact discards (done_processRenewal addMonths world id)
  | checkExpiredSubscriptions => exact absurd rfl single

end

/-! ### The check -/

/-- What is left of an expired subscription that is not renewed. -/
def lapsed (subscription : Subscription) (status : SubscriptionStatus) :
    Subscription :=
  { subscription with status }

/-- At most the row of a subscription has been written. -/
def RowWritten (subscription : Subscription) (world after : World) : Prop :=
  after = world ∨ ∃ row : Subscription, row.id = subscription.id ∧
    row.userId = subscription.userId ∧ after = world.withSubscription row

/-- Of the rows, at most that of a subscription is another. -/
def OneRow (subscription : Subscription) (world after : World) : Prop :=
  after.subscriptions = world.subscriptions ∨ ∃ row : Subscription,
    row.id = subscription.id ∧ row.userId = subscription.userId ∧
      after.subscriptions = world.subscriptions.save row

/-- What the check makes of one subscription: it is renewed, and its state
copied as it was loaded; or it lapses; or something fails, and then at most
its row and its user's have been written. -/
inductive Swept (addMonths : Calendar) (world : World)
    (subscription : Subscription) (renews : Bool) : Bool → World → Prop where
  | renewed (success : renews = true) :
      Swept addMonths world subscription renews true ((world.mirrored
          (SubscriptionsService.renewed addMonths subscription world.now)
          ).withStanding subscription.userId (standingOf subscription))
  | lapsed {status : SubscriptionStatus} {before : World}
      (failure : renews = false) (ended : status ≠ .active)
      (written : RowWritten subscription world before) :
      Swept addMonths world subscription renews true
        (before.mirrored (Subscriptions.lapsed subscription status))
  | failed {after : World} (now : after.now = world.now) (rows : OneRow subscription world after) :
      Swept addMonths world subscription renews false after

section

variable {addMonths : Calendar} {world : World} {subscription : Subscription}

def renews (addMonths : Calendar) (subscription : Subscription)
    (faults : List Fault) (world : World) : Bool := subscription.autoRenew &&
    (subscriptions.exec (processRenewal addMonths subscription.id) faults world).1.isOk

theorem RowWritten.failed {before : World} {renews : Bool}
    (written : RowWritten subscription world before) :
    Swept addMonths world subscription renews false before := by
  rcases written with rfl | ⟨row, same, owner, rfl⟩
  · exact .failed rfl (.inl rfl)
  · exact .failed rfl (.inr ⟨row, same, owner, rfl⟩)

theorem swept_lapse {before : World} (status : SubscriptionStatus)
    {renews : Bool} (failure : renews = false) (ended : status ≠ .active)
    (written : RowWritten subscription world before) :
    subscriptions.wp (do
        subscriptionRepo.save (lapsed subscription status)
        updateUserSubscriptionStatus subscription.userId (lapsed subscription status))
      (fun outcome after => Swept addMonths world subscription renews outcome.isOk after)
      before := by
  apply wp_await_bind _ fun _ _ => written.failed
  refine ⟨.lapsed failure ended written, fun _ _ => ?_⟩
  rcases written with rfl | ⟨row, same, owner, rfl⟩
  · exact .failed rfl (.inr ⟨lapsed subscription status, rfl, rfl, rfl⟩)
  · refine .failed rfl (.inr ⟨lapsed subscription status, rfl, rfl, ?_⟩)
    exact Table.save_save _ same

theorem Swept.oneRow {after : World} {renews completed : Bool}
    (swept : Swept addMonths world subscription renews completed after) :
    OneRow subscription world after := by
  cases swept with
  | renewed success =>
    exact .inr ⟨SubscriptionsService.renewed addMonths subscription world.now, rfl, rfl, rfl⟩
  | @lapsed status _ failure ended written =>
    refine .inr ⟨Subscriptions.lapsed subscription status, rfl, rfl, ?_⟩
    rcases written with rfl | ⟨row, same, owner, rfl⟩
    · rfl
    · exact Table.save_save _ same
  | failed now rows => exact rows

variable (addMonths) in
theorem swept_checkExpired (stored : world.subscriptions.row subscription.id = some subscription)
    (faults : List Fault) :
    Swept addMonths world subscription (renews addMonths subscription faults world)
      (subscriptions.exec (checkExpired addMonths subscription) faults world).1.isOk
      (subscriptions.exec (checkExpired addMonths subscription) faults world).2 := by
  unfold checkExpired
  by_cases auto : subscription.autoRenew = true
  · rw [if_pos auto, exec_attempt_bind]
    have done := subscriptions.wp_sound (done_processRenewal addMonths world subscription.id) faults
    have renewal : ∀ row, Change addMonths world (.processRenewal subscription.id) row →
          row = renewed addMonths subscription world.now := by
      intro row change
      cases change
      simp_all
    have result : renews addMonths subscription faults world =
        (subscriptions.exec (processRenewal addMonths subscription.id) faults world).1.isOk := by
      rw [renews, auto, Bool.true_and]
    rw [result]
    generalize subscriptions.leftover _ _ _ = left
    generalize subscriptions.exec _ faults world = reached at done ⊢
    obtain ⟨outcome, after⟩ := reached
    cases outcome with
    | ok returned =>
      have copied : after = world.mirrored (renewed addMonths subscription world.now) := by
        cases done with
        | unwanted none => exact absurd (.renews stored auto) (none _)
        | mirrored change => exact congrArg world.mirrored (renewal _ change)
      subst copied
      have last : subscriptions.wp (updateUserSubscriptionStatus subscription.userId subscription)
          (fun outcome after => Swept addMonths world subscription true outcome.isOk after)
          (world.mirrored (renewed addMonths subscription world.now)) :=
        ⟨.renewed rfl, fun _ _ => .failed rfl
          (.inr ⟨renewed addMonths subscription world.now, rfl, rfl, rfl⟩)⟩
      exact subscriptions.wp_sound last left
    | error error =>
      have written : RowWritten subscription world after := by
        cases done with
        | refused => exact .inl rfl
        | stored change =>
          rw [renewal _ change]
          exact .inr ⟨renewed addMonths subscription world.now, rfl, rfl, rfl⟩
      exact subscriptions.wp_sound (swept_lapse .suspended rfl nofun written) left
  · have failure : renews addMonths subscription faults world = false := by
      rw [renews, Bool.eq_false_iff.mpr auto, Bool.false_and]
    rw [if_neg auto]
    exact subscriptions.wp_sound (swept_lapse .expired failure nofun (.inl rfl)) faults

end

/-! ### Histories -/

/-- A call, when, and the failures of what it awaits. -/
structure Attempt where
  call : SubscriptionCall
  now : Date
  faults : List Fault := []

/-- The world a call begins in. -/
def Attempt.found (attempt : Attempt) (world : World) : World :=
  { world with now := attempt.now }

def attemptStep (addMonths : Calendar) (world : World) (attempt : Attempt) :
    World :=
  (subscriptions.exec (attempt.call.program addMonths) attempt.faults (attempt.found world)).2

/-- No user has two ACTIVE subscriptions. -/
def OneActive (world : World) : Prop :=
  ∀ id other first second, world.subscriptions.row id = some first →
    world.subscriptions.row other = some second →
      first.userId = second.userId → first.status = .active → second.status = .active → id = other

/-- CANCELLED, EXPIRED or SUSPENDED. -/
def Ended : SubscriptionStatus → Bool
  | .cancelled | .expired | .suspended => true
  | .active | .pending => false

/-- The look-up and the save of a renewal go through. -/
def savesRenewal (faults : List Fault) : Bool :=
  (faults.headD none).isNone && (faults.tail.tail.headD none).isNone

/-- No other subscription of the user is ACTIVE. -/
def alone (world : World) (subscription : Subscription) : Bool :=
  world.subscriptions.rows.all fun other =>
    other.userId ≠ subscription.userId ∨ other.status ≠ .active ∨ other.id = subscription.id

/-- A renewal that is saved finds a subscription that meets a test. -/
def renewsOnly (test : World → Subscription → Bool) (world : World) (attempt : Attempt) : Bool :=
  match attempt.call with
  | .processRenewal id =>
    !savesRenewal attempt.faults || (world.subscriptions.row id).all fun subscription =>
        !subscription.autoRenew || test world subscription
  | _ => true

/-- A renewal that is saved finds a subscription that has not ended, and no
other one of its user ACTIVE. -/
def Orderly (world : World) (attempt : Attempt) : Bool :=
  renewsOnly (fun _ subscription => !Ended subscription.status) world attempt &&
    renewsOnly alone world attempt

/-! ### What a step keeps -/

/-- Nothing becomes ACTIVE, and what has ended stays so. -/
structure Still (world after : World) : Prop where
  active : ∀ id later, after.subscriptions.row id = some later → later.status = .active → ∃ earlier,
      world.subscriptions.row id = some earlier ∧
        earlier.userId = later.userId ∧ earlier.status = .active
  ended : ∀ id earlier, world.subscriptions.row id = some earlier →
    Ended earlier.status = true → ∃ later,
      after.subscriptions.row id = some later ∧ Ended later.status = true

section

variable {addMonths : Calendar} {world after : World} {subscription : Subscription}

theorem Still.of_rows (rows : after.subscriptions = world.subscriptions) :
    Still world after := by
  constructor
  · simp_all
  · simp_all

theorem Still.trans {middle : World} (first : Still world middle)
    (second : Still middle after) : Still world after := by
  constructor
  · grind [active]
  · grind [ended]

theorem Still.oneActive (still : Still world after) (one : OneActive world) :
    OneActive after := by
  intro id other first second foundFirst foundSecond same active activeSecond
  obtain ⟨earlier, stored, owner, wasActive⟩ := still.active id first foundFirst active
  obtain ⟨earlierSecond, storedSecond, ownerSecond, wasActiveSecond⟩ :=
    still.active other second foundSecond activeSecond
  exact one id other earlier earlierSecond stored storedSecond
    (owner.trans (same.trans ownerSecond.symm)) wasActive wasActiveSecond

variable {row : Subscription} {id : Id} {rows : List Subscription} {faults : List Fault}
  {now : Date} {attempt : Attempt}

theorem Still.of_save (rows : after.subscriptions = world.subscriptions.save row)
    (rises : row.status = .active → ∃ earlier, world.subscriptions.row row.id = some earlier ∧
        earlier.userId = row.userId ∧ earlier.status = .active)
    (unended : ∀ earlier, world.subscriptions.row row.id = some earlier →
      Ended earlier.status = false) : Still world after := by
  constructor
  · intro id later stored active
    rw [rows, Table.row_save] at stored
    split at stored
    next same =>
      cases stored
      subst same
      exact rises active
    next => exact ⟨later, stored, rfl, active⟩
  · intro id earlier stored ended
    refine ⟨earlier, ?_, ended⟩
    rw [rows, Table.row_save_of_ne]
    · exact stored
    · rintro rfl
      rw [unended earlier stored] at ended
      cases ended

theorem Still.of_active (rows : after.subscriptions = world.subscriptions.save row)
    (stored : world.subscriptions.row subscription.id = some subscription)
    (active : subscription.status = .active) (same : row.id = subscription.id)
    (owner : row.userId = subscription.userId) : Still world after := by
  apply Still.of_save rows
  · exact fun _ => ⟨subscription, same ▸ stored, owner.symm, active⟩
  · intro earlier found
    rw [same, stored] at found
    cases found
    rw [active]
    rfl

/-! ### The check -/

theorem OneRow.still (oneRow : OneRow subscription world after)
    (stored : world.subscriptions.row subscription.id = some subscription)
    (active : subscription.status = .active) : Still world after := by
  rcases oneRow with same | ⟨row, same, owner, rows⟩
  · exact .of_rows same
  · exact .of_active rows stored active same owner

theorem OneRow.others (oneRow : OneRow subscription world after) (other : id ≠ subscription.id) :
    after.subscriptions.row id = world.subscriptions.row id := by
  rcases oneRow with same | ⟨row, same, owner, rows⟩
  · rw [same]
  · rw [rows]
    exact Table.row_save_of_ne _ _ fun here => other (here.trans same)

/-- The rows a check has found, as they are still stored. -/
structure Pending (world : World) (rows : List Subscription) : Prop where
  stored : ∀ row ∈ rows, world.subscriptions.row row.id = some row
  active : ∀ row ∈ rows, row.status = .active
  distinct : rows.Pairwise fun row other => row.id ≠ other.id

theorem pending_expiredAt (world : World) (now : Date) :
    Pending world (world.expiredAt now) where
  stored _ member := Table.mem_rows.mp (List.mem_filter.mp member).1
  active _ member :=
    (of_decide_eq_true (List.mem_filter.mp member).2).1
  distinct := world.subscriptions.rows_pairwise.filter _

theorem Pending.tail (pending : Pending world (subscription :: rows))
    (oneRow : OneRow subscription world after) : Pending after rows := by
  obtain ⟨distinct, distinctTail⟩ := List.pairwise_cons.mp pending.distinct
  constructor
  · intro row member
    rw [oneRow.others (distinct row member).symm]
    exact pending.stored row (List.mem_cons_of_mem _ member)
  · exact fun row member => pending.active row (List.mem_cons_of_mem _ member)
  · exact distinctTail

theorem still_loop (pending : Pending world rows) (faults : List Fault) :
    Still world (subscriptions.exec (rows.forM (checkExpired addMonths))
      faults world).2 := by
  induction rows generalizing world faults with
  | nil => exact .of_rows rfl
  | cons head rows ih =>
    have swept := swept_checkExpired addMonths (pending.stored head List.mem_cons_self) faults
    have still := swept.oneRow.still (pending.stored head List.mem_cons_self)
      (pending.active head List.mem_cons_self)
    show Still world (subscriptions.exec (checkExpired addMonths head >>=
      fun _ => rows.forM (checkExpired addMonths)) faults world).2
    cases outcome : (subscriptions.exec (checkExpired addMonths head) faults world).1 with
    | error error =>
      rw [exec_bind_error outcome]
      exact still
    | ok value =>
      rw [exec_bind_ok outcome]
      exact still.trans (ih (pending.tail swept.oneRow) _)

theorem still_check (faults : List Fault) :
    Still world (subscriptions.exec (checkExpiredSubscriptions addMonths)
      faults world).2 := by
  unfold checkExpiredSubscriptions
  rw [exec_await_acts (.inr rfl)]
  cases loads : faults.tail.headD none with
  | none =>
    rw [exec_await_acts (.inl loads)]
    exact still_loop (pending_expiredAt world world.now) _
  | some error =>
    rw [exec_await_fails loads rfl]
    exact .of_rows rfl

/-! ### The other calls -/

def StaysEnded (world after : World) : Prop :=
  ∀ id earlier, world.subscriptions.row id = some earlier → Ended earlier.status = true → ∃ later,
      after.subscriptions.row id = some later ∧ Ended later.status = true

theorem unsaved_processRenewal (unsaved : savesRenewal faults = false) :
    (subscriptions.exec (processRenewal addMonths id) faults world).2 =
      world := by
  unfold processRenewal
  cases loads : faults.headD none with
  | some error => rw [exec_await_fails loads rfl]
  | none =>
    rw [savesRenewal, loads, Option.isNone_none, Bool.true_and] at unsaved
    rw [exec_await_acts (.inl loads)]
    simp only [act]
    cases world.subscriptions.row id with
    | none => rfl
    | some subscription =>
      simp only
      split
      next => rfl
      next =>
        rw [exec_await_acts (.inr rfl)]
        cases saves : faults.tail.tail.headD none with
        | none =>
          rw [saves] at unsaved
          cases unsaved
        | some error =>
          rw [exec_await_fails saves rfl]
          rfl

theorem alone_iff : alone world subscription = true ↔
    ∀ id other, world.subscriptions.row id = some other →
      other.userId = subscription.userId → other.status = .active → id = subscription.id := by
  rw [alone, List.all_eq_true]
  constructor
  · intro all id other stored owner active
    have key : other.id = id := world.subscriptions.keyed stored
    have said := all other (Table.mem_rows_of_row stored)
    simp_all
  · intro all other member
    rw [decide_eq_true_eq]
    by_cases owner : other.userId = subscription.userId
    · by_cases active : other.status = .active
      · exact .inr (.inr (all _ other (Table.mem_rows.mp member) owner active))
      · exact .inr (.inl active)
    · exact .inl owner

theorem row_renewed (rows : after.subscriptions = world.subscriptions.save
      (renewed addMonths subscription now)) (id : Id) :
    after.subscriptions.row id = if id = subscription.id then
        some (renewed addMonths subscription now)
      else world.subscriptions.row id := by
  rw [rows]
  exact Table.row_save _ _ _

theorem oneActive_renewed (one : OneActive world) (isAlone : alone world subscription = true)
    (rows : after.subscriptions = world.subscriptions.save
      (renewed addMonths subscription now)) : OneActive after := by
  have others := alone_iff.mp isAlone
  intro id other first second foundFirst foundSecond same active activeSecond
  rw [row_renewed rows] at foundFirst foundSecond
  split at foundFirst <;> split at foundSecond
  next here there => exact here.trans there.symm
  next here _ =>
    cases foundFirst
    exact here.trans (others other second foundSecond same.symm activeSecond).symm
  next _ there =>
    cases foundSecond
    exact (others id first foundFirst same active).trans there.symm
  next => exact one id other first second foundFirst foundSecond same active activeSecond

theorem staysEnded_renewed (stored : world.subscriptions.row subscription.id = some subscription)
    (unended : Ended subscription.status = false)
    (rows : after.subscriptions = world.subscriptions.save
      (renewed addMonths subscription now)) : StaysEnded world after := by
  intro id earlier found ended
  refine ⟨earlier, ?_, ended⟩
  rw [row_renewed rows, if_neg]
  · exact found
  · grind

theorem still_change {call : SubscriptionCall} (change : Change addMonths world call subscription)
    (rows : after.subscriptions = world.subscriptions.save subscription) :
    Still world after ∨ ∃ id current, call = .processRenewal id ∧
      world.subscriptions.row id = some current ∧ current.autoRenew = true ∧
        subscription = renewed addMonths current world.now := by
  cases change with
  | creates none fresh owner pending => grind [Still.of_save, Table.row_next]
  | upgrades found same owner pending =>
    obtain ⟨stored, -, active⟩ := activeOf_some found
    exact .inl (.of_active rows stored active same owner)
  | cancels found same owner cancelled =>
    obtain ⟨stored, -, active⟩ := activeOf_some found
    exact .inl (.of_active rows stored active same owner)
  | renews found auto => exact .inr ⟨_, _, rfl, found, auto, rfl⟩

variable (addMonths world) in
/-- What a call does to the rows, whatever fails: it keeps them still, or it
saves a renewal. -/
theorem still_call (call : SubscriptionCall) (faults : List Fault) :
    Still world (subscriptions.exec (call.program addMonths) faults world).2 ∨
      ∃ id current, call = .processRenewal id ∧ world.subscriptions.row id = some current ∧
          current.autoRenew = true ∧ savesRenewal faults = true ∧
            (subscriptions.exec (call.program addMonths) faults world).2.subscriptions =
              world.subscriptions.save (renewed addMonths current world.now) := by
  by_cases check : call = .checkExpiredSubscriptions
  · subst check
    exact .inl (still_check faults)
  by_cases unsaved : ∃ id, call = .processRenewal id ∧ savesRenewal faults = false
  · obtain ⟨id, rfl, unsaved⟩ := unsaved
    refine .inl (.of_rows ?_)
    show (subscriptions.exec (processRenewal addMonths id >>= fun _ =>
      (pure () : Service Unit)) faults world).2.subscriptions = _
    simp_all [exec_discard, unsaved_processRenewal]
  have saved {after : World} {row : Subscription} (change : Change addMonths world call row)
      (rows : after.subscriptions = world.subscriptions.save row) :
      Still world after ∨ ∃ id current, call = .processRenewal id ∧
        world.subscriptions.row id = some current ∧
          current.autoRenew = true ∧ savesRenewal faults = true ∧
            after.subscriptions = world.subscriptions.save
              (renewed addMonths current world.now) := by grind [still_change]
  have done := subscriptions.wp_sound (done_program addMonths world check) faults
  generalize subscriptions.exec _ faults world = reached at done ⊢
  obtain ⟨outcome, after⟩ := reached
  generalize outcome.isOk = returns at done
  cases done with
  | refused => exact .inl (.of_rows rfl)
  | unwanted => exact .inl (.of_rows rfl)
  | stored change => exact saved change rfl
  | mirrored change => exact saved change rfl

theorem renewsOnly_saved {test : World → Subscription → Bool}
    (only : renewsOnly test world ⟨.processRenewal id, now, faults⟩ = true)
    (found : world.subscriptions.row id = some subscription) (auto : subscription.autoRenew = true)
    (saves : savesRenewal faults = true) : test world subscription = true := by
  simpa [renewsOnly, found, auto, saves] using only

variable (addMonths) in
theorem oneActive_step (one : OneActive world) (isAlone : renewsOnly alone world attempt = true) :
    OneActive (attemptStep addMonths world attempt) := by
  obtain ⟨call, now, faults⟩ := attempt
  rcases still_call addMonths { world with now } call faults with
    still | ⟨id, current, rfl, found, auto, saves, rows⟩
  · exact still.oneActive one
  · exact oneActive_renewed one (renewsOnly_saved isAlone found auto saves) rows

variable (addMonths) in
theorem staysEnded_step
    (unended : renewsOnly (fun _ subscription => !Ended subscription.status) world attempt = true) :
    StaysEnded world (attemptStep addMonths world attempt) := by
  obtain ⟨call, now, faults⟩ := attempt
  rcases still_call addMonths { world with now } call faults with
    still | ⟨id, current, rfl, found, auto, saves, rows⟩
  · exact still.ended
  · have key : current.id = id := world.subscriptions.keyed found
    have going := renewsOnly_saved unended found auto saves
    have stored : world.subscriptions.row current.id = some current := by
      rw [key]
      exact found
    exact staysEnded_renewed stored (by simpa using going) rows

end

/-! ### Every history -/

theorem run_orderly {addMonths : Calendar} {start : World}
    {attempts : List Attempt} (one : OneActive start) (orderly : Along (attemptStep addMonths)
      (fun world attempt => Orderly world attempt = true) start attempts) :
    OneActive (run (attemptStep addMonths) start attempts) ∧
      StaysEnded start (run (attemptStep addMonths) start attempts) := by
  induction attempts generalizing start with
  | nil => exact ⟨one, fun id earlier stored ended => ⟨earlier, stored, ended⟩⟩
  | cons attempt attempts ih =>
    obtain ⟨unended, isAlone⟩ := (Bool.and_eq_true _ _).mp orderly.1
    have first := oneActive_step addMonths one isAlone
    have stays := staysEnded_step addMonths unended
    obtain ⟨last, rest⟩ := ih first orderly.2
    refine ⟨last, fun id earlier stored ended => ?_⟩
    obtain ⟨between, storedBetween, endedBetween⟩ := stays id earlier stored ended
    exact rest id between storedBetween endedBetween

/-- In every history whose renewals are orderly, whatever fails, no user has
two ACTIVE subscriptions, and a subscription that has ended is not ACTIVE
later. -/
theorem at_most_one_active (addMonths : Calendar) {start : World}
    (one : OneActive start) (attempts : List Attempt) (orderly : Along (attemptStep addMonths)
      (fun world attempt => Orderly world attempt = true) start attempts) :
    OneActive (run (attemptStep addMonths) start attempts) ∧
      ∀ front back, attempts = front ++ back → ∀ id earlier later,
        (run (attemptStep addMonths) start front).subscriptions.row id = some earlier →
          Ended earlier.status = true →
            (run (attemptStep addMonths) start attempts).subscriptions.row id = some later →
              later.status ≠ .active := by
  refine ⟨(run_orderly one orderly).1, ?_⟩
  rintro front back rfl id earlier later stored ended storedLater active
  obtain ⟨orderlyFront, orderlyBack⟩ := Along.append_iff.mp orderly
  have middle := (run_orderly one orderlyFront).1
  obtain ⟨last, found, endedLast⟩ :=
    (run_orderly middle orderlyBack).2 id earlier stored ended
  have same : run (attemptStep addMonths) start (front ++ back) = run (attemptStep addMonths)
        (run (attemptStep addMonths) start front) back := List.foldl_append
  rw [same, found] at storedLater
  cases storedLater
  rw [active] at endedLast
  cases endedLast

/-! ### One user -/

/-- Months of thirty days. -/
def plainCalendar : Calendar := fun date months => date + months * 2592000000

/-- User 7 has no subscription yet. -/
def newUser : World where
  subscriptions := .empty
  users _ := {}
  now := 0

def subscribe : Attempt where
  call := .createSubscription 7 { tier := some .basic, billingCycle := .monthly }
  now := 1000

def renew (id : Id) (now : Date) : Attempt where
  call := .processRenewal id
  now := now

theorem newUser_oneActive : OneActive newUser := by
  intro id other first second stored
  cases stored

theorem renewed_then_cancelled :
    let attempts := [subscribe, renew 0 2000,
      { call := .cancelSubscription 7 none, now := 3000 }, renew 0 4000]
    OneActive (run (attemptStep plainCalendar) newUser attempts) ∧
      ∀ front back, attempts = front ++ back → ∀ id earlier later,
        (run (attemptStep plainCalendar) newUser front).subscriptions.row id = some earlier →
          Ended earlier.status = true → (run (attemptStep plainCalendar) newUser
                attempts).subscriptions.row id = some later → later.status ≠ .active :=
  at_most_one_active plainCalendar newUser_oneActive _ (by decide)

/-- Two subscriptions are created, neither of which is ACTIVE yet, and both
are renewed. -/
theorem two_active_subscriptions :
    OneActive newUser ∧ ¬ OneActive (run (attemptStep plainCalendar) newUser
        [subscribe, subscribe, renew 0 2000, renew 1 3000]) := by
  refine ⟨newUser_oneActive, fun one => ?_⟩
  have both : ∀ id ∈ [0, 1], ((run (attemptStep plainCalendar) newUser
      [subscribe, subscribe, renew 0 2000, renew 1 3000]).subscriptions.row
        id).map (fun subscription =>
          (subscription.userId, subscription.status)) = some (7, .active) := by decide
  obtain ⟨first, foundFirst, sameFirst⟩ := Option.map_eq_some_iff.mp (both 0 (by simp))
  obtain ⟨second, foundSecond, sameSecond⟩ := Option.map_eq_some_iff.mp (both 1 (by simp))
  rw [Prod.mk.injEq] at sameFirst sameSecond
  have same := one 0 1 first second foundFirst foundSecond
    (sameFirst.1.trans sameSecond.1.symm) sameFirst.2 sameSecond.2
  cases same

end MarketX.Subscriptions
