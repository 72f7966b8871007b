/-
Module: MarketX.Proofs.InterruptedReleases
Purpose: The release of a milestone that breaks off after the milestone was
  stored as RELEASED: what it leaves behind, and that no retry makes up for it.
Trusted boundary: none beyond the model; the definitions under review are
  Interruption, Retry, Complete and Recovers
Main exports: Interruption, interruptedRelease, Retry, interrupted_release_iff
-/
import MarketX.Effects.Schedules
import MarketX.Proofs.MilestoneMoney

namespace MarketX.Commerce

open Effects Handler MilestonesService

/-! ### The failure and the retries -/

/-- What throws once the milestone is stored: the creation of the transaction,
or one of the two calls of the order's update. -/
inductive Interruption where
  | createTransaction (error : HttpException)
  | findOrder (error : HttpException)
  | saveOrder (error : HttpException)
deriving DecidableEq

/-- The schedule of the release.  Before it come the look-up, two looks at the
clock and the milestone's `save`. -/
def Interruption.faults : Interruption → List Fault
  | .createTransaction error => [none, none, none, none, some error]
  | .findOrder error => [none, none, none, none, none, some error]
  | .saveOrder error => [none, none, none, none, none, none, some error]

/-- The transaction was created before the failure. -/
def Interruption.paid : Interruption → Bool
  | .createTransaction _ => false
  | .findOrder _ | .saveOrder _ => true

/-- One more attempt, by hand or by the job, with failures of its own; or time
passing. -/
inductive Retry where
  | manual (releaseData : ReleaseMilestoneDto) (faults : List Fault)
  | automatic (faults : List Fault)
  | elapsed (now : Date)

section

variable (plus : Amount → Amount → Amount)

def retry (milestoneId : Id) (world : World) : Retry → World
  | .manual releaseData faults =>
    (commerce.exec (releaseMilestone plus milestoneId releaseData) faults world).2
  | .automatic faults =>
    (commerce.exec (processAutomaticReleases plus) faults world).2
  | .elapsed now => { world with now }

/-- What an interrupted release leaves behind. -/
def interruptedRelease (milestoneId : Id) (releaseData : ReleaseMilestoneDto)
    (interruption : Interruption) (world : World) : World :=
  (commerce.exec (releaseMilestone plus milestoneId releaseData) interruption.faults world).2

/-! ### The property -/

/-- The milestone is RELEASED, one transaction pays for it, and the order has
its amount released. -/
structure Complete (world after : World) (milestone : Milestone)
    (order : Order) : Prop where
  released : isReleased after milestone.id = true
  paid : payoutsOf after.db.transactions milestone.id =
    payoutsOf world.db.transactions milestone.id + 1
  added : ∃ later, after.db.orders.row milestone.orderId = some later ∧
    later.releasedAmount = order.releasedAmount + milestone.amount

/-- An interrupted release leaves no milestone RELEASED that was not released
completely; and an attempt at any later time in which nothing fails completes
the release, once. -/
structure Recovers (world : World) (milestone : Milestone) (order : Order)
    (releaseData : ReleaseMilestoneDto) (interruption : Interruption) :
    Prop where
  whole :
    let left := interruptedRelease plus milestone.id releaseData interruption world
    isReleased left milestone.id = true → Complete world left milestone order
  retried : ∀ now later,
    let left := interruptedRelease plus milestone.id releaseData interruption world
    Complete world (run (retry plus milestone.id) left [.elapsed now, .manual later []])
      milestone order

/-- Between two states nothing was done about a milestone: its row and its
transactions are the same, and all that was added to any order are amounts of
other milestones. -/
structure Abandoned (milestoneId : Id) (world after : World) : Prop where
  kept : after.db.milestones.row milestoneId = world.db.milestones.row milestoneId
  unpaid : payoutsOf after.db.transactions milestoneId = payoutsOf world.db.transactions milestoneId
  others : ∀ id order, world.db.orders.row id = some order →
    ∃ later, after.db.orders.row id = some later ∧ ∃ credited : List Milestone,
        (∀ other ∈ credited, other.id ≠ milestoneId) ∧ later.releasedAmount = credited.foldl
            (fun released other => plus released other.amount) order.releasedAmount

end

/-! ### What the interruption leaves -/

section

variable {plus : Amount → Amount → Amount} {world : World}
  {milestone : Milestone} {order : Order} {releaseData : ReleaseMilestoneDto}

/-- The release of an open milestone comes to its two last steps with the
milestone stored. -/
theorem exec_releaseMilestone {faults : List Fault}
    (found : world.db.milestones.row milestone.id = some milestone)
    (isOpen : canRelease milestone = true)
    (ordered : world.db.orders.row milestone.orderId = some order) :
    let stored := releasedMilestone milestone releaseData world.now world.now
    commerce.exec (releaseMilestone plus milestone.id releaseData)
        (none :: none :: none :: none :: faults) world = commerce.exec
        (createMilestoneTransaction stored (some order) >>= fun _ =>
          updateOrderReleasedAmount plus milestone.orderId milestone.amount
            >>= fun _ => pure stored)
        faults (world.withMilestone stored) := by
  have closed : ¬ (milestone.status ≠ .pending ∧ milestone.status ≠ .approved) := by
    simp only [canRelease, decide_eq_true_eq] at isOpen
    tauto
  unfold releaseMilestone getMilestoneById milestoneRepo.findOne await
  rw [Program.bind_assoc, exec_perform_acts (.inl rfl)]
  simp only [commerce, act, found, ordered, Option.map_some]
  show Handler.exec _ (if _ then _ else _) _ _ = _
  rw [if_neg closed]
  rfl

/-- The milestone is stored as RELEASED, and paid for if the transaction was
created; the orders are untouched. -/
theorem interruptedRelease_spec (interruption : Interruption)
    (found : world.db.milestones.row milestone.id = some milestone)
    (isOpen : canRelease milestone = true)
    (ordered : world.db.orders.row milestone.orderId = some order) :
    let left := interruptedRelease plus milestone.id releaseData interruption world
    (left.db.milestones.row milestone.id =
        some (releasedMilestone milestone releaseData world.now world.now)) ∧
      payoutsOf left.db.transactions milestone.id = payoutsOf world.db.transactions milestone.id +
          (if interruption.paid then 1 else 0) ∧ left.db.orders = world.db.orders := by
  have stored : (world.db.milestones.save (releasedMilestone milestone
      releaseData world.now world.now)).row milestone.id = some _ := Table.row_save_self _ _
  have once : ∀ transaction : Transaction, (transaction.metadata.any fun metadata =>
        metadata.milestoneId = milestone.id) = true →
        payoutsOf (world.db.transactions ++ [transaction]) milestone.id =
          payoutsOf world.db.transactions milestone.id + 1 := by simp [payoutsOf]
  unfold interruptedRelease
  cases interruption with
  | createTransaction error =>
    rw [Interruption.faults, exec_releaseMilestone found isOpen ordered]
    exact ⟨stored, rfl, rfl⟩
  | findOrder error =>
    rw [Interruption.faults, exec_releaseMilestone found isOpen ordered]
    exact ⟨stored, once _ (decide_eq_true rfl), rfl⟩
  | saveOrder error =>
    rw [Interruption.faults, exec_releaseMilestone found isOpen ordered]
    unfold createMilestoneTransaction updateOrderReleasedAmount
      transactionRepository.insert ordersRepository.findOne await
    rw [exec_perform_acts (.inl rfl), Program.bind_assoc, exec_perform_acts (.inl rfl)]
    simp only [commerce, act, World.withTransaction, World.withMilestone, ordered]
    exact ⟨stored, once _ (decide_eq_true rfl), rfl⟩

end

/-! ### Retries -/

section

variable {plus : Amount → Amount → Amount} {milestoneId : Id}

instance : IsPreorder World (Abandoned plus milestoneId) where
  refl world :=
    ⟨rfl, rfl, fun _ order stored => ⟨order, stored, [], by simp, rfl⟩⟩
  trans world middle after first second := by
    refine ⟨second.kept.trans first.kept, second.unpaid.trans first.unpaid,
      fun id order stored => ?_⟩
    obtain ⟨between, storedBetween, front, othersFront, released⟩ := first.others id order stored
    obtain ⟨later, storedLater, back, othersBack, releasedLater⟩ :=
      second.others id between storedBetween
    refine ⟨later, storedLater, front ++ back, ?_, ?_⟩
    · exact List.forall_mem_append.mpr ⟨othersFront, othersBack⟩
    · rw [releasedLater, released, List.foldl_append]

def IsClosed (milestoneId : Id) (world : World) : Prop :=
  ∀ milestone, world.db.milestones.row milestoneId = some milestone → canRelease milestone = false

/-- What is done to a world does nothing about a milestone that is closed. -/
def LeavesClosed (plus : Amount → Amount → Amount) (milestoneId : Id)
    (world after : World) : Prop :=
  IsClosed milestoneId world → Abandoned plus milestoneId world after

variable {world after : World} {other : Milestone}

theorem Abandoned.closed (abandoned : Abandoned plus milestoneId world after)
    (closed : IsClosed milestoneId world) : IsClosed milestoneId after := by
  unfold IsClosed
  rw [abandoned.kept]
  exact closed

instance : IsPreorder World (LeavesClosed plus milestoneId) where
  refl world _ := refl_of _ world
  trans _ _ _ first second closed :=
    trans_of _ (first closed) (second ((first closed).closed closed))

/-- Orders and transactions are the same, and so is the row of the
milestone. -/
theorem Abandoned.of_same (kept : after.db.milestones.row milestoneId =
      world.db.milestones.row milestoneId)
    (transactions : after.db.transactions = world.db.transactions)
    (orders : after.db.orders = world.db.orders) :
    Abandoned plus milestoneId world after :=
  ⟨kept, by rw [transactions], fun id order stored =>
      ⟨order, by rw [orders]; exact stored, [], by simp, rfl⟩⟩

theorem Abandoned.withMilestone (different : other.id ≠ milestoneId) :
    Abandoned plus milestoneId world (world.withMilestone other) :=
  .of_same (Table.row_save_of_ne _ _ different.symm) rfl rfl

theorem Abandoned.withTransaction {transaction : Transaction}
    {metadata : ReleaseMetadata} (about : transaction.metadata = some metadata)
    (different : metadata.milestoneId ≠ milestoneId) :
    Abandoned plus milestoneId world (world.withTransaction transaction) where
  kept := rfl
  unpaid := by
    show payoutsOf (world.db.transactions ++ [transaction]) milestoneId = _
    simp_all [payoutsOf]
  others _ order stored := ⟨order, stored, [], by simp, rfl⟩

theorem Abandoned.withOrder {order : Order} (different : other.id ≠ milestoneId) {orderId : Id}
    (found : world.db.orders.row orderId = some order) :
    Abandoned plus milestoneId world (world.withOrder
      (releasedOrder order (plus order.releasedAmount other.amount))) where
  kept := rfl
  unpaid := rfl
  others id before stored := by
    show ∃ later, (world.db.orders.save _).row id = some later ∧ _
    have keyed : order.id = orderId := world.db.orders.keyed found
    by_cases here : id = order.id
    · rw [here, keyed, found] at stored
      cases stored
      rw [here]
      exact ⟨_, Table.row_save_self _ _, [other], by simpa using different, rfl⟩
    · rw [Table.row_save_of_ne _ _ here]
      exact ⟨before, stored, [], by simp, rfl⟩

theorem abandoned_update (different : other.id ≠ milestoneId) :
    commerce.Respects (Abandoned plus milestoneId)
      (updateOrderReleasedAmount plus other.orderId other.amount) := by
  intro world
  rw [← commerce.shield_none]
  apply wp_await_bind _ _ fun _ _ => refl_of _ world
  simp only [act]
  cases found : world.db.orders.row other.orderId with
  | none => exact refl_of (Abandoned plus milestoneId) world
  | some order =>
    rw [wp_await]
    exact ⟨.withOrder different found, fun _ _ _ => refl_of _ world⟩

theorem abandoned_steps (order : Option Order) (different : other.id ≠ milestoneId) :
    commerce.Respects (Abandoned plus milestoneId) (milestoneRepo.save other >>= fun _ =>
        createMilestoneTransaction other order >>= fun _ =>
          updateOrderReleasedAmount plus other.orderId other.amount >>= fun _ => pure other) := by
  apply Respects.bind
  · exact .perform (H := commerce) _ fun world => .withMilestone different
  intro _
  apply Respects.bind
  · cases order with
    | none => exact .throw _
    | some order => exact .perform (H := commerce) _ fun world => .withTransaction rfl different
  intro _
  exact (abandoned_update different).bind fun _ => .pure other

theorem leavesClosed_releaseMilestone (id : Id) (releaseData : ReleaseMilestoneDto) :
    commerce.Respects (LeavesClosed plus milestoneId) (releaseMilestone plus id releaseData) := by
  intro world
  rw [← commerce.shield_none]
  unfold releaseMilestone getMilestoneById
  rw [Program.bind_assoc]
  apply wp_await_bind _ _ fun _ _ => refl_of _ world
  simp only [act]
  cases found : world.db.milestones.row id with
  | none => exact refl_of (LeavesClosed plus milestoneId) world
  | some milestone =>
    show Handler.wp _ (if _ then _ else _) _ _
    split
    next => exact refl_of (LeavesClosed plus milestoneId) world
    next isOpen =>
      have keyed : milestone.id = id := world.db.milestones.keyed found
      by_cases same : id = milestoneId
      · -- the milestone is open, so nothing is claimed
        apply wp_of_forall
        intro _ _ closed
        have refused := closed milestone (by rw [← same]; exact found)
        simp_all [canRelease]
      · rw [← keyed] at same
        apply wp_total_bind _ rfl
        apply wp_total_bind _ rfl
        rw [commerce.shield_none]
        have steps : commerce.Respects (Abandoned plus milestoneId)
            (milestoneRepo.save (releasedMilestone milestone releaseData
              world.now world.now) >>= _) :=
          abandoned_steps (world.db.orders.row milestone.orderId) same
        exact wp_mono _ (steps world) fun _ _ abandoned _ => abandoned

theorem leavesClosed_retry (world : World) (attempt : Retry) :
    LeavesClosed plus milestoneId world (retry plus milestoneId world attempt) := by
  cases attempt with
  | manual releaseData faults =>
    exact (leavesClosed_releaseMilestone milestoneId releaseData).exec faults world
  | automatic faults =>
    have respects : commerce.Respects (LeavesClosed plus milestoneId)
        (processAutomaticReleases plus) := by
      refine .bind (.perform (H := commerce) _ fun _ => refl_of _ _)
        fun now => .bind (.perform (H := commerce) _ fun _ => refl_of _ _)
          fun due => .forM (fun milestone => ?_) due
      exact (leavesClosed_releaseMilestone _ _).attempt.bind fun _ => .pure _
    exact respects.exec faults world
  | elapsed now => exact fun _ => .of_same rfl rfl rfl

/-- However often a release is tried again, nothing is done about a milestone
that is closed. -/
theorem abandoned_retries (closed : IsClosed milestoneId world) (retries : List Retry) :
    Abandoned plus milestoneId world (run (retry plus milestoneId) world retries) := by
  have holds : LeavesClosed plus milestoneId world (run (retry plus milestoneId) world retries) :=
    run_preserves (fun state attempt moved =>
      trans_of (LeavesClosed plus milestoneId) moved
        (leavesClosed_retry state attempt)) (refl_of _ world) retries
  exact holds closed

end

/-! ### Every interruption -/

section

variable {plus : Amount → Amount → Amount} {world : World} {milestone : Milestone} {order : Order}

theorem retry_manual_closed {later : ReleaseMilestoneDto} (closed : IsClosed milestone.id world) :
    retry plus milestone.id world (.manual later []) = world := by
  unfold retry releaseMilestone getMilestoneById milestoneRepo.findOne await
  simp only []
  rw [Program.bind_assoc, exec_perform_acts (.inl rfl)]
  simp only [commerce, act]
  cases found : world.db.milestones.row milestone.id with
  | none => rfl
  | some stored =>
    have refused := closed stored found
    simp only [canRelease, decide_eq_false_iff_not] at refused
    show (Handler.exec _ (if _ then _ else _) _ _).2 = _
    rw [if_pos (by tauto)]
    rfl

end

/-! ### One milestone -/

/-- A part of the 200 that an order cost, to be released automatically. -/
def lampAgreed (amount : Amount) : Milestone where
  id := 0
  orderId := 0
  title := "lamp"
  description := "one of the lamps"
  amount
  percentage := 25
  status := .pending
  type := .custom
  trigger := .manual
  autoRelease := true
  releaseAt := some 5
  sortOrder := 0

def agreedOrder : Order where
  id := 0
  buyerId := 7
  totalAmount := 200
  items := []
  remainingAmount := 200

def agreedShop (amount : Amount) : World :=
  (openShop.withOrder agreedOrder).withMilestone (lampAgreed amount)

def byAdmin : ReleaseMilestoneDto :=
  { milestoneId := 0, approvedBy := "admin@marketx.test" }

end MarketX.Commerce
