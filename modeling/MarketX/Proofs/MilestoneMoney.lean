/-
Module: MarketX.Proofs.MilestoneMoney
Purpose: When the milestones of an order, the money released for them and the
  totals of the order agree, over whole runs of the milestones service.
Trusted boundary: human-reviewed definition of MoneyHolds, Accountable and
  Unreleased
Main exports: MoneyHolds, Accountable, MoneyBalanced, milestone_money_holds
-/
import MarketX.Effects.Totals
import MarketX.Commerce.MilestonesService
import MarketX.Commerce.Runs

namespace MarketX.Commerce

open Effects Handler MilestonesService

/-! ### The property -/

def plannedOf (milestones : Table Milestone) (orderId : Id) : Amount :=
  milestones.total fun milestone =>
    if milestone.orderId = orderId then milestone.amount else 0

def releasedOf (milestones : Table Milestone) (everReleased : Id → Bool) (orderId : Id) : Amount :=
  milestones.total fun milestone =>
    if milestone.orderId = orderId ∧ everReleased milestone.id = true then
      milestone.amount
    else 0

def payoutsOf (transactions : List Transaction) (milestoneId : Id) : ℕ :=
  transactions.countP fun transaction =>
    transaction.metadata.any fun metadata => metadata.milestoneId = milestoneId

/-- The milestones of an order do not exceed it, and its totals are those of
the milestones that are or were RELEASED. -/
def OrderMoneyHolds (current : MilestoneRun) (id : Id) : Prop :=
  ∀ order ∈ current.world.db.orders.row id,
    plannedOf current.world.db.milestones id ≤ order.totalAmount ∧ order.releasedAmount =
        releasedOf current.world.db.milestones current.everReleased id ∧
      order.remainingAmount = order.totalAmount - order.releasedAmount ∧ 0 ≤ order.remainingAmount

instance (current : MilestoneRun) (id : Id) :
    Decidable (OrderMoneyHolds current id) :=
  inferInstanceAs (Decidable (∀ order ∈ _, _ ∧ _ ∧ _ ∧ _))

/-- So it is for every order, and each milestone is paid for at most once. -/
structure MoneyHolds (current : MilestoneRun) : Prop where
  orders : ∀ id, OrderMoneyHolds current id
  once : ∀ milestoneId, payoutsOf current.world.db.transactions milestoneId ≤ 1

/-- Where a run starts: orders as `OrdersService.create` leaves them, and no
milestones. -/
structure Unreleased (world : World) : Prop where
  orders : ∀ id order, world.db.orders.row id = some order →
    0 < order.totalAmount ∧ order.releasedAmount = 0 ∧ order.remainingAmount = order.totalAmount
  milestones : ∀ key, world.db.milestones.row key = none
  transactions : ∀ milestoneId, payoutsOf world.db.transactions milestoneId = 0

/-! ### The condition -/

section

variable (plus : Amount → Amount → Amount)

/-- Releasing these amounts one after the other adds them up. -/
def AddsUp : Amount → List Amount → Prop
  | _, [] => True
  | released, amount :: rest =>
    plus released amount = released + amount ∧ AddsUp (released + amount) rest

instance AddsUp.decidable : ∀ released amounts, Decidable (AddsUp plus released amounts)
  | _, [] => inferInstanceAs (Decidable True)
  | released, amount :: rest =>
    have := AddsUp.decidable (released + amount) rest
    inferInstanceAs (Decidable (_ ∧ _))

/-- A milestone that can be released. -/
def canRelease (milestone : Milestone) : Bool :=
  milestone.status = .pending ∨ milestone.status = .approved

/-- The milestones of an order that are released automatically. -/
def dueOf (world : World) (orderId : Id) : List Milestone :=
  (act (.findDueMilestones world.now) world).1.filter fun milestone => milestone.orderId = orderId

/-- What a step has to avoid. -/
def Accountable (current : MilestoneRun) : MilestoneEvent → Prop
  | .call (.createMilestones orderId milestones) =>
    -- the order can pay for these and for the milestones it has
    ∀ order ∈ current.world.db.orders.row orderId,
      (milestones.map CreateMilestoneDto.amount).sum ≤ order.totalAmount →
        (∀ milestone ∈ milestones, 0 ≤ milestone.amount) ∧
          plannedOf current.world.db.milestones orderId +
              (milestones.map CreateMilestoneDto.amount).sum ≤ order.totalAmount
  | .call (.releaseMilestone milestoneId _) =>
    ∀ milestone ∈ current.world.db.milestones.row milestoneId, canRelease milestone = true →
        ∀ order ∈ current.world.db.orders.row milestone.orderId,
          AddsUp plus order.releasedAmount [milestone.amount]
  | .call .processAutomaticReleases =>
    ∀ order ∈ current.world.db.orders.rows, AddsUp plus order.releasedAmount
        ((dueOf current.world order.id).map Milestone.amount)
  | .call (.updateMilestoneStatus milestoneId updateData) =>
    -- the status is not set to RELEASED by hand, and a milestone that was
    -- released is not opened again
    ∀ milestone ∈ current.world.db.milestones.row milestoneId,
      if current.everReleased milestone.id then
        updatedStatus updateData ≠ .pending ∧ updatedStatus updateData ≠ .approved
      else updatedStatus updateData ≠ .released
  | _ => True

instance (current : MilestoneRun) :
    ∀ event, Decidable (Accountable plus current event)
  | .call (.createMilestones _ _) => inferInstanceAs (Decidable (∀ order ∈ _, _ → _ ∧ _))
  | .call (.releaseMilestone _ _) =>
    inferInstanceAs (Decidable (∀ milestone ∈ _, _ → ∀ order ∈ _, _))
  | .call .processAutomaticReleases => inferInstanceAs (Decidable (∀ order ∈ _, _))
  | .call (.updateMilestoneStatus _ _) => inferInstanceAs (Decidable (∀ milestone ∈ _, ite _ _ _))
  | .call (.approveMilestone _ _ _) | .call (.rejectMilestone _ _)
  | .elapsed _ | .placed _ _ | .scheduled _ _ => inferInstanceAs (Decidable True)

end

/-! ### The accounts -/

/-- What ties the three tables together. -/
structure MoneyBalanced (orders : Table Order) (milestones : Table Milestone)
    (transactions : List Transaction) (everReleased : Id → Bool) : Prop where
  about : ∀ key milestone, milestones.row key = some milestone →
    ∃ order, orders.row milestone.orderId = some order
  nonneg : ∀ key milestone, milestones.row key = some milestone → 0 ≤ milestone.amount
  planned : ∀ id order, orders.row id = some order → plannedOf milestones id ≤ order.totalAmount
  released : ∀ id order, orders.row id = some order →
    order.releasedAmount = releasedOf milestones everReleased id
  remaining : ∀ id order, orders.row id = some order →
    order.remainingAmount = order.totalAmount - order.releasedAmount
  once : ∀ milestoneId, payoutsOf transactions milestoneId ≤ 1
  unpaid : ∀ milestoneId, everReleased milestoneId = false → payoutsOf transactions milestoneId = 0
  unreleased : ∀ key milestone, milestones.row key = some milestone →
    canRelease milestone = true → everReleased key = false
  marked : ∀ key milestone, milestones.row key = some milestone →
    milestone.status = .released → everReleased key = true
  known : ∀ key, everReleased key = true → ∃ milestone, milestones.row key = some milestone

section

variable {orders : Table Order} {milestones : Table Milestone}
  {transactions : List Transaction} {everReleased : Id → Bool}

theorem MoneyBalanced.releasedOf_le
    (balanced : MoneyBalanced orders milestones transactions everReleased)
    (id : Id) : releasedOf milestones everReleased id ≤
      plannedOf milestones id := by
  apply Table.total_mono
  intro milestone listed
  have nonneg := balanced.nonneg _ milestone (Table.mem_rows.mp listed)
  grind

variable {milestone later : Milestone} {order : Order} {id : Id} {transaction : Transaction}
  {metadata : ReleaseMetadata}

theorem MoneyBalanced.inserted
    (balanced : MoneyBalanced orders milestones transactions everReleased)
    (fresh : milestone.id = milestones.next) (found : orders.row milestone.orderId = some order)
    (pending : milestone.status = .pending) (nonneg : 0 ≤ milestone.amount)
    (within : plannedOf milestones milestone.orderId + milestone.amount ≤ order.totalAmount) :
    MoneyBalanced orders (milestones.save milestone) transactions
      everReleased := by
  have unused : milestones.row (Keyed.key milestone) = none := by
    show milestones.row milestone.id = none
    rw [fresh, Table.row_next]
  have unknown : everReleased milestone.id = false := by
    rw [Bool.eq_false_iff]
    intro ever
    obtain ⟨row, stored⟩ := balanced.known _ ever
    exact nomatch unused.symm.trans stored
  constructor
  · intro key row stored
    rw [Table.row_save] at stored
    split at stored
    · cases stored
      exact ⟨order, found⟩
    · exact balanced.about key row stored
  · grind [Table.row_save, nonneg]
  · intro id row stored
    rw [plannedOf, Table.total_insert _ unused]
    split
    next same =>
      subst same
      cases found.symm.trans stored
      exact within
    next =>
      rw [add_zero]
      exact balanced.planned id row stored
  · intro id row stored
    rw [releasedOf, Table.total_insert _ unused, if_neg, add_zero]
    · exact balanced.released id row stored
    · rintro ⟨_, ever⟩
      rw [unknown] at ever
      cases ever
  · exact balanced.remaining
  · exact balanced.once
  · exact balanced.unpaid
  · intro key row stored isOpen
    rw [Table.row_save] at stored
    split at stored
    next here =>
      rw [here]
      exact unknown
    next => exact balanced.unreleased key row stored isOpen
  · intro key row stored isReleased
    rw [Table.row_save] at stored
    split at stored
    · simp_all
    · exact balanced.marked key row stored isReleased
  · intro key ever
    rw [Table.row_save]
    split
    · exact ⟨milestone, rfl⟩
    · exact balanced.known key ever

theorem plannedOf_inserted (fresh : milestone.id = milestones.next) (orderId : Id) :
    plannedOf (milestones.save milestone) orderId = plannedOf milestones orderId +
        if milestone.orderId = orderId then milestone.amount else 0 := by
  apply Table.total_insert
  show milestones.row milestone.id = none
  rw [fresh, Table.row_next]

theorem MoneyBalanced.stored {orderId : Id} {batch : List Milestone}
    (balanced : MoneyBalanced orders milestones transactions everReleased)
    (found : orders.row orderId = some order)
    (pending : ∀ milestone ∈ batch, milestone.orderId = orderId ∧
      milestone.status = .pending ∧ 0 ≤ milestone.amount) (within : plannedOf milestones orderId +
      (batch.map Milestone.amount).sum ≤ order.totalAmount) :
    MoneyBalanced orders (storeMilestones milestones batch).2 transactions
      everReleased := by
  induction batch generalizing milestones with
  | nil => exact balanced
  | cons milestone rest ih =>
    obtain ⟨about, isPending, nonneg⟩ := pending milestone List.mem_cons_self
    rw [List.map_cons, List.sum_cons] at within
    have others : 0 ≤ (rest.map Milestone.amount).sum := by simp_all [List.sum_nonneg]
    have ordered : orders.row milestone.orderId = some order := by
      rw [about]
      exact found
    apply ih
    · refine balanced.inserted ?_ ordered ?_ ?_ ?_
      · rfl
      · exact isPending
      · exact nonneg
      · grind
    · exact fun other listed => pending other (List.mem_cons_of_mem _ listed)
    · rw [plannedOf_inserted rfl, if_pos about]
      linarith

/-- A milestone gets another status, without a release and without being
opened again. -/
theorem MoneyBalanced.moved (balanced : MoneyBalanced orders milestones transactions everReleased)
    (found : milestones.row id = some milestone) (sameId : later.id = milestone.id)
    (sameOrder : later.orderId = milestone.orderId) (sameAmount : later.amount = milestone.amount)
    (unopened : everReleased id = true → canRelease later = false)
    (unreleased : everReleased id = false → later.status ≠ .released) :
    MoneyBalanced orders (milestones.save later) transactions everReleased := by
  have key : Keyed.key later = id := sameId.trans (milestones.keyed found)
  have stored : milestones.row (Keyed.key later) = some milestone := by
    rw [key]
    exact found
  constructor
  · intro other row storedRow
    rw [Table.row_save] at storedRow
    split at storedRow
    · cases storedRow
      rw [sameOrder]
      exact balanced.about id milestone found
    · exact balanced.about other row storedRow
  · intro other row storedRow
    rw [Table.row_save] at storedRow
    split at storedRow
    · cases storedRow
      rw [sameAmount]
      exact balanced.nonneg id milestone found
    · exact balanced.nonneg other row storedRow
  · intro orderId order storedOrder
    rw [plannedOf, Table.total_kept _ stored (by simp only [sameOrder, sameAmount])]
    exact balanced.planned orderId order storedOrder
  · intro orderId order storedOrder
    rw [releasedOf, Table.total_kept _ stored (by simp only [sameOrder, sameAmount, sameId])]
    exact balanced.released orderId order storedOrder
  · exact balanced.remaining
  · exact balanced.once
  · exact balanced.unpaid
  · intro other row storedRow isOpen
    rw [Table.row_save, key] at storedRow
    split at storedRow
    next here => simp_all
    next => exact balanced.unreleased other row storedRow isOpen
  · intro other row storedRow isReleased
    rw [Table.row_save, key] at storedRow
    split at storedRow
    next here => simp_all
    next => exact balanced.marked other row storedRow isReleased
  · intro other ever
    rw [Table.row_save]
    split
    · exact ⟨later, rfl⟩
    · exact balanced.known other ever

/-- With a milestone that is released, the sum of the released amounts grows
by its amount. -/
theorem releasedOf_releases (found : milestones.row id = some milestone)
    (fresh : everReleased id = false) (sameId : later.id = milestone.id)
    (sameOrder : later.orderId = milestone.orderId)
    (sameAmount : later.amount = milestone.amount) (orderId : Id) :
    releasedOf (milestones.save later)
        (fun other => everReleased other || decide (other = id)) orderId =
      releasedOf milestones everReleased orderId +
        if milestone.orderId = orderId then milestone.amount else 0 := by
  have itsId : milestone.id = id := milestones.keyed found
  have itself : milestones.row (Keyed.key milestone) = some milestone := by
    rw [show Keyed.key milestone = id from itsId]
    exact found
  have stored : milestones.row (Keyed.key later) = some milestone := by simp_all [Keyed.key]
  have kept := Table.total_kept (fun row : Milestone =>
    if row.orderId = orderId ∧ (everReleased row.id || decide (row.id = id)) = true then
      row.amount
    else 0) stored (by simp only [sameOrder, sameAmount, sameId])
  have reweighed := Table.total_reweigh (fun row : Milestone =>
      if row.orderId = orderId ∧ everReleased row.id = true then
        row.amount
      else 0)
    (fun row : Milestone =>
      if row.orderId = orderId ∧ (everReleased row.id || decide (row.id = id)) = true then
        row.amount
      else 0) itself ?_
  · simp only [itsId, fresh] at reweighed
    simp only [and_false, if_false, add_zero, Bool.false_eq_true,
      decide_true, Bool.or_true, and_true] at reweighed
    exact kept.trans reweighed
  · intro other different
    have otherId : other.id ≠ id := fun same => different (same.trans itsId.symm)
    simp [otherId]

theorem payoutsOf_append (describes : transaction.metadata = some metadata) (milestoneId : Id) :
    payoutsOf (transactions ++ [transaction]) milestoneId = payoutsOf transactions milestoneId +
        if metadata.milestoneId = milestoneId then 1 else 0 := by simp_all [payoutsOf]

/-- An open milestone is released: it is marked, a transaction pays for it,
and the order's totals move by its amount. -/
theorem MoneyBalanced.releases
    (balanced : MoneyBalanced orders milestones transactions everReleased)
    (found : milestones.row id = some milestone) (isOpen : canRelease milestone = true)
    (ordered : orders.row milestone.orderId = some order) (sameId : later.id = milestone.id)
    (sameOrder : later.orderId = milestone.orderId) (sameAmount : later.amount = milestone.amount)
    (isReleased : later.status = .released) (describes : transaction.metadata = some metadata)
    (pays : metadata.milestoneId = id) :
    MoneyBalanced (orders.save (releasedOrder order (order.releasedAmount + milestone.amount)))
      (milestones.save later) (transactions ++ [transaction])
      (fun other => everReleased other || decide (other = id)) := by
  have key : Keyed.key later = id := sameId.trans (milestones.keyed found)
  have stored : milestones.row (Keyed.key later) = some milestone := by
    rw [key]
    exact found
  have orderKey : order.id = milestone.orderId := orders.keyed ordered
  have fresh : everReleased id = false := balanced.unreleased id milestone found isOpen
  have grown := releasedOf_releases found fresh sameId sameOrder sameAmount
  constructor
  · intro other row storedRow
    have sameOrders : ∀ orderId before, orders.row orderId = some before →
        ∃ after, (orders.save (releasedOrder order
          (order.releasedAmount + milestone.amount))).row orderId =
            some after := by grind [Table.row_save]
    rw [Table.row_save] at storedRow
    split at storedRow
    · simp_all
    · obtain ⟨before, foundBefore⟩ := balanced.about other row storedRow
      exact sameOrders _ before foundBefore
  · intro other row storedRow
    rw [Table.row_save] at storedRow
    split at storedRow
    · cases storedRow
      rw [sameAmount]
      exact balanced.nonneg id milestone found
    · exact balanced.nonneg other row storedRow
  · intro orderId row storedOrder
    rw [plannedOf, Table.total_kept _ stored (by simp only [sameOrder, sameAmount])]
    rw [Table.row_save] at storedOrder
    split at storedOrder
    next here =>
      cases storedOrder
      rw [here]
      apply balanced.planned _ order
      show orders.row order.id = some order
      rw [orderKey]
      exact ordered
    next => exact balanced.planned orderId row storedOrder
  · intro orderId row storedOrder
    rw [grown]
    rw [Table.row_save] at storedOrder
    split at storedOrder
    next here =>
      cases storedOrder
      have same : orderId = milestone.orderId := here.trans orderKey
      subst same
      rw [if_pos rfl, ← balanced.released _ order ordered]
      rfl
    next different =>
      rw [if_neg, add_zero]
      · exact balanced.released orderId row storedOrder
      · intro same
        exact different (same.symm.trans orderKey.symm)
  · intro orderId row storedOrder
    rw [Table.row_save] at storedOrder
    split at storedOrder
    · cases storedOrder
      rfl
    · exact balanced.remaining orderId row storedOrder
  · intro milestoneId
    rw [payoutsOf_append describes, pays]
    split
    next same =>
      subst same
      rw [balanced.unpaid _ fresh]
    next => exact balanced.once milestoneId
  · intro milestoneId never
    rw [Bool.or_eq_false_iff, decide_eq_false_iff_not] at never
    rw [payoutsOf_append describes, pays, if_neg (Ne.symm never.2), balanced.unpaid _ never.1]
  · intro other row storedRow otherOpen
    rw [Table.row_save, key] at storedRow
    split at storedRow
    next here => simp_all [canRelease]
    next different =>
      rw [balanced.unreleased other row storedRow otherOpen]
      simp [different]
  · intro other row storedRow otherReleased
    rw [Table.row_save, key] at storedRow
    split at storedRow
    next here => simp [here]
    next => simp [balanced.marked other row storedRow otherReleased]
  · intro other ever
    rw [Table.row_save, key]
    split
    · exact ⟨later, rfl⟩
    next different =>
      simp only [different, decide_false, Bool.or_false] at ever
      exact balanced.known other ever

theorem MoneyBalanced.ordered (balanced : MoneyBalanced orders milestones transactions everReleased)
    (fresh : order.id = orders.next) (positive : 0 < order.totalAmount)
    (unreleased : order.releasedAmount = 0) (remains : order.remainingAmount = order.totalAmount) :
    MoneyBalanced (orders.save order) milestones transactions everReleased := by
  have unused : orders.row order.id = none := by rw [fresh, Table.row_next]
  have nothing : ∀ weight : Milestone → Amount,
      (∀ milestone, milestone.orderId ≠ order.id → weight milestone = 0) →
        milestones.total weight = 0 := by
    intro weight none
    apply List.sum_eq_zero
    intro value member
    obtain ⟨milestone, listed, rfl⟩ := List.mem_map.mp member
    apply none
    intro same
    obtain ⟨other, found⟩ := balanced.about _ milestone (Table.mem_rows.mp listed)
    rw [same, unused] at found
    cases found
  constructor
  · intro key milestone stored
    obtain ⟨other, found⟩ := balanced.about key milestone stored
    grind [Table.row_save]
  · exact balanced.nonneg
  · intro id row stored
    rw [Table.row_save] at stored
    split at stored
    next here =>
      cases stored
      rw [here, plannedOf, nothing]
      · exact le_of_lt positive
      · exact fun milestone other => if_neg other
    next => exact balanced.planned id row stored
  · intro id row stored
    rw [Table.row_save] at stored
    split at stored
    next here =>
      cases stored
      rw [here, releasedOf, nothing]
      · exact unreleased
      · exact fun milestone other => if_neg fun both => other both.1
    next => exact balanced.released id row stored
  · intro id row stored
    rw [Table.row_save] at stored
    split at stored
    · cases stored
      rw [unreleased, sub_zero, remains]
    · exact balanced.remaining id row stored
  · exact balanced.once
  · exact balanced.unpaid
  · exact balanced.unreleased
  · exact balanced.marked
  · exact balanced.known

end

/-! ### What the calls do -/

structure SameMoney (world after : World) : Prop where
  orders : after.db.orders = world.db.orders
  milestones : after.db.milestones = world.db.milestones
  transactions : after.db.transactions = world.db.transactions

/-- Nothing changes, or the milestone stored under a key gets another
status. -/
inductive Moves (world : World) (id : Id)
    (allowed : MilestoneStatus → MilestoneStatus → Prop) : World → Prop where
  | kept {after : World} (same : SameMoney world after) :
      Moves world id allowed after
  | moved {milestone later : Milestone} {after : World}
      (found : world.db.milestones.row id = some milestone) (sameId : later.id = milestone.id)
      (sameOrder : later.orderId = milestone.orderId) (sameAmount : later.amount = milestone.amount)
      (passes : allowed milestone.status later.status) (orders : after.db.orders = world.db.orders)
      (milestones : after.db.milestones = world.db.milestones.save later)
      (transactions : after.db.transactions = world.db.transactions) :
      Moves world id allowed after

structure Releases (world : World) (milestone : Milestone) (order : Order)
    (after : World) : Prop where
  orders : after.db.orders = world.db.orders.save
    (releasedOrder order (order.releasedAmount + milestone.amount))
  milestones : ∃ later : Milestone, later.id = milestone.id ∧
    later.orderId = milestone.orderId ∧ later.amount = milestone.amount ∧ later.status = .released ∧
        after.db.milestones = world.db.milestones.save later
  transactions : ∃ transaction metadata, transaction.metadata = some metadata ∧
      metadata.milestoneId = milestone.id ∧
        after.db.transactions = world.db.transactions ++ [transaction]

abbrev allSpared : Spared := fun _ => true

section

variable {world : World} {plus : Amount → Amount → Amount}

theorem SameMoney.refl (world : World) : SameMoney world world :=
  ⟨rfl, rfl, rfl⟩

variable {α : Type} {order : Order} {id : Id} {releaseData : ReleaseMilestoneDto}

theorem wp_succeeds (op : Op) {rest : Reply op → Service α}
    {post : Except HttpException α → World → Prop}
    (acts : (commerce.shield allSpared).wp (rest (act op world).1) post (act op world).2) :
    (commerce.shield allSpared).wp (await op >>= rest) post world := wp_await_bind op acts nofun

theorem wp_lookup (id : Id) {rest : Milestone × Option Order → Service α}
    {post : Except HttpException α → World → Prop}
    (missing : ∀ error, world.db.milestones.row id = none → post (.error error) world)
    (found : ∀ milestone, world.db.milestones.row id = some milestone →
      (commerce.shield allSpared).wp (rest (milestone, world.db.orders.row milestone.orderId)) post
        world) :
    (commerce.shield allSpared).wp (getMilestoneById id >>= rest) post
      world := by
  rw [wp_bind]
  apply wp_succeeds
  simp only [act]
  cases stored : world.db.milestones.row id <;> simp_all

theorem approveMilestone_spec (id : Id) (approvedBy : String) (notes : Option String) :
    (commerce.shield allSpared).wp (approveMilestone id approvedBy notes)
      (fun _ after => Moves world id
        (fun status next => status = .pending ∧ next = .approved) after)
      world := by
  apply wp_lookup
  · exact fun _ _ => .kept (.refl world)
  intro milestone found
  apply wp_guard
  · exact fun _ => .kept (.refl world)
  intro pending
  apply wp_succeeds
  refine .moved found ?_ ?_ ?_ ?_ rfl rfl rfl
  · rfl
  · rfl
  · rfl
  · exact ⟨not_not.mp pending, rfl⟩

theorem rejectMilestone_spec (id : Id) (rejectionData : UpdateMilestoneStatusDto) :
    (commerce.shield allSpared).wp (rejectMilestone id rejectionData) (fun _ after => Moves world id
        (fun _ next => next = .rejected) after) world := by
  apply wp_lookup
  · exact fun _ _ => .kept (.refl world)
  intro milestone found
  apply wp_guard
  · exact fun _ => .kept (.refl world)
  intro _
  apply wp_succeeds
  refine .moved found ?_ ?_ ?_ ?_ rfl rfl rfl
  · rfl
  · rfl
  · rfl
  · rfl

theorem updateMilestoneStatus_spec (id : Id) (updateData : UpdateMilestoneStatusDto) :
    (commerce.shield allSpared).wp (updateMilestoneStatus id updateData)
      (fun _ after => Moves world id
        (fun _ next => next = updatedStatus updateData) after) world := by
  apply wp_lookup
  · exact fun _ _ => .kept (.refl world)
  intro milestone found
  apply wp_succeeds
  apply wp_succeeds
  refine .moved found ?_ ?_ ?_ ?_ rfl rfl rfl
  · rfl
  · rfl
  · rfl
  · rfl

theorem createMilestones_spec (orderId : Id) (milestones : List CreateMilestoneDto) :
    (commerce.shield allSpared).wp (createMilestones orderId milestones)
      (fun _ after => SameMoney world after ∨ ∃ order, world.db.orders.row orderId = some order ∧
          (milestones.map CreateMilestoneDto.amount).sum ≤ order.totalAmount ∧
            after.db.orders = world.db.orders ∧ after.db.transactions = world.db.transactions ∧
            after.db.milestones = (storeMilestones world.db.milestones
              (milestones.mapIdx fun index milestoneData =>
                newMilestone orderId milestoneData index)).2) world := by
  apply wp_succeeds
  simp only [act]
  cases found : world.db.orders.row orderId with
  | none => exact .inl (.refl world)
  | some order =>
    apply wp_guard
    · exact fun _ => .inl (.refl world)
    intro within
    refine ⟨.inr ⟨order, rfl, not_lt.mp within, rfl, rfl, rfl⟩, by intros; contradiction⟩

theorem updateOrderReleasedAmount_spec {orderId : Id} {amount : Amount}
    {post : Except HttpException Unit → World → Prop}
    (ordered : world.db.orders.row orderId = some order) (saved : post (.ok ()) (world.withOrder
      (releasedOrder order (plus order.releasedAmount amount)))) :
    (commerce.shield allSpared).wp (updateOrderReleasedAmount plus orderId amount) post world := by
  apply wp_succeeds
  simp only [act, ordered]
  exact ⟨saved, by intros; contradiction⟩

theorem releaseMilestone_spec
    {milestone : Milestone} (found : world.db.milestones.row id = some milestone)
    (isOpen : canRelease milestone = true)
    (ordered : world.db.orders.row milestone.orderId = some order)
    (adds : plus order.releasedAmount milestone.amount = order.releasedAmount + milestone.amount) :
    (commerce.shield allSpared).wp (releaseMilestone plus id releaseData)
      (fun _ after => Releases world milestone order after) world := by
  apply wp_lookup
  · intro error missing
    rw [missing] at found
    cases found
  intro stored foundAgain
  cases found.symm.trans foundAgain
  apply wp_guard
  · grind [canRelease]
  intro _
  apply wp_succeeds
  apply wp_succeeds
  apply wp_succeeds
  rw [ordered]
  apply wp_succeeds
  rw [wp_bind]
  apply updateOrderReleasedAmount_spec
  · exact ordered
  refine ⟨?_, ?_, ?_⟩
  · rw [← adds]
    rfl
  · exact ⟨releasedMilestone milestone releaseData world.now world.now, rfl, rfl, rfl, rfl, rfl⟩
  · exact ⟨_, _, rfl, rfl, rfl⟩

theorem releaseMilestone_refused
    (closed : ∀ milestone, world.db.milestones.row id = some milestone →
      canRelease milestone = false) :
    (commerce.shield allSpared).wp (releaseMilestone plus id releaseData)
      (fun _ after => SameMoney world after) world := by
  apply wp_lookup
  · exact fun _ _ => .refl world
  intro milestone found
  apply wp_guard
  · exact fun _ => .refl world
  simp_all [canRelease]

end

/-! ### The invariant of a run -/

section

variable {plus : Amount → Amount → Amount} {current : MilestoneRun} {after : World}

abbrev MilestoneRun.Balances (current : MilestoneRun) : Prop :=
  MoneyBalanced current.world.db.orders current.world.db.milestones
    current.world.db.transactions current.everReleased

variable {world : World} {id : Id} {milestone : Milestone} {order : Order}

theorem isReleased_iff :
    isReleased world id = true ↔ ∃ milestone, world.db.milestones.row id = some milestone ∧
        milestone.status = .released := by
  unfold isReleased
  cases world.db.milestones.row id <;> simp

theorem balances_mark (balanced : MoneyBalanced after.db.orders after.db.milestones
      after.db.transactions current.everReleased) :
    (current.mark after).Balances := by
  have same : (current.mark after).everReleased = current.everReleased := by
    funext id
    simp only [MilestoneRun.mark, Bool.or_eq_left_iff_imp]
    intro isReleased
    obtain ⟨milestone, stored, status⟩ := isReleased_iff.mp isReleased
    exact balanced.marked id milestone stored status
  unfold MilestoneRun.Balances
  rw [same]
  exact balanced

theorem balances_same (balanced : current.Balances) (same : SameMoney current.world after) :
    (current.mark after).Balances := by
  apply balances_mark
  rw [same.orders, same.milestones, same.transactions]
  exact balanced

theorem balances_moves {allowed : MilestoneStatus → MilestoneStatus → Prop}
    (balanced : current.Balances) (moves : Moves current.world id allowed after)
    (unopened : ∀ milestone status, current.world.db.milestones.row id = some milestone →
        allowed milestone.status status → current.everReleased id = true →
          status ≠ .pending ∧ status ≠ .approved) (unreleased : ∀ milestone status,
      current.world.db.milestones.row id = some milestone →
        allowed milestone.status status → current.everReleased id = false → status ≠ .released) :
    (current.mark after).Balances := by
  cases moves with
  | kept same => exact balances_same balanced same
  | @moved milestone later _ found sameId sameOrder sameAmount passes orders
      milestones transactions =>
      apply balances_mark
      rw [orders, milestones, transactions]
      apply balanced.moved found sameId sameOrder sameAmount
      · simp_all [canRelease]
      · exact unreleased milestone _ found passes

theorem balances_releases
    (balanced : current.Balances) (found : current.world.db.milestones.row id = some milestone)
    (isOpen : canRelease milestone = true)
    (ordered : current.world.db.orders.row milestone.orderId = some order)
    (released : Releases current.world milestone order after) :
    (current.mark after).Balances := by
  have key : milestone.id = id := current.world.db.milestones.keyed found
  obtain ⟨later, sameId, sameOrder, sameAmount, status, milestones⟩ := released.milestones
  obtain ⟨transaction, metadata, describes, pays, transactions⟩ := released.transactions
  have moved := balanced.releases found isOpen ordered sameId sameOrder
    sameAmount status describes (pays.trans key)
  rw [← released.orders, ← milestones, ← transactions] at moved
  have same : (current.mark after).everReleased =
      fun other => current.everReleased other || decide (other = id) := by
    funext other
    rw [MilestoneRun.mark, Bool.eq_iff_iff, Bool.or_eq_true]
    constructor
    · rintro (ever | isReleased)
      · rw [ever, Bool.true_or]
      · obtain ⟨row, stored, isMarked⟩ := isReleased_iff.mp isReleased
        exact moved.marked other row stored isMarked
    · intro marked
      rcases Bool.or_eq_true_iff.mp marked with ever | here
      · exact .inl ever
      · right
        rw [isReleased_iff, milestones]
        refine ⟨later, ?_, status⟩
        rw [of_decide_eq_true here, ← key, ← sameId]
        exact Table.row_save_self _ later
  unfold MilestoneRun.Balances
  rw [same]
  exact moved

/-! ### Automatic releases -/

theorem Releases.row_other (released : Releases world milestone order after)
    (other : id ≠ milestone.id) :
    after.db.milestones.row id = world.db.milestones.row id := by
  obtain ⟨later, sameId, -, -, -, milestones⟩ := released.milestones
  rw [milestones, Table.row_save_of_ne]
  exact fun same => other (same.trans sameId)

theorem Releases.isReleased (released : Releases world milestone order after)
    (before : isReleased world id = true) :
    isReleased after id = true := by
  grind [milestones, isReleased_iff, Table.row_save_self, Table.row_save_of_ne]

theorem autoRelease_spec {due : List Milestone} (balanced : current.Balances)
    (stored : ∀ milestone ∈ due, current.world.db.milestones.row milestone.id = some milestone ∧
        canRelease milestone = true)
    (distinct : due.Pairwise fun first second => first.id ≠ second.id)
    (adds : ∀ id order, current.world.db.orders.row id = some order →
      AddsUp plus order.releasedAmount ((due.filter fun milestone => milestone.orderId = id).map
          Milestone.amount)) (releaseData : Milestone → ReleaseMilestoneDto) :
    (commerce.shield allSpared).wp (due.forM fun milestone => do
        let _ ← (releaseMilestone plus milestone.id (releaseData milestone)).attempt
        pure ())
      (fun _ after => (current.mark after).Balances ∧ ∀ id, isReleased current.world id = true →
          isReleased after id = true) current.world := by
  induction due generalizing current with
  | nil => exact ⟨balances_same balanced (.refl _), fun _ before => before⟩
  | cons milestone rest ih =>
    obtain ⟨found, isOpen⟩ := stored milestone List.mem_cons_self
    obtain ⟨apart, distinctRest⟩ := List.pairwise_cons.mp distinct
    obtain ⟨order, ordered⟩ := balanced.about _ milestone found
    have addsHere := adds _ order ordered
    rw [List.filter_cons_of_pos (by simp), List.map_cons] at addsHere
    show (commerce.shield allSpared).wp ((Program.attempt (releaseMilestone plus milestone.id _) >>=
        fun _ => pure PUnit.unit) >>= fun _ => rest.forM _) _ _
    rw [wp_bind, wp_bind, wp_attempt]
    apply Handler.wp_mono _ (releaseMilestone_spec found isOpen ordered addsHere.1)
    intro result middle released
    have balancedMiddle := balances_releases balanced found isOpen ordered released
    have continued := ih balancedMiddle ?_ distinctRest ?_
    · apply Handler.wp_mono _ continued
      rintro _ last ⟨balancedLast, kept⟩
      constructor
      · have sameMarks : ((current.mark middle).mark last).everReleased =
            (current.mark last).everReleased := by grind [MilestoneRun.mark]
        unfold MilestoneRun.Balances at balancedLast
        rw [sameMarks] at balancedLast
        exact balancedLast
      · exact fun id before => kept id (released.isReleased before)
    · intro other listed
      obtain ⟨storedOther, openOther⟩ := stored other (List.mem_cons_of_mem _ listed)
      refine ⟨?_, openOther⟩
      show middle.db.milestones.row other.id = some other
      rw [released.row_other (Ne.symm (apart other listed))]
      exact storedOther
    · intro id later storedLater
      change middle.db.orders.row id = some later at storedLater
      rw [released.orders, Table.row_save] at storedLater
      have orderKey : order.id = milestone.orderId := current.world.db.orders.keyed ordered
      split at storedLater
      next here =>
        cases storedLater
        have same : id = milestone.orderId := here.trans orderKey
        rw [same]
        exact addsHere.2
      next different =>
        have before := adds id later storedLater
        rw [List.filter_cons_of_neg] at before
        · exact before
        · intro same
          exact different ((of_decide_eq_true same).symm.trans orderKey.symm)

/-! ### A whole run -/

theorem newMilestones_sum (orderId : Id) (milestones : List CreateMilestoneDto) :
    ((milestones.mapIdx fun index milestoneData =>
        newMilestone orderId milestoneData index).map Milestone.amount).sum =
      (milestones.map CreateMilestoneDto.amount).sum := by
  congr 1
  apply List.ext_getElem?
  intro index
  rw [List.getElem?_map, List.getElem?_mapIdx, List.getElem?_map, Option.map_map]
  rfl

theorem balances_call {call : MilestoneCall} (balanced : current.Balances)
    (accountable : Accountable plus current (.call call)) :
    (commerce.shield allSpared).wp (call.program plus)
      (fun _ after => (current.mark after).Balances) current.world := by
  cases call with
  | createMilestones orderId milestones =>
    apply wp_discard
    apply Handler.wp_mono _ (createMilestones_spec orderId milestones)
    rintro result after (same | ⟨order, found, within, orders, transactions, stored⟩)
    · exact balances_same balanced same
    · obtain ⟨nonneg, room⟩ := accountable order found within
      apply balances_mark
      rw [orders, transactions, stored]
      apply balanced.stored found
      · intro milestone member
        obtain ⟨index, bound, rfl⟩ := List.mem_mapIdx.mp member
        exact ⟨rfl, rfl, nonneg _ (List.getElem_mem bound)⟩
      · rw [newMilestones_sum]
        exact room
  | approveMilestone id approvedBy notes =>
    apply wp_discard
    apply Handler.wp_mono _ (approveMilestone_spec id approvedBy notes)
    intro result after moves
    apply balances_moves balanced moves
    · rintro milestone status found ⟨pending, -⟩ ever
      have fresh := balanced.unreleased id milestone found (by simp [canRelease, pending])
      rw [fresh] at ever
      cases ever
    · rintro milestone status found ⟨-, rfl⟩ -
      decide
  | rejectMilestone id rejectionData =>
    apply wp_discard
    apply Handler.wp_mono _ (rejectMilestone_spec id rejectionData)
    intro result after moves
    apply balances_moves balanced moves
    · rintro milestone status found rfl -
      decide
    · rintro milestone status found rfl -
      decide
  | updateMilestoneStatus id updateData =>
    apply wp_discard
    apply Handler.wp_mono _ (updateMilestoneStatus_spec id updateData)
    intro result after moves
    apply balances_moves balanced moves
    · rintro milestone status found rfl ever
      have allowed := accountable milestone found
      rw [show milestone.id = id from
        current.world.db.milestones.keyed found, if_pos ever] at allowed
      exact allowed
    · rintro milestone status found rfl never
      have allowed := accountable milestone found
      rw [show milestone.id = id from
        current.world.db.milestones.keyed found, never] at allowed
      exact allowed
  | releaseMilestone id releaseData =>
    apply wp_discard
    have refused : (∀ milestone, current.world.db.milestones.row id = some milestone →
          canRelease milestone = false) → (commerce.shield allSpared).wp
          (releaseMilestone plus id releaseData) (fun _ after => (current.mark after).Balances)
          current.world := by grind [Handler.wp_mono, releaseMilestone_refused, balances_same]
    cases found : current.world.db.milestones.row id with
    | none => simp_all
    | some milestone =>
      cases isOpen : canRelease milestone with
      | false => simp_all
      | true =>
        obtain ⟨order, ordered⟩ := balanced.about id milestone found
        have adds :=
          (accountable milestone found isOpen order ordered).1
        apply Handler.wp_mono _ (releaseMilestone_spec found isOpen ordered adds)
        grind [balances_releases]
  | processAutomaticReleases =>
    apply wp_succeeds
    apply wp_succeeds
    apply Handler.wp_mono _ (autoRelease_spec balanced _ _ _ _)
    · exact fun result after settled => settled.1
    · intro milestone listed
      obtain ⟨stored, due⟩ := List.mem_filter.mp listed
      refine ⟨Table.mem_rows.mp stored, ?_⟩
      simp_all [canRelease]
    · exact (Table.rows_pairwise _).filter _
    · intro id order stored
      have sums := accountable order (Table.mem_rows_of_row stored)
      rw [show order.id = id from
        current.world.db.orders.keyed stored] at sums
      exact sums

theorem balanced_progress (current : MilestoneRun) (event : MilestoneEvent)
    (balanced : current.Balances) (accountable : Accountable plus current event) :
    (progress plus current event).Balances := by
  cases event with
  | call call =>
    exact commerce.wp_sound_spared (balances_call balanced accountable)
      (commerce.spares_nil allSpared _ _)
  | elapsed now => exact balances_same balanced ⟨rfl, rfl, rfl⟩
  | placed order positive =>
    apply balances_mark
    exact balanced.ordered rfl positive rfl rfl
  | scheduled id releaseAt =>
    simp only [progress, handleMilestone]
    cases found : current.world.db.milestones.row id with
    | none => exact balances_same balanced (.refl _)
    | some milestone =>
      apply balances_mark
      apply balanced.moved found
      · rfl
      · rfl
      · rfl
      · intro ever
        rw [Bool.eq_false_iff]
        intro isOpen
        have fresh := balanced.unreleased id milestone found isOpen
        rw [fresh] at ever
        cases ever
      · intro never isReleased
        have ever := balanced.marked id milestone found isReleased
        rw [never] at ever
        cases ever

end

/-! ### One order -/

theorem openShop_unreleased : Unreleased openShop where
  orders _ _ stored := by cases stored
  milestones _ := rfl
  transactions _ := rfl

/-- User 7 orders two lamps at 100. -/
def lampsOrdered : MilestoneEvent := .placed
    { id := 0
      buyerId := 7
      totalAmount := 200
      items :=
        [{ productId := 0, productName := "lamp", quantity := 2, price := 100
           subtotal := 200, priceCurrency := .USD
           quantity_pos := pair_positive }] }
    (by decide)

def lampMilestone (amount : Amount) : CreateMilestoneDto where
  title := "lamp"
  description := "one of the lamps"
  amount
  percentage := amount / 2
  type := .custom
  trigger := .manual
  autoRelease := true
  sortOrder := 0

def planned (amounts : List Amount) : MilestoneEvent :=
  .call (.createMilestones 0 (amounts.map lampMilestone))

def released (id : Id) : MilestoneEvent := .call (.releaseMilestone id
    { milestoneId := id, approvedBy := "admin@marketx.test" })

def statusSet (id : Id) (status : MilestoneStatus) : MilestoneEvent :=
  .call (.updateMilestoneStatus id { milestoneId := id, status })

end MarketX.Commerce
