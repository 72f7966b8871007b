/-
Module: MarketX.Proofs.OrderPoints
Purpose: The points of a completed order: one row of the ledger for each
  delivery of its `order.completed` event, whatever the schedule.
Trusted boundary: human-reviewed definition of deliveries, Emitted and
  Undelivered
Main exports: deliveries, Emitted, Undelivered, points_per_delivery
-/
import MarketX.Proofs.OrderRace

namespace MarketX.Commerce

open Effects Handler

/-! ### Deliveries -/

abbrev OrderThread := Thread updateSignature Tracked HttpException OrderCall

def isDelivery (thread : OrderThread) : Bool :=
  match thread.name with
  | .handleOrderCompleted _ _ => true
  | .updateStatus _ => false

/-- How often the listener has been called. -/
def deliveries (pool : OrderPool) : ℕ := pool.threads.countP isDelivery

/-- Only events that have been emitted are delivered, in any order and as
often as one likes. -/
def Emitted (pool : OrderPool) : OrderTurn → Prop
  | .spawn (.handleOrderCompleted userId totalAmount) =>
    .completed userId totalAmount ∈ pool.state.trail
  | _ => True

/-- An event is delivered that has not been delivered before. -/
def Undelivered (pool : OrderPool) : OrderTurn → Prop
  | .spawn (.handleOrderCompleted _ _) =>
    deliveries pool < pool.state.trail.countP Mark.isCompletion
  | _ => True

instance (pool : OrderPool) : ∀ turn, Decidable (Emitted pool turn)
  | .spawn (.handleOrderCompleted _ _) => inferInstanceAs (Decidable (_ ∈ _))
  | .spawn (.updateStatus _) | .perform _ _ | .outside _ => inferInstanceAs (Decidable True)

instance (pool : OrderPool) : ∀ turn, Decidable (Undelivered pool turn)
  | .spawn (.handleOrderCompleted _ _) => inferInstanceAs (Decidable (_ < _))
  | .spawn (.updateStatus _) | .perform _ _ | .outside _ => inferInstanceAs (Decidable True)

/-! ### What every turn keeps -/

def OrderPhase.isGranting : OrderPhase → Bool
  | .granting _ _ => true
  | _ => false

/-- The event is about the order as it was at the start. -/
def OrderPhase.About (first : Order) (phase : OrderPhase) : Prop :=
  ∀ userId totalAmount, phase = .granting userId totalAmount →
    userId = first.buyerId ∧ totalAmount = first.totalAmount

/-- The row grants the points of the order to its buyer. -/
structure PaysOut (first : Order) (row : RewardPoints) : Prop where
  user : row.userId = first.buyerId
  points : row.points = ⌊first.totalAmount * RewardsService.pointsPerDollar⌋

/-- The calls of the listener that have not granted anything yet could still
do so; the others have granted at most one row each. -/
structure Granted (orderId : Id) (first : Order) (recorded : Tracked)
    (cast : OrderCast) : Prop where
  kept : Kept orderId first recorded cast
  about : ∀ role ∈ cast, role.2.About first
  rows : ∀ row ∈ earnedRows orderId recorded.world, PaysOut first row
  counted : (earnedRows orderId recorded.world).length +
      cast.countP (fun role => role.2.isGranting) ≤ cast.countP fun role => isDelivery role.1

theorem orderActed_granting {orderId : Id} {phase : OrderPhase}
    {op : UpdateOp} {met : Tracked} {userId : Id} {totalAmount : Amount}
    (granting : orderActed orderId phase op met = .granting userId totalAmount) :
    phase = .granting userId totalAmount := by
  unfold orderActed at granting
  split at granting <;> grind

section

variable {orderId : Id} {first : Order} {recorded state : Tracked}
  {front back : OrderCast} {thread moved : OrderThread} {phase after : OrderPhase}

theorem Granted.quiet (granted : Granted orderId first recorded (front ++ (thread, phase) :: back))
    (kept : Kept orderId first state (front ++ (moved, after) :: back))
    (name : moved.name = thread.name) (rows : earnedRows orderId state.world =
      earnedRows orderId recorded.world)
    (granting : ∀ userId totalAmount, after = .granting userId totalAmount →
      phase = .granting userId totalAmount) :
    Granted orderId first state (front ++ (moved, after) :: back) := by
  refine ⟨kept, ?_, ?_, ?_⟩
  · intro role member
    rcases mem_replaced member with rfl | other
    · intro userId totalAmount same
      exact granted.about (thread, phase) (by simp) _ _ (granting _ _ same)
    · exact granted.about role (mem_of_others other _)
  · rw [rows]
    exact granted.rows
  · have before := granted.counted
    have delivery : isDelivery moved = isDelivery thread := by simp only [isDelivery, name]
    have fewer : after.isGranting = true → phase.isGranting = true := by
      intro isGranting
      cases after with
      | granting userId totalAmount => rw [granting _ _ rfl]; rfl
      | _ => cases isGranting
    grind

theorem Granted.grants {totalAmount : Amount} {userId : Id} {reward : RewardPoints}
    (granted : Granted orderId first recorded
      (front ++ (thread, .granting userId totalAmount) :: back))
    (kept : Kept orderId first state (front ++ (moved, .ended) :: back))
    (name : moved.name = thread.name) (rows : earnedRows orderId state.world =
      earnedRows orderId recorded.world ++ [reward]) (user : reward.userId = userId)
    (points : reward.points = ⌊totalAmount * RewardsService.pointsPerDollar⌋) :
    Granted orderId first state (front ++ (moved, .ended) :: back) := by
  obtain ⟨buyer, amount⟩ := granted.about (thread, .granting userId totalAmount) (by simp) _ _ rfl
  refine ⟨kept, ?_, ?_, ?_⟩
  · intro role member
    rcases mem_replaced member with rfl | other
    · intro userId totalAmount same
      cases same
    · exact granted.about role (mem_of_others other _)
  · intro row member
    rw [rows] at member
    rcases List.mem_append.mp member with old | new
    · exact granted.rows row old
    · rw [List.mem_singleton.mp new]
      exact ⟨user.trans buyer, by rw [points, amount]⟩
  · have before := granted.counted
    have delivery : isDelivery moved = isDelivery thread := by simp only [isDelivery, name]
    simp only [countP_replaced, rows, delivery, OrderPhase.isGranting,
      List.length_append, List.length_singleton] at before ⊢
    grind

theorem granted_acts {op : UpdateOp} (granted : Granted orderId first recorded
      (front ++ (thread, phase) :: back))
    (allowed : OrderAllows orderId phase op) (name : moved.name = thread.name) :
    Granted orderId first (updates.act op recorded).2
      (front ++ (moved, orderActed orderId phase op recorded) :: back) := by
  have kept : Kept orderId first (updates.act op recorded).2
      (front ++ (moved, orderActed orderId phase op recorded) :: back) :=
    kept_acts granted.kept allowed
  have goesOn : earnedRows orderId (updates.act op recorded).2.world =
        earnedRows orderId recorded.world → Granted orderId first (updates.act op recorded).2
        (front ++ (moved, orderActed orderId phase op recorded) :: back) :=
    fun rows => granted.quiet kept name rows fun _ _ => orderActed_granting
  cases allowed with
  | confirms | cancels =>
    apply goesOn
    exact congrArg (List.filter (earnedWith orderId)) (sameSales_step _ rfl recorded.world).rewards
  | finds | looks | saves | announces | completes | sums => exact goesOn rfl
  | @grants userId totalAmount reward earned user points =>
    refine granted.grants kept name ?_ user points
    show List.filter (earnedWith orderId) (recorded.world.db.rewards ++ [reward]) = _
    rw [List.filter_append, List.filter_cons_of_pos earned]
    rfl

theorem earnedRows_besides (other : World) :
    earnedRows orderId (besidesOrder orderId other recorded).world =
      earnedRows orderId recorded.world := by
  show List.filter _ (_ ++ earnedRows orderId recorded.world) = _
  simp [earnedRows, List.filter_append, List.filter_filter]

theorem granted_spoke {pool : OrderPool} {cast later : OrderCast}
    {turn : OrderTurn} (granted : Granted orderId first pool.state cast)
    (emitted : Emitted pool turn) (spoke : Pool.Spoke updates (OrderCall.program orderId)
      (besidesOrder orderId) (orderDialogue orderId) pool cast turn state
      later) : Granted orderId first state later := by
  have kept := kept_spoke granted.kept spoke
  cases spoke with
  | stays => exact granted
  | @changes other =>
    have rows : earnedRows orderId (besidesOrder orderId other pool.state).world =
          earnedRows orderId pool.state.world := earnedRows_besides other
    refine ⟨kept, granted.about, ?_, ?_⟩
    · rw [rows]
      exact granted.rows
    · rw [rows]
      exact granted.counted
  | @spawns call =>
    refine ⟨kept, ?_, granted.rows, ?_⟩
    · intro role member
      rcases List.mem_append.mp member with old | new
      · exact granted.about role old
      · rw [List.mem_singleton.mp new]
        rintro userId totalAmount same
        cases call with
        | updateStatus dto => cases same
        | handleOrderCompleted user total =>
          cases same
          exact granted.kept.completions _ _ emitted
    · have before := granted.counted
      have opened : (orderDialogue orderId call).start.isGranting =
          isDelivery ⟨call, [], call.program orderId⟩ := by
        cases call <;> rfl
      grind
  | @acts _ front back thread phase op rest split moves allowed acts =>
    subst split
    exact granted_acts granted allowed rfl
  | @fails _ front back thread phase op error rest split moves allowed exposed throws =>
    subst split
    exact granted.quiet kept rfl rfl nofun

end

/-! ### Whole runs -/

section

variable {orderId : Id} {order : Order} {start : World} {turns : List OrderTurn}

theorem granted_run (stored : start.db.orders.row orderId = some order)
    (unrewarded : earnedRows orderId start = [])
    (emitted : Along (orderRace orderId) Emitted ⟨⟨start, []⟩, []⟩ turns) :
    let last := run (orderRace orderId) ⟨⟨start, []⟩, []⟩ turns
    (earnedRows orderId last.state.world).length ≤ deliveries last ∧
      ∀ row ∈ earnedRows orderId last.state.world, PaysOut order row := by
  have initially : Granted orderId order ⟨start, []⟩ [] :=
    ⟨kept_start stored, by simp, by simp [unrewarded], by simp [unrewarded]⟩
  obtain ⟨cast, spoken, granted⟩ := Pool.spoken_invariant (Granted orderId order) speaks_orderCall
    (fun _ _ _ _ _ _ granted emitted spoke => granted_spoke granted emitted spoke) initially emitted
  refine ⟨?_, granted.rows⟩
  have delivered : deliveries (run (orderRace orderId) ⟨⟨start, []⟩, []⟩
      turns) = cast.countP fun role => isDelivery role.1 := by
    unfold deliveries orderRace
    rw [spoken.threads, List.countP_map]
    rfl
  rw [delivered]
  exact (Nat.le_add_right _ _).trans granted.counted

theorem deliveries_le (undelivered : Along (orderRace orderId) Undelivered ⟨⟨start, []⟩, []⟩
      turns) :
    let last := run (orderRace orderId) ⟨⟨start, []⟩, []⟩ turns
    deliveries last ≤ last.state.trail.countP Mark.isCompletion := by
  have preserved : ∀ pool turn, deliveries pool ≤ pool.state.trail.countP Mark.isCompletion →
        Undelivered pool turn → deliveries (orderRace orderId pool turn) ≤
            (orderRace orderId pool turn).state.trail.countP
              Mark.isCompletion := by
    intro pool turn fewer fresh
    have moved := Pool.step_moved updates (OrderCall.program orderId)
      (besidesOrder orderId) pool turn
    unfold orderRace
    generalize Pool.step _ _ _ pool turn = after at moved ⊢
    cases moved with
    | stays | changes => exact fewer
    | @spawns call =>
      show (pool.threads ++ [_]).countP isDelivery ≤ _
      rw [List.countP_append, List.countP_singleton]
      cases call with
      | updateStatus dto => exact fewer
      | handleOrderCompleted userId totalAmount => exact fresh
    | @acts _ front back thread op next threads rest moves acts =>
      have same : deliveries pool = (front ++ thread :: back).countP isDelivery := by
        rw [deliveries, threads]
      rw [same, countP_replaced] at fewer
      show (front ++ _ :: back).countP isDelivery ≤ (pool.state.trail ++ _).countP Mark.isCompletion
      rw [countP_replaced]
      have grown : pool.state.trail.countP Mark.isCompletion ≤ (pool.state.trail ++
            (markIn op pool.state.world).toList).countP
              Mark.isCompletion := by simp
      exact fewer.trans grown
    | @fails _ front back thread op error next threads rest =>
      have same : deliveries pool = (front ++ thread :: back).countP isDelivery := by
        rw [deliveries, threads]
      rw [same, countP_replaced] at fewer
      show (front ++ _ :: back).countP isDelivery ≤ _
      rw [countP_replaced]
      exact fewer
  exact run_invariant preserved (Nat.zero_le _) undelivered

end

/-- In every interleaving of updates and deliveries of the events they emit,
the ledger has a row of points for the order for each delivery at most, and
each is for the buyer and for the points of the total.  Where everybody acts
in turn and no event is delivered again, there is one row at most. -/
theorem points_per_delivery {orderId : Id} {order : Order} {start : World}
    (stored : start.db.orders.row orderId = some order)
    (unrewarded : earnedRows orderId start = []) {turns : List OrderTurn}
    (emitted : Along (orderRace orderId) Emitted ⟨⟨start, []⟩, []⟩ turns) :
    let last := run (orderRace orderId) ⟨⟨start, []⟩, []⟩ turns
    (earnedRows orderId last.state.world).length ≤ deliveries last ∧
      (∀ row ∈ earnedRows orderId last.state.world, PaysOut order row) ∧
      (Along (orderRace orderId) (InTurn orderId) ⟨⟨start, []⟩, []⟩ turns →
        Along (orderRace orderId) Undelivered ⟨⟨start, []⟩, []⟩ turns →
          (earnedRows orderId last.state.world).length ≤ 1) := by
  intro last
  obtain ⟨counted, rows⟩ := granted_run stored unrewarded emitted
  refine ⟨counted, rows, fun inTurn undelivered => ?_⟩
  obtain ⟨cast, sound⟩ := sound_run stored inTurn
  have announced := (orderly_of_sound sound).completedOnce
  exact (counted.trans (deliveries_le undelivered)).trans announced

def deliveredShop : World := openShop.withOrder { lampsInProcessing with status := .delivered }

/-- The order is completed, and its event delivered so often. -/
def completion (times : ℕ) : List OrderTurn := requests [.completed] ++ orderTurns 0 4 ++
    (List.range times).flatMap fun index =>
      .spawn (.handleOrderCompleted 7 200) :: orderTurns (index + 1) 2

theorem lamps_earn_points :
    let last := run (orderRace 0) ⟨⟨deliveredShop, []⟩, []⟩ (completion 1)
    (earnedRows 0 last.state.world).length ≤ deliveries last ∧
      (∀ row ∈ earnedRows 0 last.state.world,
        PaysOut { lampsInProcessing with status := .delivered } row) ∧
      (Along (orderRace 0) (InTurn 0) ⟨⟨deliveredShop, []⟩, []⟩ (completion 1) →
        Along (orderRace 0) Undelivered ⟨⟨deliveredShop, []⟩, []⟩ (completion 1) →
            (earnedRows 0 last.state.world).length ≤ 1) :=
  points_per_delivery (by decide) (by decide) (by decide)

/-- One request completes the order; its event is delivered twice, and the
points are granted twice. -/
theorem points_granted_twice :
    let last := run (orderRace 0) ⟨⟨deliveredShop, []⟩, []⟩ (completion 2)
    earnedRows 0 deliveredShop = [] ∧ last.state.trail =
        [.entered .completed, .completed (7 : Id) (200 : Amount)] ∧
      (earnedRows 0 last.state.world).map RewardPoints.points = [2000, 2000] := by decide +kernel

end MarketX.Commerce
