/-
Module: MarketX.Proofs.ReturnedItems
Purpose: When the approved return requests of an order stay within what the
  order cost, and what a partial one asks back of each product.
Trusted boundary: none beyond the model; the definitions under review are
  Sold, ProperRequest and WithinPurchase
Main exports: Capped, Refundable, approvals_stay_within_order, Sold, request_covered_iff
-/
import Mathlib.Algebra.Order.BigOperators.Group.Finset
import MarketX.Commerce.RefundsService
import MarketX.Effects.Totals
import MarketX.Proofs.OrderDemand

namespace MarketX.Commerce

open Effects Handler RefundsService

/-! ### The property and the condition -/

/-- What a request adds to the approved amount of an order. -/
def approvedPart (orderId : Id) (request : ReturnRequest) : Amount :=
  if request.orderId = orderId ∧ request.status = .approved then
    request.requestedAmount.getD 0
  else 0

/-- The requested amounts of the APPROVED requests of an order together. -/
def World.approvedTotal (world : World) (orderId : Id) : Amount :=
  world.db.returnRequests.total (approvedPart orderId)

/-- No order has more approved than it cost. -/
def Capped (world : World) : Prop := ∀ id order, world.db.orders.row id = some order →
    world.approvedTotal id ≤ order.totalAmount

/-- What the items of a partial refund were sold for. -/
def valueOf (order : Order) (items : List ReturnItem) : Amount :=
  (items.map fun item =>
    (orderItem? order item.listingId).elim 0 OrderItem.price * item.quantity).sum

/-- The order has a request that nobody has reviewed. -/
def World.hasPending (world : World) (orderId : Id) : Prop :=
  ∃ request ∈ world.db.returnRequests.rows, request.orderId = orderId ∧ request.status = .pending

def Leaves (approved : Amount) (order : Order)
    (items : Option (List ReturnItem)) : RefundType → Prop
  -- the whole price goes back once
  | .fullRefund => approved ≤ 0
  -- what is sent back was bought and not yet refunded
  | .partialRefund => approved + valueOf order (items.getD []) ≤ order.totalAmount

instance (approved : Amount) (order : Order) (items : Option (List ReturnItem)) :
    ∀ refundType, Decidable (Leaves approved order items refundType)
  | .fullRefund | .partialRefund => inferInstanceAs (Decidable (_ ≤ _))

/-- What a step has to avoid.  The service looks at the pending request of the
order only: nothing that was approved before is counted. -/
def Refundable (world : World) : ReturnEvent → Prop
  | .call (.createReturnRequest dto) _ =>
    ∀ order ∈ world.db.orders.row dto.orderId,
      order.buyerId = dto.buyerId → order.status = .delivered → ¬ world.hasPending dto.orderId →
          Leaves (world.approvedTotal dto.orderId) order dto.items (finalRefundType dto)
  | _ => True

instance (world : World) (orderId : Id) :
    Decidable (world.hasPending orderId) := inferInstanceAs (Decidable (∃ request ∈ _, _))

instance (world : World) : ∀ event, Decidable (Refundable world event)
  | .call (.createReturnRequest _) _ =>
    inferInstanceAs (Decidable (∀ order ∈ _, _ → _ → _ → Leaves _ _ _ _))
  | .call (.reviewReturnRequest _ _ _) _ | .elapsed _ | .placed _ _
  | .moved _ _ _ => inferInstanceAs (Decidable True)

/-- Where a run starts: every order costs something, as
`OrdersService.create` makes sure, and nothing has been sent back. -/
structure NothingReturned (world : World) : Prop where
  positive : ∀ id order, world.db.orders.row id = some order → 0 < order.totalAmount
  noRequests : ∀ key, world.db.returnRequests.row key = none

/-! ### The two calls -/

variable {order : Order} {amount : Amount} {world after : World} {request : ReturnRequest}

theorem sumItems_from (items : List ReturnItem) (start : Amount)
    (returned : items.foldlM (fun requestedAmount item =>
      match orderItem? order item.listingId with
      | none => (.error (.badRequest s!"Item {item.listingId} not found in order") :
            Except HttpException Amount)
      | some orderItem =>
        .ok (requestedAmount + orderItem.price * item.quantity)) start = .ok amount) :
    amount = start + valueOf order items := by
  induction items generalizing start with
  | nil =>
    cases returned
    simp [valueOf]
  | cons item items ih =>
    rw [List.foldlM_cons] at returned
    cases found : orderItem? order item.listingId with
    | none => simp [found, bind, Except.bind] at returned
    | some orderItem =>
      simp only [found, bind, Except.bind] at returned
      grind [valueOf]

theorem sumItems_eq {items : List ReturnItem} (summed : sumItems order items = .ok amount) :
    amount = valueOf order items := by
  rw [sumItems_from items 0 summed, zero_add]

def valueBack (order : Order) (items : Option (List ReturnItem)) :
    RefundType → Amount
  | .fullRefund => order.totalAmount
  | .partialRefund => valueOf order (items.getD [])

theorem requestedAmount_eq {finalRefundType : RefundType} {items : Option (List ReturnItem)}
    (computed : requestedAmount order finalRefundType items = .ok amount) :
    amount = valueBack order items finalRefundType := by
  cases finalRefundType with
  | fullRefund =>
    cases computed
    rfl
  | partialRefund =>
    match items with
    | none | some [] => cases computed
    | some (item :: items) => exact sumItems_eq computed

/-- What a call does to the requests: nothing, or it stores a new pending one,
or it decides a pending one. -/
inductive Returned (world : World) : ReturnCall → World → Prop where
  | kept {call : ReturnCall} {after : World} (orders : after.db.orders = world.db.orders)
      (requests : after.db.returnRequests = world.db.returnRequests) :
      Returned world call after
  | requested {dto : CreateReturnRequestDto} {order : Order}
      {request : ReturnRequest} {after : World}
      (found : world.db.orders.row dto.orderId = some order) (owner : order.buyerId = dto.buyerId)
      (delivered : order.status = .delivered) (unpending : ¬ world.hasPending dto.orderId)
      (fresh : request.id = world.db.returnRequests.next) (about : request.orderId = dto.orderId)
      (pending : request.status = .pending)
      (computed : requestedAmount order (finalRefundType dto) dto.items =
        .ok (request.requestedAmount.getD 0)) (orders : after.db.orders = world.db.orders)
      (requests : after.db.returnRequests = world.db.returnRequests.save request) :
      Returned world (.createReturnRequest dto) after
  | reviewed {id : Id} {dto : ReviewReturnRequestDto} {reviewerId : Id}
      {request decided : ReturnRequest} {after : World}
      (found : world.db.returnRequests.row id = some request) (pending : request.status = .pending)
      (sameId : decided.id = request.id) (sameOrder : decided.orderId = request.orderId)
      (settled : decided.status ≠ .pending) (within : decided.requestedAmount.getD 0 ≤
        request.requestedAmount.getD 0) (orders : after.db.orders = world.db.orders)
      (requests : after.db.returnRequests = world.db.returnRequests.save decided) :
      Returned world (.reviewReturnRequest id dto reviewerId) after

section

variable {spared : Spared} {world : World}

theorem createReturnRequest_spec (dto : CreateReturnRequestDto) :
    (commerce.shield spared).wp (createReturnRequest dto)
      (fun _ after => Returned world (.createReturnRequest dto) after)
      world := by
  have kept : Returned world (.createReturnRequest dto) world := .kept rfl rfl
  apply wp_await_bind _ _ fun _ _ => kept
  simp only [act]
  cases found : world.db.orders.row dto.orderId with
  | none => exact kept
  | some order =>
    apply wp_guard
    · exact fun _ => kept
    intro owner
    apply wp_guard
    · exact fun _ => kept
    intro delivered
    cases order.deliveredAt with
    | none => exact kept
    | some deliveredAt =>
      apply wp_total_bind _ rfl
      apply wp_guard
      · exact fun _ => kept
      intro inTime
      apply wp_await_bind _ _ fun _ _ => kept
      simp only [act]
      split
      next => exact kept
      next none =>
        cases computed : requestedAmount order (finalRefundType dto) dto.items with
        | error error => exact kept
        | ok amount =>
          apply wp_await_bind _ _ fun _ _ => kept
          apply wp_total_bind _ rfl
          refine .requested found (not_not.mp owner)
            (not_not.mp delivered) ?_ rfl rfl rfl ?_ rfl rfl
          · rintro ⟨request, stored, about, pending⟩
            simp_all
          · exact computed

/-- A decision keeps whose request it is, and approves no more than was
requested. -/
theorem decideReview_ok {request decided : ReturnRequest} {dto : ReviewReturnRequestDto}
    (decides : decideReview request dto = .ok decided) :
    decided.id = request.id ∧ decided.orderId = request.orderId ∧ decided.status ≠ .pending ∧
        decided.requestedAmount.getD 0 ≤ request.requestedAmount.getD 0 := by
  unfold decideReview at decides
  cases action : dto.action with
  | rejected => grind
  | approved =>
    simp only [action] at decides
    split at decides
    next => cases decides
    next within =>
      simp only [Except.ok.injEq] at decides
      subst decides
      refine ⟨rfl, rfl, nofun, ?_⟩
      cases approved : dto.approvedAmount <;> grind

theorem reviewReturnRequest_spec (id : Id) (dto : ReviewReturnRequestDto) (reviewerId : Id) :
    (commerce.shield spared).wp (reviewReturnRequest id dto reviewerId) (fun _ after =>
        Returned world (.reviewReturnRequest id dto reviewerId) after)
      world := by
  have kept : Returned world (.reviewReturnRequest id dto reviewerId) world := .kept rfl rfl
  apply wp_await_bind _ _ fun _ _ => kept
  simp only [act]
  cases found : world.db.returnRequests.row id with
  | none => exact kept
  | some request =>
    apply wp_guard
    · exact fun _ => kept
    intro pending
    cases decides : decideReview request dto with
    | error error => exact kept
    | ok decided =>
      obtain ⟨sameId, sameOrder, settled, within⟩ := decideReview_ok decides
      apply wp_total_bind _ rfl
      apply wp_await_bind _ _ fun _ _ => kept
      apply wp_total_bind _ rfl
      refine .reviewed found (not_not.mp pending) ?_ ?_ ?_ ?_ rfl rfl
      · exact sameId
      · exact sameOrder
      · exact settled
      · exact within

theorem returned_call (world : World) (call : ReturnCall) (faults : List Fault) :
    Returned world call (handleReturn world (.call call faults)) := by
  have holds : (commerce.shield noneSpared).wp call.program
      (fun _ after => Returned world call after) world := by
    cases call with
    | createReturnRequest dto => exact wp_discard _ (createReturnRequest_spec dto)
    | reviewReturnRequest id dto reviewerId =>
      exact wp_discard _ (reviewReturnRequest_spec id dto reviewerId)
  rw [commerce.shield_none] at holds
  exact commerce.wp_sound holds faults

end

/-! ### The invariant -/

/-- Every request is about a stored order; at most one request of an order is
pending, and there is room for it beside what was approved. -/
structure RoomLeft (world : World) : Prop where
  about : ∀ key request, world.db.returnRequests.row key = some request →
    ∃ order, world.db.orders.row request.orderId = some order
  capped : Capped world
  room : ∀ key request, world.db.returnRequests.row key = some request → request.status = .pending →
      ∀ order, world.db.orders.row request.orderId = some order →
        world.approvedTotal request.orderId + request.requestedAmount.getD 0 ≤ order.totalAmount
  single : ∀ key request, world.db.returnRequests.row key = some request →
    ∀ otherKey other, world.db.returnRequests.row otherKey = some other →
      request.status = .pending → other.status = .pending →
        request.orderId = other.orderId → key = otherKey

theorem roomLeft_of_nothingReturned (nothing : NothingReturned world) : RoomLeft world where
  about _ _ stored := by
    rw [nothing.noRequests] at stored
    cases stored
  capped id order stored := by
    rw [World.approvedTotal, Table.total_of_no_rows _ nothing.noRequests]
    exact le_of_lt (nothing.positive id order stored)
  room _ _ stored := by
    rw [nothing.noRequests] at stored
    cases stored
  single _ _ stored := by
    rw [nothing.noRequests] at stored
    cases stored

/-- Orders that come or move leave the invariant alone, as long as none
changes its price. -/
theorem RoomLeft.of_orders (roomLeft : RoomLeft world)
    (requests : after.db.returnRequests = world.db.returnRequests)
    (kept : ∀ id order, world.db.orders.row id = some order →
      ∃ later, after.db.orders.row id = some later)
    (priced : ∀ id later, after.db.orders.row id = some later →
      (∃ order, world.db.orders.row id = some order ∧ order.totalAmount = later.totalAmount) ∨
      (world.db.orders.row id = none ∧ 0 < later.totalAmount)) :
    RoomLeft after := by
  have sameTotal : ∀ orderId, after.approvedTotal orderId = world.approvedTotal orderId := by
    simp_all [World.approvedTotal]
  constructor
  · intro key request stored
    rw [requests] at stored
    obtain ⟨order, found⟩ := roomLeft.about key request stored
    exact kept _ order found
  · intro id later stored
    rw [sameTotal]
    rcases priced id later stored with ⟨order, found, same⟩ | ⟨new, positive⟩
    · rw [← same]
      exact roomLeft.capped id order found
    · have nothing : world.approvedTotal id = 0 := by
        apply List.sum_eq_zero
        intro part member
        obtain ⟨request, listed, rfl⟩ := List.mem_map.mp member
        obtain ⟨order, found⟩ := roomLeft.about _ request (Table.mem_rows.mp listed)
        apply if_neg
        grind
      rw [nothing]
      exact le_of_lt positive
  · intro key request stored pending later found
    rw [requests] at stored
    rw [sameTotal]
    obtain ⟨order, foundBefore⟩ := roomLeft.about key request stored
    rcases priced _ later found with ⟨before, foundOrder, same⟩ | ⟨new, _⟩
    · rw [← same]
      exact roomLeft.room key request stored pending before foundOrder
    · rw [new] at foundBefore
      cases foundBefore
  · intro key request stored otherKey other storedOther
    rw [requests] at stored storedOther
    exact roomLeft.single key request stored otherKey other storedOther

theorem RoomLeft.requested (roomLeft : RoomLeft world)
    (found : world.db.orders.row request.orderId = some order)
    (unpending : ¬ world.hasPending request.orderId)
    (fresh : request.id = world.db.returnRequests.next) (pending : request.status = .pending)
    (room : world.approvedTotal request.orderId +
      request.requestedAmount.getD 0 ≤ order.totalAmount)
    (orders : after.db.orders = world.db.orders) (requests : after.db.returnRequests =
      world.db.returnRequests.save request) :
    RoomLeft after := by
  have unused : world.db.returnRequests.row (Keyed.key request) = none := by
    show world.db.returnRequests.row request.id = none
    rw [fresh, Table.row_next]
  have sameTotal : ∀ orderId, after.approvedTotal orderId = world.approvedTotal orderId := by
    simp_all [World.approvedTotal, Table.total_insert, approvedPart]
  have alone : ∀ key other, world.db.returnRequests.row key = some other →
      other.status = .pending → other.orderId ≠ request.orderId :=
    fun key other stored otherPending about =>
      unpending ⟨other, Table.mem_rows_of_row stored, about, otherPending⟩
  constructor
  · intro key other stored
    rw [orders]
    rw [requests, Table.row_save] at stored
    split at stored
    · cases stored
      exact ⟨order, found⟩
    · exact roomLeft.about key other stored
  · intro id later stored
    rw [orders] at stored
    rw [sameTotal]
    exact roomLeft.capped id later stored
  · grind [Table.row_save, room]
  · intro key first stored otherKey second storedSecond firstPending secondPending sameOrder
    rw [requests, Table.row_save] at stored storedSecond
    split at stored
    next here => grind
    next =>
      split at storedSecond
      next => grind
      next =>
        exact roomLeft.single key first stored otherKey second storedSecond
          firstPending secondPending sameOrder

/-- The pending request of an order is decided, for no more than was
requested. -/
theorem RoomLeft.reviewed {id : Id} {decided : ReturnRequest} (roomLeft : RoomLeft world)
    (found : world.db.returnRequests.row id = some request) (pending : request.status = .pending)
    (sameId : decided.id = request.id) (sameOrder : decided.orderId = request.orderId)
    (settled : decided.status ≠ .pending) (within : decided.requestedAmount.getD 0 ≤
      request.requestedAmount.getD 0) (orders : after.db.orders = world.db.orders)
    (requests : after.db.returnRequests = world.db.returnRequests.save decided) :
    RoomLeft after := by
  have key : Keyed.key decided = id := sameId.trans (world.db.returnRequests.keyed found)
  have total : ∀ orderId, after.approvedTotal orderId =
      world.approvedTotal orderId + approvedPart orderId decided := by
    grind [Table.total_replace, approvedPart, World.approvedTotal]
  have unchanged : ∀ orderId, orderId ≠ request.orderId →
      after.approvedTotal orderId = world.approvedTotal orderId := by
    intro orderId other
    rw [total, approvedPart, if_neg, add_zero]
    rintro ⟨about, _⟩
    exact other (about.symm.trans sameOrder)
  -- another pending request belongs to another order
  have others : ∀ otherKey other, after.db.returnRequests.row otherKey = some other →
        other.status = .pending → world.db.returnRequests.row otherKey = some other ∧
            other.orderId ≠ request.orderId := by
    intro otherKey other stored otherPending
    rw [requests, Table.row_save, key] at stored
    split at stored
    · cases stored
      exact absurd otherPending settled
    next different =>
      refine ⟨stored, fun about => different ?_⟩
      exact roomLeft.single otherKey other stored id request found otherPending pending about
  constructor
  · intro otherKey other stored
    rw [orders]
    rw [requests, Table.row_save] at stored
    split at stored
    · cases stored
      rw [sameOrder]
      exact roomLeft.about id request found
    · exact roomLeft.about otherKey other stored
  · intro orderId order stored
    rw [orders] at stored
    by_cases same : orderId = request.orderId
    · subst same
      have room := roomLeft.room id request found pending order stored
      have part : approvedPart request.orderId decided ≤
          max 0 (request.requestedAmount.getD 0) := by grind [approvedPart]
      have capped := roomLeft.capped _ order stored
      grind
    · rw [unchanged orderId same]
      exact roomLeft.capped orderId order stored
  · intro otherKey other stored otherPending order foundOrder
    obtain ⟨storedBefore, elsewhere⟩ := others otherKey other stored otherPending
    rw [orders] at foundOrder
    rw [unchanged _ elsewhere]
    exact roomLeft.room otherKey other storedBefore otherPending order foundOrder
  · intro firstKey first stored secondKey second storedSecond firstPending secondPending sameOrders
    exact roomLeft.single firstKey first
      (others firstKey first stored firstPending).1 secondKey second
      (others secondKey second storedSecond secondPending).1 firstPending secondPending sameOrders

/-! ### A whole run -/

theorem roomLeft_step (world : World) (event : ReturnEvent)
    (roomLeft : RoomLeft world) (refundable : Refundable world event) :
    RoomLeft (handleReturn world event) := by
  cases event with
  | elapsed now => exact ⟨roomLeft.about, roomLeft.capped, roomLeft.room, roomLeft.single⟩
  | placed order positive =>
    refine roomLeft.of_orders ?_ ?_ ?_
    · rfl
    · intro id earlier found
      refine ⟨earlier, ?_⟩
      show (world.db.orders.save _).row id = some earlier
      rw [Table.row_save_of_ne _ _ _]
      · exact found
      · exact Nat.ne_of_lt (world.db.orders.bounded found)
    · intro id later stored
      change (world.db.orders.save _).row id = some later at stored
      rw [Table.row_save] at stored
      split at stored
      next here =>
        cases stored
        refine .inr ⟨?_, positive⟩
        rw [here]
        exact Table.row_next _
      next => exact .inl ⟨later, stored, rfl⟩
  | moved key status deliveredAt =>
    simp only [handleReturn]
    cases found : world.db.orders.row key with
    | none => exact roomLeft
    | some order =>
      refine roomLeft.of_orders ?_ ?_ ?_
      · rfl
      · intro id earlier foundEarlier
        show ∃ later, (world.db.orders.save _).row id = some later
        grind [Table.row_save]
      · intro id later stored
        change (world.db.orders.save _).row id = some later at stored
        rw [Table.row_save] at stored
        split at stored
        next here =>
          cases stored
          refine .inl ⟨order, ?_, rfl⟩
          rw [here]
          rw [show order.id = key from world.db.orders.keyed found]
          exact found
        next => exact .inl ⟨later, stored, rfl⟩
  | call call faults =>
    cases returned_call world call faults with
    | kept orders requests =>
      apply roomLeft.of_orders requests
      · simp_all
      · simp_all
    | @requested dto order request _ found owner delivered unpending fresh
        about pending computed orders requests =>
        have allowed := refundable order found owner delivered unpending
        rw [← about] at found unpending allowed
        apply roomLeft.requested found unpending fresh pending _ orders requests
        rw [requestedAmount_eq computed]
        cases type : finalRefundType dto with
        | fullRefund => simp_all [Leaves, valueBack]
        | partialRefund => simp_all [Leaves, valueBack]
    | reviewed found pending sameId sameOrder settled within orders requests =>
      exact roomLeft.reviewed found pending sameId sameOrder settled within orders requests

/-- In a run in which every request leaves what was approved before out of
account only where nothing was, the approved requests of an order never exceed
what the order cost. -/
theorem approvals_stay_within_order {start : World}
    {events : List ReturnEvent} (nothing : NothingReturned start)
    (refundable : Along handleReturn Refundable start events) :
    Capped (run handleReturn start events) :=
  (run_invariant roomLeft_step (roomLeft_of_nothingReturned nothing) refundable).capped

/-! ### One order -/

/-- Two lamps at 100, which have arrived. -/
def arrivedLamps : Order where
  id := 0
  buyerId := 7
  totalAmount := 200
  status := .delivered
  items :=
    [{ productId := 0, productName := "lamp", quantity := 2, price := 100
       subtotal := 200, priceCurrency := .USD, quantity_pos := pair_positive }]
  deliveredAt := some 0

def arrivedShop : World :=
  { openShop with
    db := { openShop.db with orders := .save .empty arrivedLamps } }

theorem arrivedShop_nothingReturned : NothingReturned arrivedShop where
  positive id order stored := by
    simp only [arrivedShop, Table.row_save, Table.row_empty] at stored
    split at stored
    · cases stored
      decide
    · cases stored
  noRequests _ := rfl

/-- User 7 sends one of the lamps back. -/
def oneLampBack : ReturnEvent := .call (.createReturnRequest
    { orderId := 0, buyerId := 7, sellerId := 8, reason := .defective
      refundType := some .partialRefund
      items :=
        some [{ listingId := 0, quantity := 1, quantity_pos := by decide }] })
    []

/-- User 7 sends everything back. -/
def allBack : ReturnEvent := .call (.createReturnRequest
    { orderId := 0, buyerId := 7, sellerId := 8, reason := .defective }) []

def approve (id : Id) : ReturnEvent := .call (.reviewReturnRequest id { action := .approved } 9) []

theorem lamps_sent_back_one_by_one :
    Capped (run handleReturn arrivedShop [oneLampBack, approve 0, oneLampBack, approve 1]) :=
  approvals_stay_within_order arrivedShop_nothingReturned (by decide +kernel)

/-- The whole price is approved twice. -/
theorem second_full_refund_exceeds_order :
    NothingReturned arrivedShop ∧ ¬ Capped (run handleReturn arrivedShop
        [allBack, approve 0, allBack, approve 1]) := by
  refine ⟨arrivedShop_nothingReturned, fun capped => ?_⟩
  have stored : (run handleReturn arrivedShop
      [allBack, approve 0, allBack, approve 1]).db.orders.row 0 =
        some arrivedLamps := by decide +kernel
  exact absurd (capped 0 arrivedLamps stored) (by decide +kernel)

end MarketX.Commerce

namespace MarketX.Commerce

open Effects Handler RefundsService

/-! ### Orders as they are sold -/

/-- The total is that of the items, whose prices are not negative; and a
product that is listed twice has one price. -/
structure Sold (order : Order) : Prop where
  total : order.totalAmount =
    (order.items.map fun item => item.price * (item.quantity : Amount)).sum
  priced : ∀ item ∈ order.items, 0 ≤ item.price
  uniform : ∀ item ∈ order.items, ∀ other ∈ order.items,
    item.productId = other.productId → item.price = other.price

def OrdersSold (world : World) : Prop :=
  ∀ id order, world.db.orders.row id = some order → Sold order

def Priced (catalogue : Id → Option DisplayProduct) : Prop :=
  ∀ id product, catalogue id = some product → 0 ≤ product.price

section

variable {world : World}

theorem pricedItem_price (item : CreateOrderItemDto) :
    (pricedItem world item).price =
      (world.catalogue item.productId).elim 0 DisplayProduct.price := by
  unfold pricedItem
  cases world.catalogue item.productId <;> rfl

theorem sold_pricedItems (priced : Priced world.catalogue) {order : Order}
    {items : List CreateOrderItemDto} (listed : order.items = items.map (pricedItem world))
    (total : order.totalAmount = ((items.map (pricedItem world)).map OrderItem.subtotal).sum) :
    Sold order := by
  refine ⟨?_, ?_, ?_⟩
  · rw [total, listed, List.map_map, List.map_map]
    rfl
  · rw [listed]
    refine List.forall_mem_map.mpr fun item _ => ?_
    rw [pricedItem_price]
    cases shown : world.catalogue item.productId with
    | none => exact le_rfl
    | some product => exact priced _ product shown
  · rw [listed]
    refine List.forall_mem_map.mpr fun item _ => List.forall_mem_map.mpr fun other _ same => ?_
    have named : item.productId = other.productId := same
    rw [pricedItem_price, pricedItem_price, named]

variable {spared : Spared}

theorem create_sold (dto : CreateOrderDto) (priced : Priced world.catalogue)
    (sold : OrdersSold world) :
    (commerce.shield spared).wp (OrdersService.create dto)
      (fun _ after => OrdersSold after) world := by
  have undone : ∀ after : World, OrdersSold (after.withTables world.db) :=
    fun _ => sold
  apply wp_transaction _ fun _ => sold
  rw [wp_bind]
  apply Handler.wp_mono _ priceItems_spec
  rintro result start ⟨rfl, outcome⟩
  cases result with
  | error error => exact undone _
  | ok orderItems =>
    apply wp_guard
    · exact fun _ => undone _
    intro _
    apply wp_guard
    · exact fun _ => undone _
    intro _
    apply wp_await_bind _ _ fun _ _ => undone _
    rw [wp_bind]
    apply Handler.wp_mono _ (reserveItems_spec _ _)
    intro result after stocked
    cases result with
    | error error => exact undone _
    | ok value =>
      have placed : OrdersSold after := by
        intro id order stored
        rw [stocked.books.orders] at stored
        change (start.db.orders.save _).row id = some order at stored
        rw [Table.row_save] at stored
        split at stored
        · grind [sold_pricedItems]
        · exact sold id order stored
      have ends : ∀ (savedOrder : Order) (final : World), final.db = after.db →
            settles start (fun _ after => OrdersSold after) (.ok savedOrder) final := by
        intro savedOrder final same
        refine ⟨?_, fun _ => undone _⟩
        intro id order stored
        rw [same] at stored
        exact placed id order stored
      apply wp_branch
      · exact fun _ => wp_total_bind _ rfl (ends _ _ rfl)
      · exact fun _ => ends _ _ rfl

end

section

variable {foldAddress : String → String}

variable {world : World} {id : Id} {call : CommerceCall} {order later : Order}

theorem Rewritten.sold (rewritten : Rewritten foldAddress world id call order later)
    (sold : Sold order) : Sold later := by
  have same : later.items = order.items ∧ later.totalAmount = order.totalAmount := by
    cases rewritten with
    | @moved dto _ _ => cases dto.status <;> exact ⟨rfl, rfl⟩
    | cancelled | paid | shipped | delivered | held => exact ⟨rfl, rfl⟩
  obtain ⟨items, total⟩ := same
  refine ⟨?_, ?_, ?_⟩
  · rw [total, items]
    exact sold.total
  · rw [items]
    exact sold.priced
  · rw [items]
    exact sold.uniform

theorem missing_of_save {orders : Table Order} {key : Id} (found : orders.row key = some order)
    (same : later.id = order.id) (missing : orders.row id = none) :
    (orders.save later).row id = none := by
  have keyed : Keyed.key later = key := same.trans (orders.keyed found)
  grind [Table.row_save_of_ne]

theorem Booked.added {spared : Spared} {after : World} {returns : Bool}
    (booked : Booked foldAddress spared world call returns after)
    (missing : world.db.orders.row id = none) (stored : after.db.orders.row id = some order) :
    ∃ dto, call = .create dto := by
  have none : ∀ {books : World}, SameBooks books after →
      books.db.orders.row id = none → ∃ dto, call = .create dto := by
    intro books same gone
    rw [same.orders, gone] at stored
    cases stored
  cases booked with
  | created => exact ⟨_, rfl⟩
  | kept books => exact none books missing
  | initiated _ _ _ _ _ books | refused _ _ books
  | halfConfirmed _ _ _ _ books | timedOut _ _ books
  | labelled _ _ _ _ books | forwarded _ books => exact none books missing
  | cancelled found _ _ stocked => exact none stocked.books (missing_of_save found rfl missing)
  | moved found _ _ books => exact none books (missing_of_save found (movedOrder_id _ _ _) missing)
  | confirmed _ _ ordered _ _ books => exact none books (missing_of_save ordered rfl missing)
  | shipped found _ _ _ books => exact none books (missing_of_save found rfl missing)
  | delivered _ ordered _ _ books => exact none books (missing_of_save ordered rfl missing)
  | held _ found _ _ books => exact none books (missing_of_save found rfl missing)

def KeepsPrices : Event → Prop
  | .elsewhere _ catalogue _ _ => Priced catalogue
  | .call _ _ => True

def SameCatalogue (world after : World) : Prop := after.catalogue = world.catalogue

instance : IsPreorder World SameCatalogue where
  refl _ := rfl
  trans _ _ _ first second := second.trans first

theorem sameCatalogue_act (op : Op) (world : World) :
    SameCatalogue world (act op world).2 := by
  cases op with
  | saveListingEntity listing =>
    rw [act]
    split <;> rfl
  | _ => rfl

theorem catalogue_trade (world : World) (call : CommerceCall) (faults : List Fault) :
    (trade foldAddress world (.call call faults)).catalogue =
      world.catalogue :=
  (Respects.of_acts (H := commerce) sameCatalogue_act _).exec faults world

theorem ordersSold_trade (world : World) (event : Event)
    (holds : OrdersSold world ∧ Priced world.catalogue) (keeps : KeepsPrices event) :
    OrdersSold (trade foldAddress world event) ∧
      Priced (trade foldAddress world event).catalogue := by
  obtain ⟨sold, priced⟩ := holds
  cases event with
  | elsewhere now catalogue geoDistance wallets => exact ⟨sold, keeps⟩
  | call call faults =>
    refine ⟨?_, by rw [catalogue_trade]; exact priced⟩
    intro id order stored
    have booked := booked_call foldAddress world call faults
    rcases booked.order_row id with same | ⟨missing, new, _⟩ |
      ⟨earlier, later, found, storedLater, rewritten⟩
    · exact sold id order (same.symm.trans stored)
    · obtain ⟨dto, rfl⟩ := booked.added missing stored
      have created : (commerce.shield noneSpared).wp
          (CommerceCall.program foldAddress (.create dto))
          (fun _ after => OrdersSold after) world := wp_discard _ (create_sold dto priced sold)
      rw [commerce.shield_none] at created
      exact commerce.wp_sound created faults id order stored
    · cases storedLater.symm.trans stored
      exact rewritten.sold (sold id earlier found)

/-- In every run of the shop in which nothing is displayed for less than
nothing, every order is stored as it was sold. -/
theorem orders_sold_run {start : World} {events : List Event}
    (empty : ∀ id, start.db.orders.row id = none) (priced : Priced start.catalogue)
    (keeps : ∀ event ∈ events, KeepsPrices event) :
    OrdersSold (run (trade foldAddress) start events) := by
  have initially : OrdersSold start := by
    intro id order stored
    rw [empty] at stored
    cases stored
  have holds : OrdersSold (run (trade foldAddress) start events) ∧
      Priced (run (trade foldAddress) start events).catalogue :=
    run_invariant ordersSold_trade ⟨initially, priced⟩ (along_of_forall keeps)
  exact holds.1

end

/-! ### What a request asks back -/

abbrev requestedOf (items : List ReturnItem) (productId : Id) : ℤ :=
  weightUnder ReturnItem.listingId ReturnItem.quantity items productId

abbrev purchasedOf (order : Order) (productId : Id) : ℤ :=
  weightUnder OrderItem.productId OrderItem.quantity order.items productId

def priceOf (order : Order) (productId : Id) : Amount :=
  (orderItem? order productId).elim 0 OrderItem.price

def productsOf (order : Order) : Finset Id :=
  (order.items.map OrderItem.productId).toFinset

/-- Of every product the request asks back something, and no more than was
bought; so its amount, which is what that much of each product cost, is within
the order's. -/
structure ProperRequest (order : Order) (items : List ReturnItem)
    (request : ReturnRequest) : Prop where
  bought : ∀ item ∈ items, 0 < requestedOf items item.listingId ∧
    requestedOf items item.listingId ≤ purchasedOf order item.listingId
  amount : request.requestedAmount = some (∑ productId ∈ productsOf order,
      priceOf order productId * (requestedOf items productId : Amount))
  within : ∀ amount ∈ request.requestedAmount, amount ≤ order.totalAmount

/-- The lines that name one product ask together for what was bought of it at
most. -/
def WithinPurchase (order : Order) (items : List ReturnItem) : Prop := ∀ item ∈ items,
    requestedOf items item.listingId ≤ purchasedOf order item.listingId

section

variable {order : Order} {items : List ReturnItem}

theorem found_of_sumItems {amount : Amount} (summed : sumItems order items = .ok amount) :
    ∀ item ∈ items, item.listingId ∈ productsOf order := by
  unfold sumItems at summed
  generalize (0 : Amount) = start at summed
  induction items generalizing start with
  | nil => exact List.forall_mem_nil _
  | cons item items ih =>
    rw [List.foldlM_cons] at summed
    cases found : orderItem? order item.listingId with
    | none => simp [found, bind, Except.bind] at summed
    | some orderItem =>
      simp only [found, bind, Except.bind] at summed
      refine List.forall_mem_cons.mpr ⟨?_, ih _ summed⟩
      have listed := List.mem_of_find?_eq_some found
      have named := List.find?_some found
      exact List.mem_toFinset.mpr (List.mem_map.mpr ⟨orderItem, listed, of_decide_eq_true named⟩)

theorem requestedOf_pos {item : ReturnItem} (member : item ∈ items) :
    0 < requestedOf items item.listingId := item.quantity_pos.trans_lt' zero_lt_one |>.trans_le
    (le_weightUnder (fun line => zero_le_one.trans line.quantity_pos) member)

theorem valueOf_grouped (named : ∀ item ∈ items, item.listingId ∈ productsOf order) :
    valueOf order items = ∑ productId ∈ productsOf order,
      priceOf order productId * (requestedOf items productId : Amount) := by
  show (items.map fun item => priceOf order item.listingId * (item.quantity : Amount)).sum = _
  rw [sum_grouped (priceOf order) named]
  exact Finset.sum_congr rfl fun productId _ => by rw [weightUnder_intCast]

theorem Sold.priceOf_item (sold : Sold order) {item : OrderItem} (member : item ∈ order.items) :
    priceOf order item.productId = item.price := by
  unfold priceOf orderItem?
  cases found : order.items.find? fun other => other.productId = item.productId with
  | none => grind
  | some other =>
    have named := List.find?_some found
    exact sold.uniform other (List.mem_of_find?_eq_some found) item member (of_decide_eq_true named)

theorem Sold.total_grouped (sold : Sold order) :
    order.totalAmount = ∑ productId ∈ productsOf order,
      priceOf order productId * (purchasedOf order productId : Amount) := by
  have priced : (order.items.map fun item =>
      item.price * (item.quantity : Amount)) = order.items.map fun item =>
          priceOf order item.productId * (item.quantity : Amount) :=
    List.map_congr_left fun item member => by rw [sold.priceOf_item member]
  rw [sold.total, priced, sum_grouped (priceOf order)
    (fun item member => List.mem_toFinset.mpr (List.mem_map_of_mem member))]
  exact Finset.sum_congr rfl fun productId _ => by rw [weightUnder_intCast]

theorem Sold.priceOf_nonneg (sold : Sold order) (productId : Id) :
    0 ≤ priceOf order productId := by
  unfold priceOf
  cases found : orderItem? order productId with
  | none => exact le_rfl
  | some item => exact sold.priced item (List.mem_of_find?_eq_some found)

/-- What is asked back of each product within what was bought costs no more
than the order. -/
theorem Sold.valueOf_le (sold : Sold order)
    (named : ∀ item ∈ items, item.listingId ∈ productsOf order)
    (within : WithinPurchase order items) :
    valueOf order items ≤ order.totalAmount := by
  rw [valueOf_grouped named, sold.total_grouped]
  refine Finset.sum_le_sum fun productId _ =>
    mul_le_mul_of_nonneg_left ?_ (sold.priceOf_nonneg productId)
  rw [Int.cast_le]
  by_cases asked : ∃ item ∈ items, item.listingId = productId
  · obtain ⟨item, member, rfl⟩ := asked
    exact within item member
  · have nothing : requestedOf items productId = 0 := by
      refine List.sum_eq_zero fun quantity member => ?_
      grind
    rw [nothing]
    exact weightUnder_nonneg (fun line => zero_le_one.trans line.quantity_pos) _

end

/-! ### The call -/

section

variable {world : World} {dto : CreateReturnRequestDto} {order : Order}

/-- A partial request that is made has the value of its lines, all of which
name products of the order. -/
theorem wp_createReturnRequest (found : world.db.orders.row dto.orderId = some order)
    (inPart : finalRefundType dto = .partialRefund) :
    commerce.wp (createReturnRequest dto) (fun outcome _ => ∀ request, outcome = .ok request →
        sumItems order (dto.items.getD []) = .ok (valueOf order (dto.items.getD [])) ∧
          request.requestedAmount = some (valueOf order (dto.items.getD []))) world := by
  rw [← commerce.shield_none]
  apply wp_await_bind _ _ fun _ _ _ => by intros; contradiction
  simp only [act, found]
  apply wp_guard
  · exact fun _ _ => by intros; contradiction
  intro owner
  apply wp_guard
  · exact fun _ _ => by intros; contradiction
  intro delivered
  cases order.deliveredAt with
  | none => exact fun _ => by intros; contradiction
  | some deliveredAt =>
    apply wp_total_bind _ rfl
    apply wp_guard
    · exact fun _ _ => by intros; contradiction
    intro inTime
    apply wp_await_bind _ _ fun _ _ _ => by intros; contradiction
    split
    next => exact fun _ => by intros; contradiction
    next unpending =>
      rw [wp_bind, wp_ofExcept, inPart]
      cases computed : requestedAmount order .partialRefund dto.items with
      | error error => exact fun _ => by intros; contradiction
      | ok amount =>
        apply wp_await_bind _ _ fun _ _ _ => by intros; contradiction
        apply wp_total_bind _ rfl
        rintro request ⟨⟩
        have summed : sumItems order (dto.items.getD []) = .ok amount := by
          rcases listed : dto.items with _ | _ | ⟨item, items⟩ <;> rw [listed] at computed
          · cases computed
          · cases computed
          · exact computed
        rw [← sumItems_eq summed]
        exact ⟨summed, rfl⟩

/-- A partial request that is made covers no more than was bought iff the
lines for each product ask for that much at most. -/
theorem request_covered_iff {faults : List Fault} {request : ReturnRequest}
    (found : world.db.orders.row dto.orderId = some order)
    (sold : Sold order) (inPart : finalRefundType dto = .partialRefund)
    (made : (commerce.exec (createReturnRequest dto) faults world).1 = .ok request) :
    ProperRequest order (dto.items.getD []) request ↔ WithinPurchase order (dto.items.getD []) := by
  obtain ⟨summed, amount⟩ := wp_sound (H := commerce) (wp_createReturnRequest found inPart) faults
      request made
  have named := found_of_sumItems summed
  constructor
  · exact fun covered item member => (covered.bought item member).2
  · intro within
    refine ⟨fun item member => ⟨requestedOf_pos member, within item member⟩, ?_, ?_⟩
    · rw [amount, valueOf_grouped named]
    · rw [amount]
      rintro value ⟨⟩
      exact sold.valueOf_le named within

end

/-! ### Two lamps -/

theorem arrivedLamps_sold : Sold arrivedLamps := by
  refine ⟨by decide +kernel, ?_, ?_⟩
  · simp [arrivedLamps]
  · simp [arrivedLamps]

def lampsBack (lines : List ReturnItem) : CreateReturnRequestDto :=
  { orderId := 0, buyerId := 7, sellerId := 8, reason := .defective
    refundType := some .partialRefund
    items := some lines }

def oneLamp : ReturnItem :=
  { listingId := 0, quantity := 1, quantity_pos := by decide }

def madeFor (lines : List ReturnItem) : Except HttpException ReturnRequest :=
  (commerce.exec (createReturnRequest (lampsBack lines)) [] arrivedShop).1

theorem exists_of_madeFor {lines : List ReturnItem} {amount : Amount}
    (same : (madeFor lines).map ReturnRequest.requestedAmount = .ok (some amount)) :
    ∃ request, madeFor lines = .ok request ∧ request.requestedAmount = some amount := by
  cases made : madeFor lines with
  | error error =>
    rw [made] at same
    cases same
  | ok request =>
    rw [made] at same
    exact ⟨request, rfl, Except.ok.inj same⟩

/-- Of two lamps that were bought, two are sent back in two lines. -/
theorem two_lamps_back :
    ∃ request, madeFor [oneLamp, oneLamp] = .ok request ∧
      ProperRequest arrivedLamps [oneLamp, oneLamp] request := by
  obtain ⟨request, made, _⟩ := exists_of_madeFor
    (by decide +kernel : (madeFor [oneLamp, oneLamp]).map
      ReturnRequest.requestedAmount = .ok (some 200))
  have found : arrivedShop.db.orders.row
      (lampsBack [oneLamp, oneLamp]).orderId = some arrivedLamps := rfl
  refine ⟨request, made, (request_covered_iff found arrivedLamps_sold rfl made).mpr ?_⟩
  unfold WithinPurchase
  decide

/-- Three are sent back in three lines, for more than the order cost. -/
theorem three_of_two_lamps_back :
    ∃ request, madeFor [oneLamp, oneLamp, oneLamp] = .ok request ∧
      request.requestedAmount = some 300 ∧ arrivedLamps.totalAmount = 200 ∧
      ¬ ProperRequest arrivedLamps [oneLamp, oneLamp, oneLamp] request := by
  obtain ⟨request, made, amount⟩ := exists_of_madeFor
    (by decide +kernel : (madeFor [oneLamp, oneLamp, oneLamp]).map
      ReturnRequest.requestedAmount = .ok (some 300))
  refine ⟨request, made, amount, rfl, fun covered => ?_⟩
  exact absurd (covered.within 300 amount) (by decide)

end MarketX.Commerce
