/-
Module: MarketX.Proofs.StoredOrderMoney
Purpose: For which orders the row that `create` leaves has the money that was
  agreed.
Trusted boundary: human-reviewed definition of Agreed, StoresAsAgreed and
  Storable
Main exports: orderTotal, Agreed, StoresAsAgreed, stores_iff_storable
-/
import MarketX.Effects.Traces
import MarketX.Proofs.OrderDemand

namespace MarketX.Commerce

open Effects Handler OrdersService

/-! ### The property -/

section

variable (world : World) (dto : CreateOrderDto)

/-- What the items of an order cost together. -/
def orderTotal : Amount := (dto.items.map (lineTotal world)).sum

/-- The row has the money of the order. -/
structure Agreed (row : Order) : Prop where
  currency : row.currency = dto.paymentCurrency.getD .USD
  totalAmount : row.totalAmount = orderTotal world dto
  remainingAmount : row.remainingAmount = orderTotal world dto
  positive : 0 < row.totalAmount
  releasedAmount : row.releasedAmount = 0
  milestones : ∀ milestone ∈ row.milestones.getD [], 0 < milestone.amount
  withinTotal :
    ((row.milestones.getD []).map OrderMilestone.amount).sum ≤ row.totalAmount

/-- A call that goes through where the table takes every value goes through
where it has columns, and the row it leaves has the money of the order. -/
def StoresAsAgreed : Prop := ∀ faults, (commerce.exec (create dto) faults world).1.isOk = true →
    ∃ order row, (commerce.exec (createStored dto) faults world).1 = .ok order ∧
        (commerce.exec (createStored dto) faults world).2.db.orders.row order.id = some row ∧
        Agreed world dto row

/-- The currency has three letters, the total is a number of hundredths below
ten thousand million, the milestones cost something, and the address is not too
long. -/
structure Storable : Prop where
  currency : (toString (dto.paymentCurrency.getD .USD)).length ≤ 3
  hundredths : ∃ hundredths : ℤ, orderTotal world dto = hundredths / 100
  small : orderTotal world dto < 10 ^ 10
  milestones : ∀ milestone ∈ dto.milestones.getD [], 0 < milestone.amount
  address : ∀ address ∈ dto.shippingAddress, address.length ≤ 255

def checkedOrder : Order where
  id := 0
  buyerId := dto.buyerId
  totalAmount :=
    ((dto.items.map (pricedItem world)).map OrderItem.subtotal).sum
  currency := dto.paymentCurrency.getD .USD
  status := .pending
  paymentStatus := .unpaid
  items := dto.items.map (pricedItem world)
  escrowType := dto.escrowType
  milestones := dto.milestones.map fun milestones => milestones.map orderMilestone
  releasedAmount := 0
  remainingAmount :=
    ((dto.items.map (pricedItem world)).map OrderItem.subtotal).sum
  shippingAddress := dto.shippingAddress

end

/-! ### Before the save -/

section

variable {world : World} {dto : CreateOrderDto}

theorem checkout_reads (world : World) (dto : CreateOrderDto) :
    commerce.wp (checkout dto) (fun result after => after = world ∧ ∀ order, result = .ok order →
        Orderable world dto ∧ order = checkedOrder world dto) world := by
  unfold checkout
  rw [wp_bind]
  apply Handler.wp_mono _ (priceItems_reads world dto)
  rintro result after ⟨rfl, priced⟩
  cases result with
  | error error => exact ⟨rfl, fun _ same => nomatch same⟩
  | ok items =>
    obtain ⟨displayed, rfl⟩ := priced items rfl
    apply wp_guard
    · exact fun _ => ⟨rfl, fun _ same => nomatch same⟩
    intro positive
    apply wp_guard
    · exact fun _ => ⟨rfl, fun _ same => nomatch same⟩
    intro within
    refine ⟨rfl, fun order same => ?_⟩
    cases same
    rw [total_pricedItems] at positive within
    rw [total_orderMilestones] at within
    exact ⟨⟨displayed, not_le.mp positive, not_lt.mp within⟩, rfl⟩

end

/-! ### After the save -/

def OffOrders : Op → Prop
  | .findProduct _ | .saveProduct _ | .insertHistory _ | .commit | .emit _ => True
  | _ => False

def AlikeOffOrders (world other : World) : Prop :=
  other = world.withTables { world.db with orders := other.db.orders }

theorem act_offOrders (op : Op) (world other : World) (off : OffOrders op)
    (alike : AlikeOffOrders world other) :
    (act op world).1 = (act op other).1 ∧
      AlikeOffOrders (act op world).2 (act op other).2 := by
  rw [alike]
  cases op with
  | findProduct | saveProduct | insertHistory | commit | emit => exact ⟨rfl, rfl⟩
  | _ => cases off

theorem orders_offOrders (orders : Table Order) (op : Op) (world : World)
    (off : OffOrders op) (same : world.db.orders = orders) :
    (act op world).2.db.orders = orders := by
  cases op with
  | findProduct | saveProduct | insertHistory | commit | emit => exact same
  | _ => cases off

/-- What is left of `create` when the order is saved. -/
def finish (savedOrder : Order) : Service Order := do
  let order ← fulfil savedOrder
  await .commit
  pure order

theorem finish_uses (savedOrder : Order) :
    (finish savedOrder).Uses OffOrders := by
  have reserves : ∀ item : OrderItem,
      (InventoryService.reserveInventory item.productId savedOrder.buyerId
        item.quantity).Uses OffOrders := by
    intro item
    refine (Program.uses_perform trivial).bind fun product? => ?_
    cases product? with
    | none => trivial
    | some product =>
      refine .guard _ ?_
      refine (Program.uses_perform trivial).bind fun _ =>
        (Program.uses_perform trivial).bind fun _ => ?_
      exact .branch _ ((Program.uses_perform trivial).bind fun _ => trivial) trivial
  refine .bind ?_ fun _ => (Program.uses_perform trivial).bind fun _ => trivial
  refine .bind (.forM (fun item => (reserves item).bind fun _ => ?_) _) fun _ => ?_
  · trivial
  exact .branch _ ((Program.uses_perform trivial).bind fun _ => trivial) trivial

theorem finish_returns {savedOrder order : Order} {faults : List Fault} {world : World}
    (returns : (commerce.exec (finish savedOrder) faults world).1 =
      .ok order) : order = savedOrder := by
  have ends := Program.Ends.of_exec commerce (finish savedOrder) faults world
  rw [returns] at ends
  obtain ⟨value, fulfils, ends⟩ := ends.of_bind_ok
  obtain ⟨-, -, ends⟩ := ends.of_bind_ok
  obtain rfl := Except.ok.inj ends
  obtain ⟨-, -, ends⟩ := fulfils.of_bind_ok
  dsimp only at ends
  split at ends
  · obtain ⟨-, -, ends⟩ := ends.of_bind_ok
    exact Except.ok.inj ends
  · exact Except.ok.inj ends

theorem exec_finish (savedOrder : Order) (faults : List Fault)
    {world other : World} (alike : AlikeOffOrders world other) :
    (commerce.exec (finish savedOrder) faults world).1 =
        (commerce.exec (finish savedOrder) faults other).1 ∧
      (commerce.exec (finish savedOrder) faults other).2.db.orders =
        other.db.orders :=
  ⟨(commerce.exec_related act_offOrders (finish_uses savedOrder) faults alike).1,
    (wpTraced_sound (wpTraced_of_uses (fun op world off same =>
      orders_offOrders other.db.orders op world off same)
      (finish_uses savedOrder) (rfl : other.db.orders = _)) faults).2⟩

/-! ### The transaction -/

section

variable {α : Type} {body : Service α} {faults : List Fault} {world : World}

def committing (body : Service α) : Service α := do
  let value ← body
  await .commit
  pure value

theorem exec_transaction_begins (begins : faults.headD none = none) :
    commerce.exec (transaction body) faults world = commerce.exec
        (match (commerce.exec (committing body) faults.tail world).1 with
        | .ok value => pure value
        | .error error => do
            await (.rollback world.db)
            throw error)
        (commerce.leftover (committing body) faults.tail world)
        (commerce.exec (committing body) faults.tail world).2 :=
  (exec_perform_acts (.inl begins)).trans exec_attempt_bind

theorem exec_transaction_committed {value : α} {after : World} (begins : faults.headD none = none)
    (commits : commerce.exec (committing body) faults.tail world = (.ok value, after)) :
    commerce.exec (transaction body) faults world = (.ok value, after) := by
  rw [exec_transaction_begins begins, commits]
  rfl

theorem committed_of_transaction
    (returns : (commerce.exec (transaction body) faults world).1.isOk = true) :
    faults.headD none = none ∧
      (commerce.exec (committing body) faults.tail world).1.isOk = true := by
  cases begins : faults.headD none with
  | some error =>
    have throws : commerce.exec (transaction body) faults world = _ := exec_perform_fails begins rfl
    rw [throws] at returns
    cases returns
  | none =>
    refine ⟨rfl, ?_⟩
    rw [exec_transaction_begins begins] at returns
    generalize commerce.leftover (committing body) faults.tail world = left at returns
    cases outcome : (commerce.exec (committing body) faults.tail world).1 with
    | ok value => rfl
    | error error =>
      have throws : ∀ start, commerce.exec (do
          await (.rollback world.db)
          throw error : Service α) left start = (.error error, start.withTables world.db) :=
        fun start => exec_perform_acts (.inr rfl)
      simp_all

end

/-! ### The save -/

section

variable {world : World} {dto : CreateOrderDto} {faults : List Fault}

theorem committing_createBy (save : Order → Service Order) :
    committing (do
      let order ← checkout dto
      let savedOrder ← save order
      fulfil savedOrder) =
      checkout dto >>= fun order => save order >>= finish := by
  unfold committing
  rw [Program.bind_assoc]
  refine congrArg (_ >>= ·) (funext fun order => ?_)
  exact Program.bind_assoc _ _ _

theorem exec_insert_finish (order : Order) (inserts : faults.headD none = none) :
    commerce.exec (ordersRepository.insert order >>= finish) faults world =
      commerce.exec (finish { order with id := world.db.orders.next }) faults.tail
        (world.withOrder { order with id := world.db.orders.next }) :=
  exec_perform_acts (.inl inserts)

theorem exec_store_finish {order row : Order} (takes : storedOrder order = some row)
    (inserts : faults.headD none = none) :
    commerce.exec (storeOrder order >>= finish) faults world =
      commerce.exec (finish { order with id := world.db.orders.next }) faults.tail
        (world.withOrder { row with id := world.db.orders.next }) := by
  have stores : storeOrder order >>= finish = ordersRepository.insert row >>= fun saved =>
        finish { order with id := saved.id } := by
    unfold storeOrder
    rw [takes]
    exact Program.bind_assoc _ _ _
  rw [stores]
  exact exec_perform_acts (.inl inserts)

theorem exec_store_rejected {order : Order} (rejects : storedOrder order = none) :
    commerce.exec (storeOrder order >>= finish) faults world = (.error columnError, world) := by
  unfold storeOrder
  rw [rejects]
  rfl

theorem checked_of_createBy {save : Order → Service Order}
    (returns : (commerce.exec (createBy save dto) faults world).1.isOk = true) :
    faults.headD none = none ∧ Orderable world dto ∧
      (commerce.exec (checkout dto) faults.tail world).1 =
        .ok (checkedOrder world dto) := by
  obtain ⟨begins, commits⟩ := committed_of_transaction returns
  have checks := commerce.wp_sound (checkout_reads world dto) faults.tail
  rw [committing_createBy] at commits
  cases outcome : (commerce.exec (checkout dto) faults.tail world).1 with
  | error error =>
    rw [exec_bind_error outcome] at commits
    cases commits
  | ok order => simp_all

theorem exec_committing_createBy (save : Order → Service Order)
    (checks : (commerce.exec (checkout dto) faults world).1 = .ok (checkedOrder world dto)) :
    commerce.exec (committing (do
        let order ← checkout dto
        let savedOrder ← save order
        fulfil savedOrder)) faults world =
      commerce.exec (save (checkedOrder world dto) >>= finish)
        (commerce.leftover (checkout dto) faults world) world := by
  have kept := (commerce.wp_sound (checkout_reads world dto) faults).1
  rw [committing_createBy, exec_bind_ok checks, kept]

theorem createStored_row {row : Order}
    (passes : (commerce.exec (create dto) faults world).1.isOk = true)
    (takes : storedOrder (checkedOrder world dto) = some row) :
    ∃ order, (commerce.exec (createStored dto) faults world).1 = .ok order ∧
      (commerce.exec (createStored dto) faults world).2.db.orders.row
        order.id = some { row with id := world.db.orders.next } := by
  rw [OrdersService.create_eq] at passes
  obtain ⟨begins, -, checks⟩ := checked_of_createBy passes
  obtain ⟨-, commits⟩ := committed_of_transaction passes
  rw [exec_committing_createBy _ checks] at commits
  have stored := exec_committing_createBy storeOrder checks
  generalize commerce.leftover (checkout dto) faults.tail world = left at commits stored
  cases inserts : left.headD none with
  | some error =>
    have throws : commerce.exec (ordersRepository.insert
        (checkedOrder world dto) >>= finish) left world = _ := exec_perform_fails inserts rfl
    rw [throws] at commits
    cases commits
  | none =>
    rw [exec_insert_finish _ inserts] at commits
    rw [exec_store_finish takes inserts] at stored
    have aside : AlikeOffOrders
        (world.withOrder { checkedOrder world dto with
          id := world.db.orders.next })
        (world.withOrder { row with id := world.db.orders.next }) := rfl
    have alike := exec_finish { checkedOrder world dto with id := world.db.orders.next } left.tail
      aside
    cases outcome : (commerce.exec (finish { checkedOrder world dto with
        id := world.db.orders.next }) left.tail
        (world.withOrder { row with id := world.db.orders.next })).1 with
    | error error =>
      rw [alike.1, outcome] at commits
      cases commits
    | ok order =>
      obtain rfl := finish_returns outcome
      have returns := exec_transaction_committed begins (stored.trans (Prod.ext outcome rfl))
      refine ⟨_, congrArg Prod.fst returns, ?_⟩
      rw [show commerce.exec (createStored dto) faults world = _ from
        returns, alike.2]
      exact Table.row_save_self _ _

theorem createStored_rejected (rejects : storedOrder (checkedOrder world dto) = none) :
    (commerce.exec (createStored dto) faults world).1.isOk = false := by
  by_contra returns
  rw [Bool.not_eq_false] at returns
  obtain ⟨begins, -, checks⟩ := checked_of_createBy returns
  obtain ⟨-, commits⟩ := committed_of_transaction returns
  rw [exec_committing_createBy _ checks, exec_store_rejected rejects] at commits
  cases commits

end

/-! ### The row -/

section

variable {world : World} {dto : CreateOrderDto}

theorem checkedOrder_totalAmount :
    (checkedOrder world dto).totalAmount = orderTotal world dto := total_pricedItems world dto.items

theorem varcharColumn_eq_some {length : ℕ} {text stored : String} :
    varcharColumn length text = some stored ↔ text.length ≤ length ∧ text = stored := by
  unfold varcharColumn
  split <;> simp_all

theorem moneyColumn_zero : moneyColumn 0 = some 0 :=
  (moneyColumn_eq_self 0).mpr ⟨⟨0, by simp⟩, by norm_num⟩

theorem nullable_varchar {length : ℕ} {text stored : Option String} :
    text.mapM (varcharColumn length) = some stored ↔
      (∀ given ∈ text, given.length ≤ length) ∧ text = stored := by
  cases text <;> simp [varcharColumn_eq_some]

theorem storedOrder_checked {row : Order} :
    storedOrder (checkedOrder world dto) = some row ↔
      ∃ total, moneyColumn (orderTotal world dto) = some total ∧
        (toString (dto.paymentCurrency.getD .USD)).length ≤ 3 ∧
        (∀ address ∈ dto.shippingAddress, address.length ≤ 255) ∧
        { checkedOrder world dto with
          totalAmount := total
          remainingAmount := total } = row := by
  have remaining : (checkedOrder world dto).remainingAmount =
      orderTotal world dto := checkedOrder_totalAmount
  have released : (checkedOrder world dto).releasedAmount = 0 := rfl
  have currency : (checkedOrder world dto).currency =
      dto.paymentCurrency.getD .USD := rfl
  have address : (checkedOrder world dto).shippingAddress =
      dto.shippingAddress := rfl
  unfold storedOrder
  simp only [Option.bind_eq_bind, Option.bind_eq_some_iff, nullable_varchar,
    varcharColumn_eq_some, checkedOrder_totalAmount, remaining, released,
    currency, address, moneyColumn_zero]
  constructor
  · grind
  · rintro ⟨total, money, letters, short, rfl⟩
    exact ⟨total, money, _, ⟨letters, rfl⟩, 0, rfl, total, money, _,
      ⟨short, rfl⟩, none, ⟨nofun, rfl⟩, rfl⟩

theorem forall_orderMilestones (milestones : Option (List CreateOrderMilestoneDto)) :
    (∀ milestone ∈ (milestones.map fun milestones =>
        milestones.map orderMilestone).getD [], 0 < milestone.amount) ↔
      ∀ milestone ∈ milestones.getD [], 0 < milestone.amount := by
  cases milestones with
  | none => exact ⟨nofun, nofun⟩
  | some milestones => exact List.forall_mem_map

/-- The columns leave the money of the order iff they take its values as they
are, and its milestones cost something. -/
theorem agreed_iff_storable (orderable : Orderable world dto) (key : Id) :
    (∃ row, storedOrder (checkedOrder world dto) = some row ∧
        Agreed world dto { row with id := key }) ↔ Storable world dto := by
  have positive : 0 < orderTotal world dto := orderable.positive
  constructor
  · rintro ⟨row, stored, agreed⟩
    obtain ⟨total, money, letters, short, rfl⟩ := storedOrder_checked.mp stored
    have same : total = orderTotal world dto := agreed.totalAmount
    rw [same, moneyColumn_eq_self] at money
    exact ⟨letters, money.1, (abs_lt.mp money.2).2,
      (forall_orderMilestones dto.milestones).mp agreed.milestones, short⟩
  · intro storable
    have money := (moneyColumn_eq_self (orderTotal world dto)).mpr
      ⟨storable.hundredths, (abs_of_pos positive).trans_lt storable.small⟩
    exact ⟨_, storedOrder_checked.mpr ⟨_, money, storable.currency,
      storable.address, rfl⟩, rfl, rfl, rfl, positive, rfl,
      (forall_orderMilestones dto.milestones).mpr storable.milestones,
      (total_orderMilestones dto.milestones).trans_le orderable.withinTotal⟩

end

/-- A call that goes through where the table takes every value stores what was
agreed iff the columns take the values of the order. -/
theorem stores_iff_storable {world : World} {dto : CreateOrderDto}
    (passes : (commerce.exec (create dto) [] world).1.isOk = true) :
    StoresAsAgreed world dto ↔ Storable world dto := by
  have orderable : Orderable world dto := by
    rw [OrdersService.create_eq] at passes
    exact (checked_of_createBy passes).2.1
  rw [← agreed_iff_storable orderable world.db.orders.next]
  constructor
  · intro stores
    obtain ⟨order, row, returns, found, agreed⟩ := stores [] passes
    cases stored : storedOrder (checkedOrder world dto) with
    | none =>
      have rejected : (commerce.exec (createStored dto) [] world).1.isOk =
          false := createStored_rejected stored
      rw [returns] at rejected
      cases rejected
    | some kept =>
      obtain ⟨order', returns', found'⟩ := createStored_row passes stored
      obtain rfl := Except.ok.inj (returns.symm.trans returns')
      obtain rfl := Option.some.inj (found.symm.trans found')
      exact ⟨kept, rfl, agreed⟩
  · rintro ⟨row, stored, agreed⟩ faults passes
    obtain ⟨order, returns, found⟩ := createStored_row passes stored
    exact ⟨order, _, returns, found, agreed⟩

theorem twoLamps_stored :
    StoresAsAgreed openShop twoLamps ↔ Storable openShop twoLamps :=
  stores_iff_storable (by decide +kernel)

/-- The shop with the lamp at an eighth of a lumen and at a hundred dollars in
stable coins. -/
def coinShop : World :=
  { openShop with
    db := { openShop.db with
      products := openShop.db.products.save
        { id := 1, title := "bulb", quantity := 10, available := 10 } }
    catalogue := fun id =>
      if id = 0 then some { name := "lamp", price := 100, currency := .USDC }
      else some { name := "bulb", price := 1 / 8, currency := .XLM } }

def coinLamps : CreateOrderDto where
  items := [{ productId := 0, quantity := 2, quantity_pos := pair_positive }]
  buyerId := 7
  paymentCurrency := some .USDC

def lumenBulb : CreateOrderDto where
  items := [{ productId := 1, quantity := 1, quantity_pos := single_positive }]
  buyerId := 7
  paymentCurrency := some .XLM

/-- The column of the currency takes no stable coins, and an eighth of a lumen
is not a number of hundredths. -/
theorem coins_not_stored :
    ((commerce.exec (create coinLamps) [] coinShop).1.isOk = true ∧
      ¬ StoresAsAgreed coinShop coinLamps) ∧
    ((commerce.exec (create lumenBulb) [] coinShop).1.isOk = true ∧
      ¬ StoresAsAgreed coinShop lumenBulb) := by
  have coins : (commerce.exec (create coinLamps) [] coinShop).1.isOk = true := by decide +kernel
  have lumens : (commerce.exec (create lumenBulb) [] coinShop).1.isOk =
      true := by decide +kernel
  refine ⟨⟨coins, fun stores => ?_⟩, lumens, fun stores => ?_⟩
  · obtain ⟨order, row, returns, -⟩ := stores [] coins
    have rejected : (commerce.exec (createStored coinLamps) [] coinShop).1.isOk = false := by
      decide +kernel
    rw [returns] at rejected
    cases rejected
  · obtain ⟨order, row, returns, found, agreed⟩ := stores [] lumens
    have rounded : (match (commerce.exec (createStored lumenBulb) [] coinShop).1 with
      | .ok order => ((commerce.exec (createStored lumenBulb) []
          coinShop).2.db.orders.row order.id).map Order.totalAmount
      | .error _ => none) = some (13 / 100) := by decide +kernel
    have eighth : orderTotal coinShop lumenBulb = 1 / 8 := by decide +kernel
    rw [returns] at rounded
    simp only [found, Option.map_some, agreed.totalAmount, eighth] at rounded
    exact absurd (Option.some.inj rounded) (by norm_num)

end MarketX.Commerce
