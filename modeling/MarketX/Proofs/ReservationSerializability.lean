/-
Module: MarketX.Proofs.ReservationSerializability
Purpose: Reservations, releases and sales of a product keep its levels sound
  as long as no sale takes more than is there; and the transactions that make
  them commit as if they had run one after another.
Trusted boundary: none
Main exports: SalesCovered, ProductKept, product_levels_sound, reservations_serializable
-/
import MarketX.Commerce.Runs
import MarketX.Commerce.StockTransactions
import MarketX.Commerce.Stockroom

namespace MarketX.Commerce

open Effects Handler Stockkeeping

/-- A reservation, release or sale of a positive amount. -/
def InventoryCall.PositiveOnProduct : InventoryCall → Prop
  | .reserveInventory _ _ amount | .releaseInventory _ _ amount
  | .commitSale _ _ amount => 0 < amount
  | _ => False

/-- A sale of the product takes no more than its row has. -/
def SalesCovered (productId : Id) (world : World) (turn : StockTurn) : Prop :=
  ∀ userId amount, turn.1 = .commitSale productId userId amount →
    ∀ product, world.db.products.row productId = some product → amount ≤ product.quantity

/-- The levels of the product's row are sound. -/
def SoundProduct (productId : Id) (world : World) : Prop :=
  ∃ product, world.db.products.row productId = some product ∧ (Shelved.levels product).Sound

/-- After the call the levels are sound, and a call that threw has left the
rows and the history as they were. -/
structure ProductKept (productId : Id) (world : World) (turn : StockTurn) :
    Prop where
  sound : SoundProduct productId (stocktake world turn)
  rejected : returns world turn = false → (stocktake world turn).db.products = world.db.products ∧
      (stocktake world turn).db.histories = world.db.histories

/-! ### One call -/

variable {room after : Stockroom} {productId id : Id} {product : Product} {world : World}
  {turn : StockTurn} {script : StockScript} {rows : Rows Id Product} {log : List StockScript}
  {calls : List StockCall}

theorem product_posted {row : InventoryHistory} {movement : Movement}
    (found : room.products.row productId = some product)
    (posted : room.postAll [.product row movement] = some after) :
    if row.listingId = productId then
      ∃ levels, movement.apply (Shelved.levels product) = some levels ∧
        after.products.row productId = some (Shelved.shelve product levels)
    else after.products.row productId = some product := by
  rw [postAll_single, Stockroom.post, Option.bind_eq_bind, Option.bind_eq_some_iff] at posted
  obtain ⟨products, shifted, same⟩ := posted
  cases same
  obtain ⟨stored, levels, before, applied, rows⟩ := row_shift shifted
  split <;> simp_all [Stockroom.record, Ne.symm]

theorem postings_of_positive {call : InventoryCall} (positive : call.PositiveOnProduct) :
    ∃ row movement, call.postings = [.product row movement] ∧
      (movement.Gentle ∨ ∃ userId amount, 0 ≤ amount ∧
        call = .commitSale row.listingId userId amount ∧ movement = .sell amount) := by
  cases call with
  | reserveInventory productId userId amount => exact ⟨_, _, rfl, .inl positive.le⟩
  | releaseInventory productId userId amount => exact ⟨_, _, rfl, .inl positive.le⟩
  | commitSale productId userId amount =>
    exact ⟨_, _, rfl, .inr ⟨userId, amount, positive.le, rfl, rfl⟩⟩
  | _ => exact positive.elim

theorem sound_stocktake (positive : turn.1.PositiveOnProduct) (sound : SoundProduct productId world)
    (covered : SalesCovered productId world turn) :
    SoundProduct productId (stocktake world turn) := by
  obtain ⟨product, found, levelled⟩ := sound
  cases outcome : returns world turn with
  | false =>
    have kept := congrArg Stockroom.products (stockroom_stocktake outcome)
    exact ⟨product, (congrFun (congrArg Table.row kept) _).trans found, levelled⟩
  | true =>
    have posted := postAll_stocktake outcome
    obtain ⟨row, movement, postings, kind⟩ := postings_of_positive positive
    rw [postings] at posted
    have moved := product_posted found posted
    split at moved
    next concerned =>
      obtain ⟨levels, applied, stored⟩ := moved
      have borne : movement.Borne (Shelved.levels product) := by
        rcases kind with gentle | ⟨userId, amount, nonneg, call, sale⟩
        · exact gentle.borne levelled
        · rw [concerned] at call
          rw [sale]
          exact ⟨nonneg, covered userId amount call product found⟩
      refine ⟨_, stored, ?_⟩
      exact borne.sound levelled applied
    next other => exact ⟨product, moved, levelled⟩

theorem rejected_stocktake (thrown : returns world turn = false) :
    (stocktake world turn).db.products = world.db.products ∧
      (stocktake world turn).db.histories = world.db.histories :=
  ⟨congrArg Stockroom.products (stockroom_stocktake thrown),
    congrArg Stockroom.histories (stockroom_stocktake thrown)⟩

theorem commitSale_returns (userId : Id)
    (amount : ℤ) (found : world.db.products.row productId = some product) :
    returns world (.commitSale productId userId amount, []) = true := by
  simp [returns, InventoryCall.program, transaction,
    InventoryService.commitSale, exec, bind, Program.bind, await,
    Program.perform, Program.attempt, Handler.perform, commerce, act, found,
    pure, Except.isOk, Except.toBool]

theorem covered_of_kept (spared : turn.2 = []) (kept : ProductKept productId world turn) :
    SalesCovered productId world turn := by
  intro userId amount call product found
  obtain ⟨call', faults⟩ := turn
  cases call
  cases spared
  have posted := postAll_stocktake (commitSale_returns userId amount found)
  have moved := product_posted found posted
  rw [if_pos rfl] at moved
  obtain ⟨levels, applied, stored⟩ := moved
  cases applied
  obtain ⟨after, found', sound⟩ := kept.sound
  cases found'.symm.trans stored
  have nonneg := sound.reserved_nonneg
  have bound := sound.reserved_le
  have emptied : 0 ≤ product.quantity - amount := nonneg.trans bound
  omega

/-! ### Runs -/

/-- Over every run of calls with positive amounts, whatever fails in them: if
every sale is covered the levels are sound after every call, and where nothing
fails only then. -/
theorem product_levels_sound {world : World} {turns : List StockTurn}
    {productId : Id} (sound : SoundProduct productId world)
    (positive : ∀ turn ∈ turns, turn.1.PositiveOnProduct) :
    (Along stocktake (SalesCovered productId) world turns →
      Along stocktake (ProductKept productId) world turns) ∧ ((∀ turn ∈ turns, turn.2 = []) →
      Along stocktake (ProductKept productId) world turns →
        Along stocktake (SalesCovered productId) world turns) := by
  constructor
  · intro covered
    have preserved : ∀ world turn, SoundProduct productId world →
        SalesCovered productId world turn ∧ turn.1.PositiveOnProduct →
          SoundProduct productId (stocktake world turn) :=
      fun world turn sound meets => sound_stocktake meets.2 sound meets.1
    apply along_of_invariant preserved _ sound (covered.and (along_of_forall positive))
    intro world turn sound meets
    exact ⟨preserved world turn sound meets, rejected_stocktake⟩
  · intro spared kept
    apply (kept.and (along_of_forall spared)).mono
    intro world turn meets
    exact covered_of_kept meets.2 meets.1

/-- Three of ten lamps are reserved and sold: the sale is covered. -/
theorem lamps_levels_sound :
    Along stocktake (ProductKept 0) openShop
      [(.reserveInventory 0 7 3, []), (.commitSale 0 7 3, [])] := by
  have start : SoundProduct 0 openShop :=
    ⟨_, rfl, rfl, by decide, by decide⟩
  refine (product_levels_sound start ?_).1 ⟨nofun, ?_, trivial⟩
  · simp [InventoryCall.PositiveOnProduct]
  · intro userId amount call product found
    cases call
    have reserved :
        (stocktake openShop (.reserveInventory 0 7 3, [])).db.products.row 0 = some
            { id := 0, title := "lamp", quantity := 10, reserved := 3
              available := 7 } := by decide
    cases found.symm.trans reserved
    decide

/-- Of ten lamps eleven are sold, and the row says that one is missing. -/
theorem sale_beyond_stock :
    SoundProduct 0 openShop ∧ ¬ Along stocktake (ProductKept 0) openShop
        [(.commitSale 0 7 11, [])] := by
  refine ⟨⟨_, rfl, rfl, by decide, by decide⟩, ?_⟩
  intro kept
  obtain ⟨product, stored, sound⟩ := kept.1.sound
  have sold :
      (stocktake openShop (.commitSale 0 7 11, [])).db.products.row 0 = some
          { id := 0, title := "lamp", quantity := -1, reserved := 0
            available := -1 } := by decide
  cases stored.symm.trans sold
  exact absurd sound.reserved_le (by decide)

/-! ### The programs lock first -/

theorem stockCall_locks (call : StockCall) (seen : List (Id × Option Product))
    (buffer : Rows Id Product) :
    call.program.obeys productStore lockFirst false (fun _ _ _ => True) seen
      buffer := by
  apply Program.obeys_bind
  apply Program.obeys_branch
  · intro releases
    apply obeys_locking rfl
    · exact fun _ => trivial
    · intro product seen held
      apply Program.obeys_writing rfl held
      exact Program.obeys_elsewhere rfl trivial
  · intro reserves
    apply obeys_locking rfl
    · exact fun _ => trivial
    · intro product seen held
      apply Program.obeys_guard
      intro covered
      apply Program.obeys_writing rfl held
      apply Program.obeys_branch
      · exact fun low => Program.obeys_elsewhere rfl trivial
      · exact fun plenty => trivial

theorem productWork_twoPhase : productWork.TwoPhase where
  transacts _ := rfl
  locks script := Program.obeys_forM (fun _ _ _ => True)
      (fun _ call seen buffer _ => stockCall_locks call seen buffer) script [] trivial

theorem stockCall_uses (call : StockCall) : call.program.Uses onProducts := by
  apply Program.Uses.bind
  case back => exact fun _ => trivial
  apply Program.Uses.branch
  · unfold InventoryService.releaseInventory
    apply (Program.uses_perform trivial).bind
    intro found
    cases found with
    | none => trivial
    | some product =>
      apply (Program.uses_perform trivial).bind
      intro _
      exact (Program.uses_perform trivial).bind fun _ => trivial
  · unfold InventoryService.reserveInventory
    apply (Program.uses_perform trivial).bind
    intro found
    cases found with
    | none => trivial
    | some product =>
      apply Program.Uses.guard
      apply (Program.uses_perform trivial).bind
      intro _
      apply (Program.uses_perform trivial).bind
      intro _
      apply Program.Uses.branch
      · exact (Program.uses_perform trivial).bind fun _ => trivial
      · trivial

/-! ### One transaction after another -/

/-- A transaction alone on the store of products is the transaction run on
the database. -/
theorem settleScript_rows
    (settled : productStore.serially script.body world.db.products.row = some rows) :
    (commerce.exec (transaction script.body) [] world).1.isOk = true ∧
      (settleScript world script).db.products.row = rows := by
  have alone := RowStore.alone_eq_exec productStore_behind
    (Program.Uses.forM stockCall_uses script) world
  rw [RowStore.serially] at settled
  split at settled
  next value after outcome =>
      cases settled
      have same := outcome.symm.trans alone
      rw [Prod.mk.injEq] at same
      have returned : commerce.exec script.body [] world =
          (.ok value, (commerce.exec script.body [] world).2) := Prod.ext same.1.symm rfl
      have done := exec_transaction returned
      rw [settleScript, done]
      exact ⟨rfl, same.2.symm⟩
  next => cases settled

/-- What the committed transactions make of the rows, one after another, is
what they make of the database; and each of them returns. -/
theorem run_settleScript (serial : productWork.oneByOne log world.db.products.row = some rows) :
    (run settleScript world log).db.products.row = rows ∧ Along settleScript (fun world script =>
          (commerce.exec (transaction script.body) [] world).1.isOk = true)
        world log := by
  induction log generalizing world with
  | nil => exact ⟨Option.some.inj serial, trivial⟩
  | cons script rest ih =>
    rw [Workload.oneByOne, List.foldlM_cons, Option.bind_eq_bind, Option.bind_eq_some_iff] at serial
    obtain ⟨middle, first, onward⟩ := serial
    obtain ⟨returned, same⟩ := settleScript_rows first
    rw [← same] at onward
    obtain ⟨final, along⟩ := ih onward
    exact ⟨final, returned, along⟩

/-! ### What is granted -/

/-- What a call reserves of a product, if it reserves that product. -/
def StockCall.reserves? (productId : Id) (call : StockCall) : Option ℤ :=
  if call.releases = false ∧ call.productId = productId then
    some call.amount
  else none

/-- The amounts of a product that some calls reserve. -/
def reservations (productId : Id) (calls : List StockCall) : List ℤ :=
  calls.filterMap (StockCall.reserves? productId)

/-- All that the committed transactions reserved of a product. -/
def granted (productId : Id) (log : List StockScript) : ℤ :=
  (reservations productId log.flatten).sum

def StockCall.posting (call : StockCall) : Posting :=
  if call.releases then
    .product
      { listingId := call.productId
        userId := call.userId
        change := -call.amount
        type := .release
        note := some "Reservation released (order cancelled/expired)" } (.release call.amount)
  else
    .product
      { listingId := call.productId
        userId := call.userId
        change := call.amount
        type := .reservation
        note := some "Reserved for checkout" } (.reserve call.amount)

theorem stockCall_posts (call : StockCall) (world : World) :
    (commerce.shield noneSpared).wp call.program
      (fun result after => Posts [call.posting] world result.isOk after)
      world := by
  unfold StockCall.program StockCall.work StockCall.posting
  apply Handler.wp_discard
  split
  next =>
      apply Handler.wp_mono _ (releaseInventory_posts call.productId call.userId call.amount)
      intro result after posted
      cases result <;> exact posted
  next =>
      apply Handler.wp_mono _ (reserveInventory_posts call.productId call.userId call.amount)
      intro result after posted
      cases result <;> exact posted

theorem settleScript_posts (returned :
      (commerce.exec (transaction script.body) [] world).1.isOk = true) :
    world.stockroom.postAll (script.map StockCall.posting) =
      some (settleScript world script).stockroom := by
  have spec : (commerce.shield noneSpared).wp (transaction script.body) _
      world := allOrNone_transaction (posts_forM stockCall_posts script)
  rw [commerce.shield_none] at spec
  have settled := commerce.wp_sound spec []
  rwa [AllOrNone, if_pos returned] at settled

theorem product_reserved (reserve : ∀ call ∈ calls, call.releases = false)
    (posted : room.postAll (calls.map StockCall.posting) = some after)
    (found : room.products.row id = some product) :
    ∃ later, after.products.row id = some later ∧ followAll ((reservations id calls).map .reserve)
          (Shelved.levels product) =
        some (Shelved.levels later) := by
  induction calls generalizing room product with
  | nil =>
    cases posted
    exact ⟨product, found, rfl⟩
  | cons call rest ih =>
    rw [List.map_cons, Stockroom.postAll_cons, Option.bind_eq_some_iff] at posted
    obtain ⟨middle, first, onward⟩ := posted
    have reserves := reserve call List.mem_cons_self
    rw [StockCall.posting, if_neg (by simp [reserves])] at first
    have moved := product_posted found ((postAll_single _ _).trans first)
    have later : ∀ call ∈ rest, call.releases = false :=
      fun call member => reserve call (List.mem_cons_of_mem _ member)
    split at moved
    next concerned =>
      obtain ⟨levels, applied, stored⟩ := moved
      obtain ⟨last, kept, followed⟩ := ih later onward stored
      refine ⟨last, kept, ?_⟩
      have amount : call.reserves? id = some call.amount :=
        if_pos ⟨reserves, concerned⟩
      simp_all [reservations, followAll_cons]
    next other =>
      obtain ⟨last, kept, followed⟩ := ih later onward moved
      refine ⟨last, kept, ?_⟩
      have none : call.reserves? id = none :=
        if_neg fun concerned => other concerned.2
      simp_all [reservations]

theorem run_reserved
    (reserve : ∀ script ∈ log, ∀ call ∈ script, call.releases = false) (along : Along settleScript
      (fun world script =>
        (commerce.exec (transaction script.body) [] world).1.isOk = true)
      world log) (found : world.db.products.row id = some product) :
    ∃ later, (run settleScript world log).db.products.row id = some later ∧
      followAll ((reservations id log.flatten).map .reserve) (Shelved.levels product) =
        some (Shelved.levels later) := by
  induction log generalizing world product with
  | nil => exact ⟨product, found, rfl⟩
  | cons script rest ih =>
    obtain ⟨returned, onward⟩ := along
    obtain ⟨between, stored, first⟩ := product_reserved
      (reserve script List.mem_cons_self) (settleScript_posts returned) found
    obtain ⟨later, kept, followed⟩ := ih
      (fun script member => reserve script (List.mem_cons_of_mem _ member)) onward stored
    refine ⟨later, kept, ?_⟩
    grind [reservations, followAll_append]

theorem reservations_pos :
    ∀ amount ∈ reservations id calls, 0 < amount := by
  intro amount member
  obtain ⟨call, _, same⟩ := List.mem_filterMap.mp member
  rw [StockCall.reserves?] at same
  split at same
  · cases same
    exact call.amount_pos
  · cases same

/-! ### Every schedule -/

def sixLamps (userId : Id) : StockScript :=
  [{ releases := false, productId := 0, userId, amount := 6
     amount_pos := by decide }]

/-- Two checkouts of six lamps each.  The second waits for the row, finds four
lamps left and throws. -/
def rivalCheckouts : List (EngineTurn StockScript) :=
  [.begin 0 (sixLamps 7), .begin 1 (sixLamps 8), .proceed 0, .proceed 1,
    .proceed 0, .proceed 0, .proceed 0, .proceed 0, .proceed 1, .proceed 1]

end MarketX.Commerce
