/-
Module: MarketX.Proofs.RolledBackNotices
Purpose: Notices are sent from inside the transactions they report on: a call
  can be rolled back with all its notices true exactly when every level it
  comes to report is the one that stands in the tables already.
Trusted boundary: none
Main exports: Stands, NothingEscapes, LevelsStand, nothing_escapes_iff
-/
import MarketX.Commerce.Stockroom
import MarketX.Proofs.OrderDemand

namespace MarketX.Commerce

open Effects Handler Stockkeeping

/-! ### Notices that are true of the tables -/

/-- The level, or the order, that a notice reports is in the tables. -/
def Stands (db : Database) : CommerceEvent → Prop
  | .inventoryLowStock productId _ available none => ∃ product,
      db.products.row productId = some product ∧ product.available = available
  | .inventoryLowStock _ _ available (some listingId) => ∃ listing,
      db.listings.row listingId = some listing ∧ listing.available = available
  | .massiveOrderDetected orderId _ _ _ => ∃ order, db.orders.row orderId = some order
  | _ => True

/-- What a world has announced that its start had not. -/
def World.announcedSince (world start : World) : List CommerceEvent :=
  world.events.drop start.events.length

/-- After a call that throws, everything announced is true of the tables. -/
def TrueIfThrown {α : Type} (world : World) (result : Except HttpException α)
    (after : World) : Prop := result.isOk = false →
    ∀ event ∈ after.announcedSince world, Stands after.db event

/-- Whatever fails, and wherever. -/
def NothingEscapes {α : Type} (program : Service α) (world : World) : Prop :=
  ∀ faults, TrueIfThrown world (commerce.exec program faults world).1
    (commerce.exec program faults world).2

/-- So far everything announced is true of the tables at the start. -/
def Accurate (start current : World) : Prop :=
  ∀ event ∈ current.announcedSince start, Stands start.db event

def accurately {α : Type} (start : World) :
    Except HttpException α → World → Prop :=
  fun _ => Accurate start

/-- Part of a body: the rest goes on from where it returns. -/
def onward (start : World) (rest : World → Prop) :
    Except HttpException Unit → World → Prop
  | .ok _, after => rest after
  | .error _, after => Accurate start after

variable {start world current after : World} {movement : OrderItem → Movement} {key : Id}
  {item : OrderItem}

theorem wp_bind_onward {β : Type} {first : Service Unit} {rest : Unit → Service β} :
    commerce.wp (first >>= rest) (accurately start) world ↔ commerce.wp first
        (onward start (commerce.wp (rest ()) (accurately start))) world := by
  rw [wp_bind]
  apply wp_congr
  intro result after
  cases result <;> exact Iff.rfl

theorem accurate_refl (start : World) : Accurate start start := by
  simp [Accurate, World.announcedSince]

theorem accurate_of_events (same : after.events = current.events) :
    Accurate start after ↔ Accurate start current := by
  simp only [Accurate, World.announcedSince, same]

def Extends (start current : World) : Prop := start.events.length ≤ current.events.length

theorem accurate_append (extends' : Extends start current) {events : List CommerceEvent}
    (announced : after.events = current.events ++ events) :
    Accurate start after ↔ Accurate start current ∧ ∀ event ∈ events, Stands start.db event := by
  simp only [Accurate, World.announcedSince, announced,
    List.drop_append_of_le_length extends', List.mem_append, or_imp, forall_and]

theorem accurate_emitted (silent : current.events = start.events) (event : CommerceEvent) :
    Accurate start (current.emitted event) ↔ Stands start.db event := by
  have appended : (current.emitted event).events = start.events ++ [event] :=
    congrArg (· ++ [event]) silent
  rw [accurate_append le_rfl appended, List.forall_mem_singleton]
  exact and_iff_right (accurate_refl start)

/-- A call in a transaction is rolled back in one case at least: when the
commit fails.  So its body must never have announced anything else. -/
theorem nothingEscapes_transaction {α : Type} {body : Service α} :
    NothingEscapes (transaction body) world ↔
      commerce.wp body (accurately world) world := by
  have schedules : commerce.wp (transaction body) (TrueIfThrown world) world ↔
      NothingEscapes (transaction body) world := commerce.wp_iff_exec
  have rule : (commerce.shield noneSpared).wp (transaction body)
      (TrueIfThrown world) world ↔ _ := wp_transaction_iff
  rw [shield_none] at rule
  rw [← schedules, rule]
  have atStart : ∀ event ∈ world.announcedSince world,
      Stands world.db event := accurate_refl world
  refine (and_iff_left fun _ _ _ => atStart).trans (wp_congr _ ?_)
  intro result after
  cases result with
  | ok value =>
    exact ⟨fun reached => reached.2 rfl default rfl, fun reached => ⟨nofun, fun _ _ _ => reached⟩⟩
  | error error => exact ⟨fun reached => reached rfl, fun reached _ => reached⟩

/-! ### Loops over the items of an order -/

def movementsOn (movement : OrderItem → Movement) (key : Id)
    (items : List OrderItem) : List Movement :=
  (items.filter fun item => item.productId = key).map movement

theorem movementsOn_self (done : List OrderItem) (named : item.productId = key) :
    movementsOn movement key (done ++ [item]) =
      movementsOn movement key done ++ [movement item] := by
  simp [movementsOn, List.filter_append, named]

theorem movementsOn_other (done : List OrderItem) (other : item.productId ≠ key) :
    movementsOn movement key (done ++ [item]) =
      movementsOn movement key done := by simp [movementsOn, List.filter_append, other]

section

variable {α : Type} [Shelved α]

/-- Item by item, from the rows as they are before the first: the goods of the
item are there and can make all the movements up to this one; then they have
more than five left, or what they had at the start.  `final` is asked where
no item is refused. -/
def LevelsStand (row : Id → Option α) (movement : OrderItem → Movement)
    (final : Prop) (done : List OrderItem) : List OrderItem → Prop
  | [] => final
  | item :: rest => ∀ goods levels, row item.productId = some goods →
      followAll (movementsOn movement item.productId (done ++ [item]))
          (Shelved.levels goods) = some levels → (levels.available ≤ 5 →
            levels.available = (Shelved.levels goods).available) ∧
          LevelsStand row movement final (done ++ [item]) rest

/-- Where the goods under one key are after some items. -/
inductive CarriedAlong (movements : List Movement) :
    Option α → Option α → Prop
    where
  | absent : CarriedAlong movements none none
  | moved {goods current : α} (followed : followAll movements (Shelved.levels goods) =
        some (Shelved.levels current)) :
      CarriedAlong movements (some goods) (some current)

structure Tracks (table : Database → Table α)
    (movement : OrderItem → Movement)
    (start : World) (done : List OrderItem) (current : World) : Prop where
  extends' : Extends start current
  rows : ∀ key, CarriedAlong (movementsOn movement key done)
    ((table start.db).row key) ((table current.db).row key)

/-- What one turn of such a loop does: it throws where the goods are missing
or refuse the movement; else it stores them and announces a level that is
low.  Everything else it does may throw before the announcement. -/
structure Turns (table : Database → Table α)
    (movement : OrderItem → Movement) (notice : α → CommerceEvent)
    (start : World) (body : OrderItem → Service Unit) : Prop where
  refused : ∀ item current (rest : World → Prop),
    (∀ goods, (table current.db).row item.productId = some goods →
      (movement item).apply (Shelved.levels goods) = none) →
    (commerce.wp (body item) (onward start rest) current ↔ Accurate start current)
  moved : ∀ item current (rest : World → Prop) goods levels,
    (table current.db).row item.productId = some goods →
    (movement item).apply (Shelved.levels goods) = some levels → ∃ after, table after.db =
        (table current.db).save (Shelved.shelve goods levels) ∧ after.events = current.events ++
        (if levels.available ≤ 5 then
          [notice (Shelved.shelve goods levels)] else []) ∧
      (commerce.wp (body item) (onward start rest) current ↔ Accurate start current ∧ rest after)

variable {table : Database → Table α} {movement : OrderItem → Movement}
  {notice : α → CommerceEvent} {start : World} {body : OrderItem → Service Unit}

theorem tracks_start : Tracks table movement start [] start := by
  refine ⟨le_rfl, fun key => ?_⟩
  cases (table start.db).row key with
  | none => exact .absent
  | some goods => exact .moved rfl

variable {done : List OrderItem} {current : World} {goods : α} {levels : Levels}

theorem Tracks.next {after : World}
    (tracks : Tracks table movement start done current) {item : OrderItem}
    (found : (table current.db).row item.productId = some goods)
    (applied : (movement item).apply (Shelved.levels goods) = some levels) (saved : table after.db =
      (table current.db).save (Shelved.shelve goods levels)) {events : List CommerceEvent}
    (announced : after.events = current.events ++ events) :
    Tracks table movement start (done ++ [item]) after := by
  have keyed : Keyed.key (Shelved.shelve goods levels) = item.productId := by
    rw [Shelved.key_shelve]
    exact (table current.db).keyed found
  refine ⟨?_, fun key => ?_⟩
  · rw [Extends, announced, List.length_append]
    exact Nat.le_add_right_of_le tracks.extends'
  · have before := tracks.rows key
    rw [saved, Table.row_save, keyed]
    by_cases named : item.productId = key
    · subst named
      rw [movementsOn_self done rfl, if_pos rfl]
      rw [found] at before
      generalize (table start.db).row item.productId = first at before ⊢
      cases before with
      | moved followed =>
        apply CarriedAlong.moved
        simp_all [followAll_append, followAll_cons]
    · simp_all [movementsOn_other, Ne.symm]

theorem Tracks.turn (tracks : Tracks table movement start done current) (item : OrderItem) :
    ((∀ goods, (table current.db).row item.productId = some goods →
        (movement item).apply (Shelved.levels goods) = none) ∧
      ∀ first levels, (table start.db).row item.productId = some first →
        followAll (movementsOn movement item.productId (done ++ [item]))
          (Shelved.levels first) ≠ some levels) ∨ ∃ first goods levels,
      (table start.db).row item.productId = some first ∧
        (table current.db).row item.productId = some goods ∧
        (movement item).apply (Shelved.levels goods) = some levels ∧
        followAll (movementsOn movement item.productId (done ++ [item]))
          (Shelved.levels first) = some levels := by
  have here := tracks.rows item.productId
  generalize (table start.db).row item.productId = before at here ⊢
  generalize (table current.db).row item.productId = now at here ⊢
  cases here with
  | absent => exact .inl ⟨nofun, nofun⟩
  | @moved first goods followed =>
    have further : followAll (movementsOn movement item.productId
        (done ++ [item])) (Shelved.levels first) =
          (movement item).apply (Shelved.levels goods) := by
      rw [movementsOn_self done rfl, followAll_append, followed, Option.bind_some, followAll_cons]
      exact Option.bind_fun_some _
    cases applied : (movement item).apply (Shelved.levels goods) <;> grind

/-- A low level is announced as the goods had it at the start, or not
truly. -/
theorem notice_stands_iff {first : α} (stands : ∀ goods, Stands start.db (notice goods) ↔
      ∃ first, (table start.db).row (Keyed.key goods) = some first ∧
        (Shelved.levels first).available = (Shelved.levels goods).available)
    (stored : (table start.db).row (Keyed.key goods) = some first) :
    (∀ event ∈ (if levels.available ≤ 5 then
        [notice (Shelved.shelve goods levels)] else []),
      Stands start.db event) ↔ (levels.available ≤ 5 →
        levels.available = (Shelved.levels first).available) := by
  split
  next low =>
    rw [List.forall_mem_singleton, stands, Shelved.key_shelve, stored, Shelved.levels_shelve]
    grind
  next high => exact ⟨fun _ low => absurd low high, fun _ => List.forall_mem_nil _⟩

theorem loop_accurate_iff (turns : Turns table movement notice start body)
    (stands : ∀ goods, Stands start.db (notice goods) ↔
      ∃ first, (table start.db).row (Keyed.key goods) = some first ∧
        (Shelved.levels first).available = (Shelved.levels goods).available)
    {final : Prop} {finish : World → Prop} (finishes : ∀ current, Extends start current →
      (finish current ↔ Accurate start current ∧ final)) (items : List OrderItem)
    (tracks : Tracks table movement start done current) :
    commerce.wp (items.forM body) (onward start finish) current ↔ Accurate start current ∧
        LevelsStand (table start.db).row movement final done items := by
  induction items generalizing done current with
  | nil => exact finishes current tracks.extends'
  | cons item items ih =>
    have unrolled :
        commerce.wp ((item :: items).forM body) (onward start finish) current ↔
          commerce.wp (body item) (onward start
              (commerce.wp (items.forM body) (onward start finish)))
            current := by
      show commerce.wp (body item >>= fun _ => items.forM body) _ _ ↔ _
      rw [wp_bind]
      apply wp_congr
      intro result after
      cases result <;> exact Iff.rfl
    rw [unrolled, LevelsStand]
    rcases tracks.turn item with
      ⟨refuses, blocked⟩ | ⟨first, goods, levels, stored, found, applied, followed⟩
    · rw [turns.refused item current _ refuses]
      refine (and_iff_left fun first levels stored followed => ?_).symm
      exact absurd followed (blocked first levels stored)
    · obtain ⟨after, saved, announced, reached⟩ :=
        turns.moved item current _ goods levels found applied
      have keyed : Keyed.key goods = item.productId :=
        (table current.db).keyed found
      rw [reached, ih (tracks.next found applied saved announced),
        accurate_append tracks.extends' announced,
        notice_stands_iff stands (by rw [keyed]; exact stored)]
      constructor
      · grind
      · grind

end

/-! ### The calls -/

section

variable {start world : World}

variable {β : Type} {movement : OrderItem → Movement} {body : OrderItem → Service Unit}

theorem wp_step_iff (op : Op) {rest : Reply op → Service β}
    {post : Except HttpException β → World → Prop} :
    commerce.wp (await op >>= rest) post world ↔
      commerce.wp (rest (act op world).1) post (act op world).2 ∧
        (mayFail op = true → ∀ error, post (.error error) world) := by exact Iff.rfl

theorem wp_silent_iff {op : Op} {rest : Reply op → Service β}
    (silent : world.events = start.events) :
    commerce.wp (await op >>= rest) (accurately start) world ↔
      commerce.wp (rest (act op world).1) (accurately start) (act op world).2 := by
  refine and_iff_left fun _ _ => ?_
  exact (accurate_of_events silent).mpr (accurate_refl start)

theorem past_failures_iff {accurate reached : Prop} (first second third : Op)
    (fallible : mayFail first = true) :
    ((((reached ∧ (mayFail third = true → HttpException → accurate)) ∧
        (mayFail second = true → HttpException → accurate)) ∧
        (mayFail first = true → HttpException → accurate)) ↔ accurate ∧ reached) := by
  constructor
  · simp_all
  · simp_all

theorem wp_emit_iff (event : CommerceEvent) {post : Except HttpException Unit → World → Prop} :
    commerce.wp (emit event) post world ↔
      post (.ok ()) (world.emitted event) := by
  unfold emit await
  exact and_iff_left nofun

def lowListing (listing : Listing) : CommerceEvent :=
  .inventoryLowStock listing.id listing.title listing.available (some listing.id)

def lowProduct (product : Product) : CommerceEvent :=
  .inventoryLowStock product.id product.title product.available none

/-- The turns of the two loops over listings that announce: a movement that is
never refused. -/
theorem listing_turns {missing : OrderItem → HttpException}
    {levels : OrderItem → Listing → Levels} {history : OrderItem → InventoryHistory}
    (applies : ∀ item listing, (movement item).apply (Shelved.levels listing) =
        some (levels item listing)) (shape : ∀ item, body item = do
      match ← listingRepo.findOne item.productId with
      | none => throw (missing item)
      | some listing =>
        let listing := Shelved.shelve listing (levels item listing)
        listingRepo.save listing
        historyRepo.insert (history item)
        if listing.available ≤ 5 then
          InventoryService.notifyLowStock listing) :
    Turns Database.listings movement lowListing start body where
  refused item current rest refuses := by
    rw [shape, wp_step_iff]
    simp only [act]
    cases found : current.db.listings.row item.productId with
    | none => exact ⟨fun reached => reached.1, fun accurate =>
      ⟨accurate, fun _ _ => accurate⟩⟩
    | some listing => simp_all
  moved item current rest listing after found applied := by
    rw [applies] at applied
    cases applied
    let stored : Listing := Shelved.shelve listing (levels item listing)
    let saved := (current.withListing stored).withHistory (history item)
    rw [shape, wp_step_iff]
    simp only [act, found]
    by_cases low : stored.available ≤ 5
    · refine ⟨saved.emitted (lowListing stored), rfl, ?_, ?_⟩
      · exact (congrArg (current.events ++ ·) (if_pos low)).symm
      · rw [if_pos low]
        refine Iff.trans ?_ (past_failures_iff (.findListing item.productId) (.saveListing stored)
          (.insertHistory (history item)) rfl)
        exact and_congr_left' (and_congr_left' (and_congr_left' (wp_emit_iff _)))
    · refine ⟨saved, rfl, ?_, ?_⟩
      · exact ((congrArg (current.events ++ ·) (if_neg low)).trans (List.append_nil _)).symm
      · rw [if_neg low]
        exact past_failures_iff (.findListing item.productId)
          (.saveListing stored) (.insertHistory (history item)) rfl

theorem confirm_turns (order : Order) :
    Turns Database.listings (fun item => .sell item.quantity) lowListing start
      (InventoryService.confirmItem order) := listing_turns (fun _ _ => rfl) fun _ => rfl

theorem restore_turns (order : Order) :
    Turns Database.listings (fun item => .restock item.quantity) lowListing
      start (InventoryService.restoreItem order) := listing_turns (fun _ _ => rfl) fun _ => rfl

theorem stands_lowListing (listing : Listing) :
    Stands start.db (lowListing listing) ↔
      ∃ first, start.db.listings.row (Keyed.key listing) = some first ∧
        (Shelved.levels first).available = (Shelved.levels listing).available := Iff.rfl

theorem stands_lowListing_iff {listing stored : Listing} {key : Id}
    (found : start.db.listings.row key = some listing) (same : stored.id = listing.id) :
    Stands start.db (lowListing stored) ↔ stored.available = listing.available := by
  have keyed : Keyed.key stored = key := same.trans (start.db.listings.keyed found)
  rw [stands_lowListing, keyed, found]
  constructor
  · rintro ⟨first, ⟨⟩, level⟩
    exact level.symm
  · exact fun level => ⟨listing, rfl, level.symm⟩

theorem stands_lowProduct (product : Product) :
    Stands start.db (lowProduct product) ↔
      ∃ first, start.db.products.row (Keyed.key product) = some first ∧
        (Shelved.levels first).available = (Shelved.levels product).available := Iff.rfl

theorem reserve_turns (userId : Id) :
    Turns Database.products (fun item => .reserve item.quantity) lowProduct start (fun item => do
        let _ ← InventoryService.reserveInventory item.productId userId item.quantity) where
  refused item current rest refuses := by
    unfold InventoryService.reserveInventory
    rw [wp_bind, wp_step_iff]
    simp only [act]
    cases found : current.db.products.row item.productId with
    | none => exact ⟨fun reached => reached.1, fun accurate =>
      ⟨accurate, fun _ _ => accurate⟩⟩
    | some product =>
      have refused := refuses product found
      rw [Movement.apply, ite_eq_left_iff] at refused
      have short : product.available < item.quantity :=
        not_not.mp fun covered => by cases refused covered
      simp only [if_pos short]
      exact ⟨fun reached => reached.1, fun accurate =>
        ⟨accurate, fun _ _ => accurate⟩⟩
  moved item current rest product levels found applied := by
    rw [Movement.apply] at applied
    split at applied
    · cases applied
    next covered =>
      cases applied
      have enough : ¬ product.available < item.quantity := covered
      let stored : Product :=
        { product with
          reserved := product.reserved + item.quantity
          available := product.quantity - (product.reserved + item.quantity) }
      let history : InventoryHistory :=
        { listingId := item.productId
          userId
          change := item.quantity
          type := .reservation
          note := some "Reserved for checkout" }
      let saved := (current.withProduct stored).withHistory history
      unfold InventoryService.reserveInventory
      rw [wp_bind, wp_step_iff]
      simp only [act, found, if_neg enough]
      rw [wp_step_iff, wp_step_iff, wp_ite]
      by_cases low : stored.available ≤ 5
      · refine ⟨saved.emitted (lowProduct stored), rfl, ?_, ?_⟩
        · exact (congrArg (current.events ++ ·) (if_pos low)).symm
        · rw [if_pos low, wp_bind, wp_emit_iff]
          exact past_failures_iff (.findProduct item.productId)
            (.saveProduct stored) (.insertHistory history) rfl
      · refine ⟨saved, rfl, ?_, ?_⟩
        · exact ((congrArg (current.events ++ ·) (if_neg low)).trans (List.append_nil _)).symm
        · rw [if_neg low]
          exact past_failures_iff (.findProduct item.productId)
            (.saveProduct stored) (.insertHistory history) rfl

/-- The calls that announce from inside their transaction. -/
inductive NoticeCall where
  | create (dto : CreateOrderDto)
  | adjustInventory (listingId userId : Id) (change : ℤ)
      (type : InventoryChangeType) (note : Option String)
  | adjustVariantInventory (variantId userId : Id) (change : ℤ)
      (type : InventoryChangeType) (note : Option String)
  | confirmOrder (order : Order)
  | restoreInventoryFromRefund (order : Order)

/-- Nothing escapes the call, wherever it fails. -/
def NoticeCall.Contained (world : World) : NoticeCall → Prop
  | .create dto => NothingEscapes (OrdersService.create dto) world
  | .adjustInventory listingId userId change type note =>
    NothingEscapes (InventoryService.adjustInventory listingId userId change type note) world
  | .adjustVariantInventory variantId userId change type note =>
    NothingEscapes (InventoryService.adjustVariantInventory variantId userId change type note) world
  | .confirmOrder order => NothingEscapes (InventoryService.confirmOrder order) world
  | .restoreInventoryFromRefund order =>
    NothingEscapes (InventoryService.restoreInventoryFromRefund order) world

/-- Every level of five or less that the call comes to is the one that stands
at the start, and it reports no massive order. -/
def NoticeCall.ReportsNoChange (world : World) : NoticeCall → Prop
  | .create dto => Orderable world dto →
      LevelsStand world.db.products.row (fun item => .reserve item.quantity)
        ((dto.items.map (lineTotal world)).sum ≤ 5000) [] (dto.items.map (pricedItem world))
  | .adjustInventory listingId _ change _ _ => ∀ listing,
      world.db.listings.row listingId = some listing →
        listing.quantity + change - listing.reserved ≤ 5 →
          listing.quantity + change - listing.reserved = listing.available
  | .adjustVariantInventory variantId _ change _ _ => ∀ variant listing,
      world.db.variants.row variantId = some variant →
        world.db.listings.row variant.listingId = some listing →
          0 ≤ variant.quantity + change - variant.reserved →
            variant.quantity + change - variant.reserved ≤ 5 →
              (world.stockroom.countAfter variant change).available = listing.available
  | .confirmOrder order =>
    LevelsStand world.db.listings.row (fun item => .sell item.quantity) True [] order.items
  | .restoreInventoryFromRefund order =>
    LevelsStand world.db.listings.row (fun item => .restock item.quantity) True [] order.items

theorem stockLoop_contained_iff
    (turns : Turns Database.listings movement lowListing world body) (items : List OrderItem) :
    NothingEscapes (transaction (items.forM body)) world ↔
      LevelsStand world.db.listings.row movement True [] items := by
  have finishes : ∀ current, Extends world current →
      (Accurate world current ↔ Accurate world current ∧ True) :=
    fun _ _ => (and_iff_left trivial).symm
  have loop := loop_accurate_iff turns stands_lowListing finishes items tracks_start
  rw [nothingEscapes_transaction]
  refine Iff.trans (wp_congr _ ?_) (loop.trans (and_iff_right (accurate_refl world)))
  intro result after
  cases result <;> exact Iff.rfl

theorem adjustInventory_contained_iff (listingId userId : Id) (change : ℤ)
    (type : InventoryChangeType) (note : Option String) :
    NothingEscapes (InventoryService.adjustInventory listingId userId change type note) world ↔
      ∀ listing, world.db.listings.row listingId = some listing →
        listing.quantity + change - listing.reserved ≤ 5 →
          listing.quantity + change - listing.reserved =
            listing.available := by
  unfold InventoryService.adjustInventory
  rw [nothingEscapes_transaction]
  refine Iff.trans (wp_silent_iff rfl) ?_
  simp only [act]
  cases found : world.db.listings.row listingId with
  | none => exact ⟨fun _ => by intros; contradiction, fun _ => accurate_refl world⟩
  | some listing =>
    let stored : Listing :=
      { listing with
        quantity := listing.quantity + change
        available := listing.quantity + change - listing.reserved }
    refine Iff.trans (wp_silent_iff rfl) ?_
    refine Iff.trans (wp_silent_iff rfl) ?_
    by_cases low : listing.quantity + change - listing.reserved ≤ 5
    · rw [if_pos low]
      unfold InventoryService.notifyLowStock
      rw [wp_bind, wp_emit_iff]
      refine (accurate_emitted rfl (lowListing stored)).trans ?_
      grind [stands_lowListing_iff]
    · rw [if_neg low]
      exact ⟨fun _ other same isLow => by cases same; exact absurd isLow low,
        fun _ => accurate_refl world⟩

theorem adjustVariantInventory_contained_iff (variantId userId : Id)
    (change : ℤ) (type : InventoryChangeType) (note : Option String) :
    NothingEscapes (InventoryService.adjustVariantInventory variantId userId change type
          note) world ↔ ∀ variant listing, world.db.variants.row variantId = some variant →
        world.db.listings.row variant.listingId = some listing →
          0 ≤ variant.quantity + change - variant.reserved →
            variant.quantity + change - variant.reserved ≤ 5 →
              (world.stockroom.countAfter variant change).available =
                listing.available := by
  unfold InventoryService.adjustVariantInventory
  rw [nothingEscapes_transaction]
  refine Iff.trans (wp_silent_iff rfl) ?_
  simp only [act]
  cases found : world.db.variants.row variantId with
  | none => exact ⟨fun _ _ _ => by intros; contradiction, fun _ => accurate_refl world⟩
  | some variant =>
    rw [wp_ite]
    by_cases missing : variant.quantity + change - variant.reserved < 0
    · rw [if_pos missing]
      refine ⟨fun _ _ _ same _ covered => ?_, fun _ => accurate_refl world⟩
      cases same
      exact absurd covered (not_le.mpr missing)
    rw [if_neg missing]
    refine Iff.trans (wp_silent_iff rfl) ?_
    refine Iff.trans (wp_silent_iff rfl) ?_
    simp only [act, World.withVariant]
    cases listed : world.db.listings.row variant.listingId with
    | none =>
      have silent : ∀ current, current.events = world.events →
          Accurate world current := fun current same =>
        (accurate_of_events same).mpr (accurate_refl world)
      refine ⟨fun _ other listing same => ?_, fun _ => ?_⟩
      · cases same
        rw [listed]
        intros; contradiction
      · rw [wp_bind, wp_pure, andThen_ok]
        refine (wp_silent_iff rfl).mpr ?_
        rw [wp_ite]
        split <;> exact silent _ rfl
    | some listing =>
      simp only [InventoryService.syncListingAggregate, Program.bind_assoc]
      refine Iff.trans (wp_silent_iff rfl) ?_
      refine Iff.trans (wp_silent_iff rfl) ?_
      refine Iff.trans (wp_silent_iff rfl) ?_
      have home : listing.id = variant.listingId := world.db.listings.keyed listed
      let counted : Listing := InventoryService.aggregated listing
        ((world.stockroom.adjusting variant change).variantsOf listing.id)
      have sameId : counted.id = listing.id := key_aggregated listing _
      have level : counted.available = (world.stockroom.countAfter variant change).available := by
        have room : world.stockroom.variants.row variantId =
          some variant := found
        have levels := levels_counted room listing change
        rw [← home] at levels
        exact congrArg Levels.available levels
      by_cases low : variant.quantity + change - variant.reserved ≤ 5
      · rw [if_pos low]
        simp only [InventoryService.notifyLowStock]
        rw [wp_bind, wp_emit_iff]
        refine (accurate_emitted rfl (lowListing counted)).trans ?_
        grind [stands_lowListing_iff]
      · rw [if_neg low]
        refine ⟨fun _ other listing same _ _ isLow => ?_, fun _ => ?_⟩
        · cases same
          exact absurd isLow low
        · exact accurate_refl world

theorem wp_read_iff {γ : Type} {first : Service β} {rest : β → Service γ}
    {value : β} {possible : Prop} (reads : commerce.wp first (fun result after => after = world ∧
      ∀ found, result = .ok found → possible ∧ found = value) world) (succeeds : possible →
      (commerce.exec first [] world).1 = .ok value) :
    commerce.wp (first >>= rest) (accurately world) world ↔
      (possible → commerce.wp (rest value) (accurately world) world) := by
  rw [wp_bind]
  constructor
  · intro reached holds
    have outcome := commerce.wp_sound reached []
    rw [succeeds holds, (commerce.wp_sound reads []).1] at outcome
    exact outcome
  · intro continues
    apply Handler.wp_mono _ reads
    rintro result after ⟨rfl, only⟩
    cases result with
    | error error => exact accurate_refl after
    | ok found => simp_all

theorem wp_check_iff (test : Prop) [Decidable test]
    {error : HttpException} {rest : PUnit → Service β} :
    commerce.wp (if test then Program.throw error >>= rest else rest ⟨⟩) (accurately world) world ↔
      (¬ test → commerce.wp (rest ⟨⟩) (accurately world) world) := by
  by_cases holds : test
  · rw [if_pos holds]
    exact ⟨fun _ fails => absurd holds fails, fun _ => accurate_refl world⟩
  · simp_all

theorem priceItems_returns (dto : CreateOrderDto) (displayed : Displayed world dto) :
    (commerce.exec (dto.items.mapM (OrdersService.priceItem (dto.paymentCurrency.getD .USD)))
      [] world).1 = .ok (dto.items.map (pricedItem world)) := by
  have outcome := commerce.wp_sound_spared priceItems_spec
    (commerce.spares_nil (fun _ => true) (dto.items.mapM
      (OrdersService.priceItem (dto.paymentCurrency.getD .USD))) world)
  grind

theorem orderable_imp_iff {dto : CreateOrderDto} {goal : Prop} :
    (Displayed world dto → ¬ ((dto.items.map (pricedItem world)).map OrderItem.subtotal).sum ≤ 0 →
      ¬ (((dto.milestones.map fun milestones =>
            milestones.map OrdersService.orderMilestone).getD []).map OrderMilestone.amount).sum >
          ((dto.items.map (pricedItem world)).map OrderItem.subtotal).sum →
        goal) ↔ (Orderable world dto → goal) := by
  rw [total_pricedItems, total_orderMilestones]
  constructor
  · intro holds orderable
    exact holds orderable.displayed (not_le.mpr orderable.positive)
      (not_lt.mpr orderable.withinTotal)
  · intro holds displayed positive withinTotal
    exact holds ⟨displayed, not_le.mp positive, not_lt.mp withinTotal⟩

theorem create_contained_iff (dto : CreateOrderDto) :
    NothingEscapes (OrdersService.create dto) world ↔ (Orderable world dto →
        LevelsStand world.db.products.row (fun item => .reserve item.quantity)
          ((dto.items.map (lineTotal world)).sum ≤ 5000) []
          (dto.items.map (pricedItem world))) := by
  unfold OrdersService.create
  rw [nothingEscapes_transaction, ← orderable_imp_iff]
  refine Iff.trans (wp_read_iff (priceItems_reads world dto) (priceItems_returns dto)) ?_
  refine forall_congr' fun _ => (wp_check_iff _).trans
    (forall_congr' fun _ => (wp_check_iff _).trans (forall_congr' fun _ => ?_))
  refine Iff.trans (wp_silent_iff rfl) ?_
  refine Iff.trans wp_bind_onward ?_
  have tracks : Tracks Database.products
      (fun item => .reserve item.quantity) world [] world := tracks_start
  refine Iff.trans (loop_accurate_iff (reserve_turns dto.buyerId)
    stands_lowProduct ?_ (dto.items.map (pricedItem world))
    ⟨le_rfl, tracks.rows⟩) (and_iff_right (accurate_refl world))
  -- the webhook names an order that is not there before the commit
  intro current extends'
  split
  next massive =>
    rw [wp_bind, wp_emit_iff]
    refine Iff.trans (accurate_append extends' rfl) ?_
    rw [List.forall_mem_singleton]
    rw [← total_pricedItems]
    refine and_congr_right fun _ => ⟨?_, fun few => absurd massive (not_lt.mpr few)⟩
    rintro ⟨order, stored⟩
    exact absurd (world.db.orders.row_next.symm.trans stored) (Option.some_ne_none order).symm
  next usual =>
    rw [← total_pricedItems]
    exact (and_iff_left (not_lt.mp usual)).symm

/-- A call can be rolled back at its commit, when it has announced all it had
to announce: nothing escapes it exactly when that was nothing new. -/
theorem nothing_escapes_iff (world : World) (call : NoticeCall) :
    call.Contained world ↔ call.ReportsNoChange world := by
  cases call with
  | create dto => exact create_contained_iff dto
  | adjustInventory listingId userId change type note =>
    exact adjustInventory_contained_iff listingId userId change type note
  | adjustVariantInventory variantId userId change type note =>
    exact adjustVariantInventory_contained_iff variantId userId change type note
  | confirmOrder order => exact stockLoop_contained_iff (confirm_turns order) order.items
  | restoreInventoryFromRefund order =>
    exact stockLoop_contained_iff (restore_turns order) order.items

end

/-- Twice six lamps, of which there are ten. -/
def twiceSixLamps : CreateOrderDto where
  items := [ { productId := 0, quantity := 6, quantity_pos := six_positive },
      { productId := 0, quantity := 6, quantity_pos := six_positive } ]
  buyerId := 7

/-- The first six are announced as reserved, then the second six are missing
and the order is rolled back: ten are left, not four. -/
theorem announces_four_of_ten :
    ¬ (NoticeCall.create twiceSixLamps).Contained openShop := by
  intro contained
  have announced :
      (.inventoryLowStock 0 "lamp" 4 none : CommerceEvent) ∈
        (commerce.exec (OrdersService.create twiceSixLamps) []
          openShop).2.announcedSince openShop := by decide +kernel
  obtain ⟨product, stored, level⟩ := contained [] (by decide +kernel) _ announced
  have kept : ((commerce.exec (OrdersService.create twiceSixLamps) []
      openShop).2.db.products.row 0).map Product.available = some 10 := by decide +kernel
  rw [stored, Option.map_some, level] at kept
  cases kept

end MarketX.Commerce
