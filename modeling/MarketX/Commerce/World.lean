/-
Module: MarketX.Commerce.World
Purpose: The database behind orders, payments, coupons, shipments, fraud
  alerts, returns and milestones, and the effects through which the services
  of the shop touch it.
Trusted boundary: human-reviewed model of the source
Main exports: CommerceEvent, Database, World, Op
-/
import Mathlib.Algebra.Ring.Int.Defs
import MarketX.Commerce.Rows

namespace MarketX.Commerce

open Effects

/-- The events and notices that leave the services (`common/events.ts`), and
those to the admin and the audit log.  An order number, which is cut out of
the order's id, is left out beside the id. -/
inductive CommerceEvent where
  | massiveOrderDetected (orderId buyerId : Id) (amount : Amount) (itemCount : ℕ)
  | orderUpdated (orderId userId : Id) (status previousStatus : OrderStatus)
  | orderCompleted (orderId userId : Id) (totalAmount : Amount)
  | inventoryLowStock (productId : Id) (title : String) (available : ℤ) (listingId : Option Id)
  | paymentInitiated (paymentId orderId : Id) (destination : PublicKey)
      (expectedAmount : Amount) (currency : Currency)
  | paymentConfirmed (paymentId userId orderId : Id) (amount : Amount)
      (currency : Currency) (stellarTransactionId : String)
  | paymentFailed (paymentId userId orderId : Id) (amount : Amount) (reason : String)
  | paymentTimeout (paymentId orderId : Id)
  | paymentStreamConfirmed (paymentId : Id) (transactionId : String)
  | shipmentCreated (shipmentId orderId : Id) (trackingNumber : String) (carrier : ShippingCarrier)
  | shipmentStatusUpdated (shipmentId orderId : Id) (status previousStatus : ShipmentStatus)
  | fraudAlertCreated (alert : FraudAlert) (triggeredRules : List String)
  | fraudAccountLocked (userId : Id) (previousStatus : UserStatus)
      (riskScore flagCount : ℕ) (triggeredRules : List String)
  | highRiskFraudDetected (userId : Option Id) (riskScore : ℕ)
      (rulesTriggered : String) (ip : Option String)
  | returnRequested (returnRequestId orderId buyerId sellerId : Id)
  | returnReviewed (returnRequestId : Id) (status : ReturnStatus) (buyerId sellerId : Id)
deriving DecidableEq

/-- A product as `ProductsService.findOne` shows it. -/
structure DisplayProduct where
  name : String
  price : Amount
  currency : Currency
deriving DecidableEq

/-- A counter in the cache, and when it lapses. -/
structure Counter where
  value : ℕ
  expiresAt : Option Date
deriving DecidableEq

/-- What the search index does with a listing (`search/search-sync.service.ts`).
-/
inductive SyncAction where
  | index
  | update
  | delete
deriving DecidableEq

/-- The tables.  This is what a transaction rolls back. -/
structure Database where
  orders : Table Order
  products : Table Product
  listings : Table Listing
  variants : Table ListingVariant
  histories : List InventoryHistory
  payments : Table Payment
  wallets : Table Wallet
  rewards : List RewardPoints
  coupons : Table Coupon
  couponUsages : List CouponUsage
  shipments : Table Shipment
  alerts : List FraudAlert
  users : Table User
  returnRequests : Table ReturnRequest
  milestones : Table Milestone
  transactions : List Transaction

def Database.empty : Database where
  orders := .empty
  products := .empty
  listings := .empty
  variants := .empty
  histories := []
  payments := .empty
  wallets := .empty
  rewards := []
  coupons := .empty
  couponUsages := []
  shipments := .empty
  alerts := []
  users := .empty
  returnRequests := .empty
  milestones := .empty
  transactions := []

/-- What lies around the database: the products on display, which are kept in
memory, the distance in miles between an IP address and a postal address
where both can be located, the counters of the cache, the events emitted, and
the clock. -/
structure World where
  db : Database
  catalogue : Id → Option DisplayProduct
  geoDistance : String → String → Option Amount
  counters : String → Option Counter
  events : List CommerceEvent
  now : Date

/-- The awaited calls.  An inserted entity has no key yet: its `id` is ignored
and generated.  `rollback` brings back the tables as they were at `begin`.
The sum of `totalPoints` is missing where there are no rows. -/
inductive Op where
  | begin
  | commit
  | rollback (tables : Database)
  | findOrder (id : Id)
  | insertOrder (order : Order)
  | saveOrder (order : Order)
  | findDisplayProduct (id : Id) (preferredCurrency : Currency)
  | findProduct (id : Id)
  | saveProduct (product : Product)
  | findListing (id : Id)
  | saveListing (listing : Listing)
  | findVariant (id : Id)
  | findVariants (listingId : Id)
  | saveVariant (variant : ListingVariant)
  | insertListing (listing : ListingEntity)
  | saveListingEntity (listing : ListingEntity)
  | syncSingleListing (listing : ListingEntity) (action : SyncAction)
  | insertHistory (history : InventoryHistory)
  | findPayment (id : Id)
  | findPaymentWithOrder (id : Id)
  | findPendingPayment (orderId : Id)
  | insertPayment (payment : Payment)
  | savePayment (payment : Payment)
  | findWallet (userId : Id)
  | sumPoints (userId : Id)
  | totalPoints (userId : Id)
  | insertReward (reward : RewardPoints)
  | insertCoupon (coupon : Coupon)
  | findCoupon (code : String)
  | findCouponById (id : Id)
  | saveCoupon (coupon : Coupon)
  | countCouponUsages (couponId userId : Id)
  | insertCouponUsage (usage : CouponUsage)
  | incrementUsageCount (couponId : Id)
  | findShipment (id : Id)
  | findShipmentOfOrder (orderId : Id)
  | insertShipment (shipment : Shipment)
  | saveShipment (shipment : Shipment)
  | locate (ip shippingAddress : String)
  | insertAlert (alert : FraudAlert)
  | incr (key : String)
  | expire (key : String) (seconds : ℕ)
  | findUser (id : Id)
  | saveUser (user : User)
  | sendAccountLocked (userId : Id) («to» name : String)
  | suspendUser (userId : Id)
  | findReturnRequest (id : Id)
  | findPendingReturn (orderId : Id)
  | insertReturnRequest (request : ReturnRequest)
  | saveReturnRequest (request : ReturnRequest)
  | findMilestone (id : Id)
  | findDueMilestones (now : Date)
  | insertMilestones (milestones : List Milestone)
  | saveMilestone (milestone : Milestone)
  | insertTransaction (transaction : Transaction)
  | dateNow
  | emit (event : CommerceEvent)

/-- The answer to each call. -/
@[reducible] def Reply : Op → Type
  | .begin => Database
  | .findOrder _ => Option Order
  | .insertOrder _ => Order
  | .findDisplayProduct _ _ => Option DisplayProduct
  | .findProduct _ => Option Product
  | .findListing _ => Option Listing
  | .findVariant _ => Option ListingVariant
  | .findVariants _ => List ListingVariant
  | .insertListing _ => ListingEntity
  | .saveListingEntity _ => Option ListingEntity
  | .findPayment _ | .findPendingPayment _ => Option Payment
  | .findPaymentWithOrder _ => Option (Payment × Option Order)
  | .insertPayment _ => Payment
  | .findWallet _ => Option Wallet
  | .sumPoints _ => ℤ
  | .totalPoints _ => Option ℤ
  | .insertCoupon _ => Coupon
  | .findCoupon _ | .findCouponById _ => Option Coupon
  | .countCouponUsages _ _ => ℕ
  | .findShipment _ | .findShipmentOfOrder _ => Option Shipment
  | .insertShipment _ => Shipment
  | .locate _ _ => Option Amount
  | .incr _ => ℕ
  | .findUser _ => Option User
  | .findReturnRequest _ | .findPendingReturn _ => Option ReturnRequest
  | .insertReturnRequest _ => ReturnRequest
  | .findMilestone _ => Option (Milestone × Option Order)
  | .findDueMilestones _ | .insertMilestones _ => List Milestone
  | .dateNow => Date
  | _ => Unit

/-! ### Writing to the world -/

namespace World

variable (world : World)

/-- The world with one order row stored. -/
def withOrder (order : Order) : World :=
  { world with db := { world.db with orders := world.db.orders.save order } }

def withProduct (product : Product) : World :=
  { world with
    db := { world.db with products := world.db.products.save product } }

def withListing (listing : Listing) : World :=
  { world with
    db := { world.db with listings := world.db.listings.save listing } }

def withVariant (variant : ListingVariant) : World :=
  { world with
    db := { world.db with variants := world.db.variants.save variant } }

def withVariants (variants : Table ListingVariant) : World :=
  { world with db := { world.db with variants := variants } }

def withHistory (history : InventoryHistory) : World :=
  { world with
    db := { world.db with histories := world.db.histories ++ [history] } }

def withPayment (payment : Payment) : World :=
  { world with
    db := { world.db with payments := world.db.payments.save payment } }

def withReward (reward : RewardPoints) : World :=
  { world with
    db := { world.db with rewards := world.db.rewards ++ [reward] } }

def withCoupon (coupon : Coupon) : World :=
  { world with
    db := { world.db with coupons := world.db.coupons.save coupon } }

def withCoupons (coupons : Table Coupon) : World :=
  { world with db := { world.db with coupons := coupons } }

def withCouponUsage (usage : CouponUsage) : World :=
  { world with
    db := { world.db with couponUsages := world.db.couponUsages ++ [usage] } }

def withShipment (shipment : Shipment) : World :=
  { world with
    db := { world.db with shipments := world.db.shipments.save shipment } }

def withAlert (alert : FraudAlert) : World :=
  { world with db := { world.db with alerts := world.db.alerts ++ [alert] } }

def withUser (user : User) : World :=
  { world with db := { world.db with users := world.db.users.save user } }

def withReturnRequest (request : ReturnRequest) : World :=
  { world with
    db := { world.db with
      returnRequests := world.db.returnRequests.save request } }

def withMilestone (milestone : Milestone) : World :=
  { world with
    db := { world.db with milestones := world.db.milestones.save milestone } }

def withMilestones (milestones : Table Milestone) : World :=
  { world with db := { world.db with milestones := milestones } }

def withTransaction (transaction : Transaction) : World :=
  { world with
    db := { world.db with
      transactions := world.db.transactions ++ [transaction] } }

def withTables (tables : Database) : World := { world with db := tables }

def emitted (event : CommerceEvent) : World :=
  { world with events := world.events ++ [event] }

/-- The counter under a key, unless it has lapsed. -/
def counter (key : String) : ℕ :=
  match world.counters key with
  | none => 0
  | some counter =>
    if counter.expiresAt.any (· ≤ world.now) then 0 else counter.value

/-- `INCR`: a counter that has lapsed starts anew and without a deadline. -/
def counted (key : String) : World :=
  let kept : Option Date := do
    let counter ← world.counters key
    if counter.expiresAt.any (· ≤ world.now) then none else counter.expiresAt
  { world with
    counters := Function.update world.counters key
      (some { value := world.counter key + 1, expiresAt := kept }) }

/-- `EXPIRE`. -/
def expiring (key : String) (seconds : ℕ) : World :=
  { world with
    counters := Function.update world.counters key
      ((world.counters key).map fun counter =>
        { counter with expiresAt := some (world.now + seconds * 1000) }) }

end World

/-- The variants of a listing, each over its row where it has one and under
the next key otherwise, and the variants as they are stored. -/
def storeVariants (listingId : Id) (table : Table ListingVariant) :
    List VariantEntity → List ListingVariant × Table ListingVariant
  | [] => ([], table)
  | variant :: rest =>
    let stored := match variant.id.bind table.row with
      | some row => variant.updated row
      | none => variant.inserted (variant.id.getD table.next) listingId
    let after := storeVariants listingId (table.save stored) rest
    (stored :: after.1, after.2)

/-- A variant of the listing is stored that the listing no longer has. -/
def leavesOrphan (table : Table ListingVariant) (listing : ListingEntity) :
    Bool := table.rows.any fun row =>
    row.listingId = listing.row.id ∧ some row.id ∉ listing.variants.map VariantEntity.id

namespace World

variable (world : World)

/-- The world with a listing and its variants stored. -/
def withListingEntity (listing : ListingEntity) : World :=
  (world.withListing listing.row).withVariants
    (storeVariants listing.row.id world.db.variants listing.variants).2

/-- What `save` makes of the entity, which it fills in from the rows. -/
def savedEntity (listing : ListingEntity) : ListingEntity where
  row := listing.row
  variants :=
    (storeVariants listing.row.id world.db.variants listing.variants).1.map ListingVariant.entity

end World

/-- Several new milestones under the next keys, and the milestones as they
are stored. -/
def storeMilestones (table : Table Milestone) :
    List Milestone → List Milestone × Table Milestone
  | [] => ([], table)
  | milestone :: rest =>
    let stored := { milestone with id := table.next }
    let after := storeMilestones (table.save stored) rest
    (stored :: after.1, after.2)

/-- One more use of the coupon under a key, if there is one. -/
def countUsage (table : Table Coupon) (couponId : Id) : Table Coupon :=
  match table.row couponId with
  | none => table
  | some coupon => table.save { coupon with currentUsageCount := coupon.currentUsageCount + 1 }

/-- What each call does when it does not throw. -/
def act : (op : Op) → World → Reply op × World
  | .begin, world => (world.db, world)
  | .commit, world => ((), world)
  | .rollback tables, world => ((), world.withTables tables)
  | .findOrder id, world => (world.db.orders.row id, world)
  | .insertOrder order, world =>
    ({ order with id := world.db.orders.next },
      world.withOrder { order with id := world.db.orders.next })
  | .saveOrder order, world => ((), world.withOrder order)
  | .findDisplayProduct id _, world => (world.catalogue id, world)
  | .findProduct id, world => (world.db.products.row id, world)
  | .saveProduct product, world => ((), world.withProduct product)
  | .findListing id, world => (world.db.listings.row id, world)
  | .saveListing listing, world => ((), world.withListing listing)
  | .findVariant id, world => (world.db.variants.row id, world)
  | .findVariants listingId, world =>
    (world.db.variants.rows.filter fun variant => variant.listingId = listingId, world)
  | .saveVariant variant, world => ((), world.withVariant variant)
  | .insertListing listing, world =>
    let row := { listing.row with id := world.db.listings.next }
    (world.savedEntity { listing with row }, world.withListingEntity { listing with row })
  -- A row of which the entity knows nothing would lose its listing, and the
  -- column is NOT NULL.
  | .saveListingEntity listing, world =>
    if leavesOrphan world.db.variants listing then (none, world)
    else (some (world.savedEntity listing), world.withListingEntity listing)
  | .syncSingleListing _ _, world => ((), world)
  | .insertHistory history, world => ((), world.withHistory history)
  | .findPayment id, world => (world.db.payments.row id, world)
  | .findPaymentWithOrder id, world =>
    ((world.db.payments.row id).map fun payment =>
        (payment, world.db.orders.row payment.orderId),
      world)
  | .findPendingPayment orderId, world =>
    (world.db.payments.rows.find? fun payment =>
        payment.orderId = orderId ∧ payment.status = .pending,
      world)
  | .insertPayment payment, world =>
    ({ payment with id := world.db.payments.next },
      world.withPayment { payment with id := world.db.payments.next })
  | .savePayment payment, world => ((), world.withPayment payment)
  | .findWallet userId, world =>
    (world.db.wallets.rows.find? fun wallet => wallet.userId = userId, world)
  | .sumPoints userId, world =>
    (((world.db.rewards.filter fun reward => reward.userId = userId).map RewardPoints.points).sum,
      world)
  | .totalPoints userId, world =>
    (match world.db.rewards.filter fun reward => reward.userId = userId with
      | [] => none
      | rows => some (rows.map RewardPoints.points).sum,
      world)
  | .insertReward reward, world => ((), world.withReward reward)
  | .insertCoupon coupon, world =>
    ({ coupon with id := world.db.coupons.next },
      world.withCoupon { coupon with id := world.db.coupons.next })
  | .findCoupon code, world =>
    (world.db.coupons.rows.find? fun coupon => coupon.code = code, world)
  | .findCouponById id, world => (world.db.coupons.row id, world)
  | .saveCoupon coupon, world => ((), world.withCoupon coupon)
  | .countCouponUsages couponId userId, world =>
    ((world.db.couponUsages.filter fun usage =>
        usage.couponId = couponId ∧ usage.userId = userId).length,
      world)
  | .insertCouponUsage usage, world => ((), world.withCouponUsage usage)
  | .incrementUsageCount couponId, world =>
    ((), world.withCoupons (countUsage world.db.coupons couponId))
  | .findShipment id, world => (world.db.shipments.row id, world)
  | .findShipmentOfOrder orderId, world =>
    (world.db.shipments.rows.find? fun shipment => shipment.orderId = orderId, world)
  | .insertShipment shipment, world =>
    ({ shipment with id := world.db.shipments.next },
      world.withShipment { shipment with id := world.db.shipments.next })
  | .saveShipment shipment, world => ((), world.withShipment shipment)
  | .locate ip shippingAddress, world =>
    (world.geoDistance ip shippingAddress, world)
  | .insertAlert alert, world => ((), world.withAlert alert)
  | .incr key, world => (world.counter key + 1, world.counted key)
  | .expire key seconds, world => ((), world.expiring key seconds)
  | .findUser id, world => (world.db.users.row id, world)
  | .saveUser user, world => ((), world.withUser user)
  | .sendAccountLocked _ _ _, world => ((), world)
  | .suspendUser _, world => ((), world)
  | .findReturnRequest id, world => (world.db.returnRequests.row id, world)
  | .findPendingReturn orderId, world =>
    (world.db.returnRequests.rows.find? fun request =>
        request.orderId = orderId ∧ request.status = .pending,
      world)
  | .insertReturnRequest request, world =>
    ({ request with id := world.db.returnRequests.next }, world.withReturnRequest
        { request with id := world.db.returnRequests.next })
  | .saveReturnRequest request, world =>
    ((), world.withReturnRequest request)
  | .findMilestone id, world =>
    ((world.db.milestones.row id).map fun milestone =>
        (milestone, world.db.orders.row milestone.orderId),
      world)
  | .findDueMilestones now, world =>
    (world.db.milestones.rows.filter fun milestone =>
        milestone.status = .pending ∧ milestone.autoRelease = true ∧
          milestone.releaseAt.any (· < now),
      world)
  | .insertMilestones milestones, world =>
    let stored := storeMilestones world.db.milestones milestones
    (stored.1, world.withMilestones stored.2)
  | .saveMilestone milestone, world => ((), world.withMilestone milestone)
  | .insertTransaction transaction, world =>
    ((), world.withTransaction transaction)
  | .dateNow, world => (world.now, world)
  | .emit event, world => ((), world.emitted event)

/-- The clock and the event emitter stay inside the process, and a
transaction that ends without a commit is rolled back in any case. -/
def mayFail : Op → Bool
  | .rollback _ | .dateNow | .emit _ => false
  | _ => true

abbrev signature : Signature := ⟨Op, Reply⟩

/-- The shop side of the backend. -/
def commerce : Handler signature World := ⟨act, mayFail⟩

/-- An `async` method of the services of the shop. -/
abbrev Service (α : Type) := Program signature HttpException α

/-- One awaited call. -/
def await (op : Op) : Service (Reply op) := Program.perform (S := signature) op

/-! ### The calls under the names the services give them -/

abbrev ordersRepository.findOne (id : Id) : Service (Option Order) := await (.findOrder id)

/-- `save` of an entity that `create` just made, here and below. -/
abbrev ordersRepository.insert (order : Order) : Service Order := await (.insertOrder order)

abbrev ordersRepository.save (order : Order) : Service Unit := await (.saveOrder order)

abbrev productsService.findOne (id : Id) (preferredCurrency : Currency) :
    Service (Option DisplayProduct) := await (.findDisplayProduct id preferredCurrency)

abbrev productRepo.findOne (id : Id) : Service (Option Product) := await (.findProduct id)

abbrev productRepo.save (product : Product) : Service Unit := await (.saveProduct product)

abbrev listingRepo.findOne (id : Id) : Service (Option Listing) := await (.findListing id)

abbrev listingRepo.save (listing : Listing) : Service Unit := await (.saveListing listing)

abbrev variantRepo.findOne (id : Id) : Service (Option ListingVariant) := await (.findVariant id)

/-- `find` where the listing is given. -/
abbrev variantRepo.find (listingId : Id) : Service (List ListingVariant) :=
  await (.findVariants listingId)

abbrev variantRepo.save (variant : ListingVariant) : Service Unit := await (.saveVariant variant)

/-- `save` of a listing together with its variants (`cascade`), of one that
`create` just made. -/
abbrev listingRepo.insert (listing : ListingEntity) : Service ListingEntity :=
  await (.insertListing listing)

/-- `save` of a listing together with its variants. -/
def listingRepo.saveEntity (listing : ListingEntity) :
    Service ListingEntity := do
  match ← await (.saveListingEntity listing) with
  | none =>
    throw (.error ("null value in column \"listingId\" of relation " ++
      "\"listing_variants\" violates not-null constraint"))
  | some saved => pure saved

abbrev searchSyncService.syncSingleListing (listing : ListingEntity)
    (action : SyncAction) : Service Unit := await (.syncSingleListing listing action)

abbrev historyRepo.insert (history : InventoryHistory) : Service Unit :=
  await (.insertHistory history)

abbrev paymentsRepository.findOne (id : Id) : Service (Option Payment) := await (.findPayment id)

/-- With `relations: ['order']`. -/
abbrev paymentsRepository.findWithOrder (id : Id) :
    Service (Option (Payment × Option Order)) := await (.findPaymentWithOrder id)

abbrev paymentsRepository.findPending (orderId : Id) :
    Service (Option Payment) := await (.findPendingPayment orderId)

abbrev paymentsRepository.insert (payment : Payment) : Service Payment :=
  await (.insertPayment payment)

abbrev paymentsRepository.save (payment : Payment) : Service Unit := await (.savePayment payment)

abbrev walletsRepository.findOne (userId : Id) : Service (Option Wallet) :=
  await (.findWallet userId)

abbrev rewardsRepository.insert (reward : RewardPoints) : Service Unit :=
  await (.insertReward reward)

abbrev couponsRepository.insert (coupon : Coupon) : Service Coupon := await (.insertCoupon coupon)

abbrev couponRepository.findOne (code : String) : Service (Option Coupon) :=
  await (.findCoupon code)

abbrev couponRepository.findById (id : Id) : Service (Option Coupon) := await (.findCouponById id)

abbrev couponRepository.save (coupon : Coupon) : Service Unit := await (.saveCoupon coupon)

/-- `increment` of `currentUsageCount` by one. -/
abbrev couponRepository.increment (couponId : Id) : Service Unit :=
  await (.incrementUsageCount couponId)

abbrev couponUsageRepository.count (couponId userId : Id) : Service ℕ :=
  await (.countCouponUsages couponId userId)

abbrev couponUsageRepository.insert (usage : CouponUsage) : Service Unit :=
  await (.insertCouponUsage usage)

abbrev shipmentsRepository.findOne (id : Id) : Service (Option Shipment) := await (.findShipment id)

abbrev shipmentsRepository.findOfOrder (orderId : Id) :
    Service (Option Shipment) := await (.findShipmentOfOrder orderId)

abbrev shipmentsRepository.insert (shipment : Shipment) : Service Shipment :=
  await (.insertShipment shipment)

abbrev shipmentsRepository.save (shipment : Shipment) : Service Unit :=
  await (.saveShipment shipment)

abbrev userRepository.findOne (id : Id) : Service (Option User) := await (.findUser id)

abbrev userRepository.save (user : User) : Service Unit := await (.saveUser user)

abbrev returnRequestRepository.findOne (id : Id) :
    Service (Option ReturnRequest) := await (.findReturnRequest id)

abbrev returnRequestRepository.findPending (orderId : Id) :
    Service (Option ReturnRequest) := await (.findPendingReturn orderId)

abbrev returnRequestRepository.insert (request : ReturnRequest) :
    Service ReturnRequest := await (.insertReturnRequest request)

abbrev returnRequestRepository.save (request : ReturnRequest) :
    Service Unit := await (.saveReturnRequest request)

/-- With `relations: ['order']`. -/
abbrev milestoneRepo.findOne (id : Id) :
    Service (Option (Milestone × Option Order)) := await (.findMilestone id)

/-- `find` of the PENDING ones that are to be released automatically, and
before `now`. -/
abbrev milestoneRepo.findDue (now : Date) : Service (List Milestone) :=
  await (.findDueMilestones now)

/-- `save` of a list of entities that `create` just made. -/
abbrev milestoneRepo.insert (milestones : List Milestone) :
    Service (List Milestone) := await (.insertMilestones milestones)

abbrev milestoneRepo.save (milestone : Milestone) : Service Unit := await (.saveMilestone milestone)

abbrev transactionRepository.insert (transaction : Transaction) :
    Service Unit := await (.insertTransaction transaction)

abbrev dateNow : Service Date := await .dateNow

abbrev emit (event : CommerceEvent) : Service Unit := await (.emit event)

/-- `dataSource.transaction`: the tables are as before unless the body returns
and its changes are committed. -/
def transaction {α : Type} (body : Service α) : Service α := do
  let before ← await .begin
  match ← (do let value ← body; await .commit; pure value : Service α).attempt
  with
  | .ok value => pure value
  | .error error =>
    await (.rollback before)
    throw error

end MarketX.Commerce
