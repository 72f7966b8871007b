/-
Module: MarketX.Commerce.Rows
Purpose: The rows behind orders: stock, payments, reward points, coupons,
  shipments, fraud alerts, users, return requests and milestones, with the
  enumerations their columns range over.
Trusted boundary: human-reviewed model of the source
Main exports: Product, Listing, ListingVariant, VariantEntity
-/
import MarketX.Entities.Order

namespace MarketX

open Effects

/-! ### Stock -/

/-- A row of `products` (`entities/product.entity.ts`): its stock. -/
structure Product where
  id : Id
  title : String
  quantity : ℤ := 1
  reserved : ℤ := 0
  available : ℤ := 1
deriving DecidableEq

instance : Keyed Product := ⟨Product.id⟩

/-- A row of `listings` (`listing/entities/listing.entity.ts`): its stock,
what its variants decide besides, and the count of its views. -/
structure Listing where
  id : Id
  title : String
  price : Amount
  currency : String := "USD"
  quantity : ℤ := 1
  reserved : ℤ := 0
  available : ℤ := 1
  views : ℕ := 0
deriving DecidableEq

instance : Keyed Listing := ⟨Listing.id⟩

/-- A row of `listing_variants`; the attributes as their JSON text. -/
structure ListingVariant where
  id : Id
  listingId : Id
  sku : Option String := none
  attributes : Option String := none
  price : Amount
  currency : String := "USD"
  quantity : ℤ := 1
  reserved : ℤ := 0
  available : ℤ := 1
deriving DecidableEq

instance : Keyed ListingVariant := ⟨ListingVariant.id⟩

/-- A variant in memory, where a member may be `undefined`. -/
structure VariantEntity where
  id : Option Id := none
  sku : Option String := none
  attributes : Option String := none
  price : Amount
  currency : Option String := none
  quantity : Option ℤ := none
  reserved : Option ℤ := none
  available : Option ℤ := none
deriving DecidableEq

/-- As it is loaded. -/
def ListingVariant.entity (row : ListingVariant) : VariantEntity where
  id := some row.id
  sku := row.sku
  attributes := row.attributes
  price := row.price
  currency := some row.currency
  quantity := some row.quantity
  reserved := some row.reserved
  available := some row.available

namespace VariantEntity

variable (variant : VariantEntity)

/-- `INSERT`: a column without a value takes its default. -/
def inserted (id listingId : Id) : ListingVariant where
  id
  listingId
  sku := variant.sku
  attributes := variant.attributes
  price := variant.price
  currency := variant.currency.getD "USD"
  quantity := variant.quantity.getD 1
  reserved := variant.reserved.getD 0
  available := variant.available.getD 1

/-- `UPDATE`: a column without a value stays as it is. -/
def updated (row : ListingVariant) : ListingVariant where
  id := row.id
  listingId := row.listingId
  sku := variant.sku.or row.sku
  attributes := variant.attributes.or row.attributes
  price := variant.price
  currency := variant.currency.getD row.currency
  quantity := variant.quantity.getD row.quantity
  reserved := variant.reserved.getD row.reserved
  available := variant.available.getD row.available

end VariantEntity

/-- A listing in memory, with its variants. -/
structure ListingEntity where
  row : Listing
  variants : List VariantEntity
deriving DecidableEq

inductive InventoryChangeType where
  | purchase
  | adjustment
  | reservation
  | release
  | bulkUpdate
  | cancellation
  | refund
deriving DecidableEq

structure InventoryHistory where
  listingId : Id
  userId : Id
  change : ℤ
  type : InventoryChangeType
  note : Option String := none
deriving DecidableEq

/-! ### Payments -/

/-- The fields of `transactionData` the code reads.  A missing member is
`none`; so is an amount that `parseFloat` makes `NaN` of, and a date that
`Date` cannot read. -/
structure TransactionData where
  id : Option String
  «to» : Option PublicKey
  sourceAccount : Option PublicKey
  amount : Option Amount
  assetCode : Option String
  createdAt : Option Date
  confirmations : Option ℕ
deriving DecidableEq

/-- A row of `payment`. -/
structure Payment where
  id : Id
  orderId : Id
  amount : Amount
  currency : Currency
  status : PaymentStatus := .pending
  stellarTransactionId : Option String := none
  destinationWalletAddress : PublicKey
  sourceWalletAddress : Option PublicKey := none
  confirmationCount : ℕ := 0
  timeoutMinutes : ℤ := 30
  confirmedAt : Option Date := none
  failedAt : Option Date := none
  expiresAt : Option Date := none
  failureReason : Option String := none
  stellarTransactionData : Option TransactionData := none
  buyerId : Id
deriving DecidableEq

instance : Keyed Payment := ⟨Payment.id⟩

/-- A row of `wallet`, without its secret. -/
structure Wallet where
  id : Id
  publicKey : PublicKey
  userId : Id
deriving DecidableEq

instance : Keyed Wallet := ⟨Wallet.id⟩

inductive PointsTransactionType where
  | earned
  | redeemed
  | expired
  | adjusted
deriving DecidableEq

/-- A row of `reward_points`. -/
structure RewardPoints where
  userId : Id
  points : ℤ
  transactionType : PointsTransactionType := .earned
  description : Option String := none
  referenceId : Option Id := none
  referenceType : Option String := none
  balanceAfter : ℤ
deriving DecidableEq

inductive DiscountType where
  | percentage
  | fixedAmount
deriving DecidableEq

inductive CouponStatus where
  | active
  | inactive
  | expired
  | depleted
deriving DecidableEq

instance : ToString CouponStatus where
  toString
    | .active => "active"
    | .inactive => "inactive"
    | .expired => "expired"
    | .depleted => "depleted"

/-- The `restrictions` column of a coupon. -/
structure CouponRestriction where
  productIds : Option (List Id) := none
  categoryIds : Option (List Id) := none
  excludedProductIds : Option (List Id) := none
  excludedCategoryIds : Option (List Id) := none
  minimumOrderAmount : Option Amount := none
  maximumDiscountAmount : Option Amount := none
  newCustomersOnly : Option Bool := none
  firstOrderOnly : Option Bool := none
deriving DecidableEq

/-- A row of `coupons`. -/
structure Coupon where
  id : Id
  code : String
  name : String
  description : Option String := none
  discountType : DiscountType := .percentage
  discountValue : Amount
  status : CouponStatus := .active
  startDate : Option Date := none
  endDate : Option Date := none
  totalUsageLimit : ℕ := 0
  perUserLimit : ℕ := 0
  currentUsageCount : ℕ := 0
  restrictions : Option CouponRestriction := none
deriving DecidableEq

instance : Keyed Coupon := ⟨Coupon.id⟩

/-- A row of `coupon_usages`. -/
structure CouponUsage where
  couponId : Id
  userId : Id
  orderId : Id
  orderAmount : Amount
  discountAmount : Amount
  currency : String
deriving DecidableEq

/-! ### Shipments -/

inductive ShippingCarrier where
  | ups
  | fedex
  | dhl
  | usps
  | «local»
deriving DecidableEq

inductive ShipmentStatus where
  | labelCreated
  | pickedUp
  | inTransit
  | outForDelivery
  | delivered
  | failed
  | returned
deriving DecidableEq

instance : ToString ShipmentStatus where
  toString
    | .labelCreated => "label_created"
    | .pickedUp => "picked_up"
    | .inTransit => "in_transit"
    | .outForDelivery => "out_for_delivery"
    | .delivered => "delivered"
    | .failed => "failed"
    | .returned => "returned"

structure ShippingAddress where
  street : String
  city : String
  state : String
  postalCode : String
  country : String
deriving DecidableEq

structure PackageDimensions where
  length : Amount
  width : Amount
  height : Amount
  unit : Option String := none
deriving DecidableEq

/-- A row of `shipment`. -/
structure Shipment where
  id : Id
  orderId : Id
  carrier : ShippingCarrier
  trackingNumber : String
  status : ShipmentStatus := .labelCreated
  shippingAddress : ShippingAddress
  weight : Option Amount := none
  dimensions : Option PackageDimensions := none
  shippingCost : Option Amount := none
  estimatedDeliveryDate : Option Date := none
  actualDeliveryDate : Option Date := none
  labelUrl : Option String := none
  notes : Option String := none
deriving DecidableEq

instance : Keyed Shipment := ⟨Shipment.id⟩

/-! ### Fraud -/

/-- `FraudInput.metadata`. -/
structure FraudMetadata where
  amount : Option Amount := none
  orderCount : Option ℕ := none
  duplicateOrderInWindow : Option Bool := none
  knownBadIp : Option Bool := none
  accountAgeDays : Option Amount := none
  accountAgeHours : Option Amount := none
  billingAddress : Option String := none
  shippingAddress : Option String := none
  failedPaymentCount : Option ℕ := none
  isFirstOrder : Option Bool := none
  geoDistanceMiles : Option Amount := none
deriving DecidableEq

inductive FraudStatus where
  | pending
  | reviewed
  | suspended
  | safe
  | manualReview
deriving DecidableEq

/-- A row of `fraud_alerts`. -/
structure FraudAlert where
  userId : Option Id
  orderId : Option Id
  ip : Option String
  deviceFingerprint : Option String
  riskScore : ℕ
  reason : String
  metadata : Option FraudMetadata
  status : FraudStatus := .pending
deriving DecidableEq

inductive UserStatus where
  | active
  | inactive
  | suspended
  | deleted
  | locked
deriving DecidableEq

/-- A row of `users`: what the fraud service reads of it. -/
structure User where
  id : Id
  email : String
  firstName : String
  status : UserStatus := .active
deriving DecidableEq

instance : Keyed User := ⟨User.id⟩

/-! ### Returns -/

inductive ReturnStatus where
  | pending
  | approved
  | rejected
  | processing
  | completed
deriving DecidableEq

inductive RefundType where
  | fullRefund
  | partialRefund
deriving DecidableEq

inductive ReturnReason where
  | defective
  | wrongItem
  | notAsDescribed
  | noLongerNeeded
  | changedMind
  | other
deriving DecidableEq

/-- One item to return.  The DTO admits whole quantities from one up only
(`@IsInt() @Min(1)`), and the row keeps what the DTO had. -/
@[ext] structure ReturnItem where
  listingId : Id
  quantity : ℤ
  quantity_pos : 1 ≤ quantity

instance : DecidableEq ReturnItem := fun _ _ => decidable_of_iff' _ ReturnItem.ext_iff

/-- A row of `return_requests`. -/
structure ReturnRequest where
  id : Id
  orderId : Id
  buyerId : Id
  sellerId : Id
  reason : ReturnReason
  reasonDescription : Option String := none
  status : ReturnStatus := .pending
  refundType : RefundType := .fullRefund
  requestedAmount : Option Amount := none
  currency : Currency := .USD
  items : Option (List ReturnItem) := none
  returnWindowDays : ℕ := 30
  evidenceHash : Option String := none
  reviewedBy : Option Id := none
  reviewNotes : Option String := none
  reviewedAt : Option Date := none
deriving DecidableEq

instance : Keyed ReturnRequest := ⟨ReturnRequest.id⟩

/-! ### Milestones -/

inductive MilestoneStatus where
  | pending
  | approved
  | released
  | rejected
  | disputed
  | cancelled
deriving DecidableEq

inductive MilestoneType where
  | materials
  | production
  | shipping
  | delivery
  | finalInspection
  | custom
deriving DecidableEq

inductive MilestoneTrigger where
  | automatic
  | manual
  | trackingUpdate
  | deliveryConfirmation
  | adminApproval
deriving DecidableEq

/-- An entry of the `uploadedDocuments` column. -/
structure UploadedDocument where
  id : String
  name : String
  url : String
  uploadedAt : Date
deriving DecidableEq

/-- The `disputeDetails` column. -/
structure MilestoneDispute where
  reason : String
  description : String
  evidence : List String
  raisedBy : String
  raisedAt : Date
deriving DecidableEq

/-- A row of `milestones`. -/
structure Milestone where
  id : Id
  orderId : Id
  title : String
  description : String
  amount : Amount
  percentage : Amount
  status : MilestoneStatus := .pending
  type : MilestoneType := .custom
  trigger : MilestoneTrigger := .manual
  autoRelease : Bool := false
  releaseAt : Option Date := none
  releasedAt : Option Date := none
  requiredDocuments : Option (List String) := none
  uploadedDocuments : Option (List UploadedDocument) := none
  releaseConditions : Option (List String) := none
  adminNotes : Option String := none
  rejectionReason : Option String := none
  disputeDetails : Option MilestoneDispute := none
  sortOrder : ℕ := 0
deriving DecidableEq

instance : Keyed Milestone := ⟨Milestone.id⟩

inductive TransactionStatus where
  | pending
  | completed
  | failed
  | cancelled
deriving DecidableEq

inductive TransactionType where
  | transfer
  | payment
  | refund
  | purchase
deriving DecidableEq

/-- The `metadata` column of the release of a milestone. -/
structure ReleaseMetadata where
  milestoneId : Id
  orderId : Id
  milestoneTitle : String
  releaseType : String
deriving DecidableEq

/-- A row of `transactions`. -/
structure Commerce.Transaction where
  amount : Amount
  description : String
  senderId : Id
  receiverId : Id
  type : TransactionType := .transfer
  status : TransactionStatus := .pending
  metadata : Option ReleaseMetadata := none
deriving DecidableEq

end MarketX
