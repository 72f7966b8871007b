/-
Module: MarketX.Commerce.CouponsService
Purpose: The coupons service (`coupons/coupons.service.ts`): the validation of
  a coupon for an order, the record of its use, creation and update.
Trusted boundary: human-reviewed model of the source
Main exports: ApplyCouponDto, ApplyCouponResponse, Coupon.calculateDiscount, Field
-/
import Mathlib.Data.Rat.Floor
import MarketX.Commerce.World
import MarketX.Numerals.Rounding

namespace MarketX

/-- `calculateDiscount` of the entity.  A cap of zero counts as none. -/
def Coupon.calculateDiscount (coupon : Coupon) (orderAmount : Amount) :
    Amount :=
  let discount :=
    match coupon.discountType with
    | .percentage => orderAmount * coupon.discountValue / 100
    | .fixedAmount => coupon.discountValue
  let capped :=
    match coupon.restrictions.bind CouponRestriction.maximumDiscountAmount with
    | none => discount
    | some most => if most ≠ 0 ∧ discount > most then most else discount
  min capped orderAmount

end MarketX

namespace MarketX.Commerce

open Effects

/-- The DTO admits no negative subtotal (`@Min(0)`), which nothing below
depends on. -/
structure OrderItemForCouponDto where
  productId : Id
  categoryId : Option Id := none
  quantity : Amount
  price : Amount
  subtotal : Amount
deriving DecidableEq

structure ApplyCouponDto where
  code : String
  userId : Id
  items : List OrderItemForCouponDto
  subtotal : Option Amount := none
  currency : Option String := none
deriving DecidableEq

/-- `ApplyCouponResponseDto`: a message, or what the coupon gives. -/
structure ApplyCouponResponse where
  valid : Bool
  couponId : Option Id := none
  code : Option String := none
  discountAmount : Option Amount := none
  newTotal : Option Amount := none
  message : Option String := none
  appliedRestrictions : List String := []
deriving DecidableEq

namespace CouponsService

def calculateSubtotal (items : List OrderItemForCouponDto) : Amount :=
  (items.map OrderItemForCouponDto.subtotal).sum

/-- `subtotal || this.calculateSubtotal(items)`. -/
def orderSubtotal (items : List OrderItemForCouponDto) (subtotal : Option Amount) : Amount :=
  (subtotal.filter (· ≠ 0)).getD (calculateSubtotal items)

/-- A list of a restriction that is there and not empty. -/
def listed (ids : Option (List Id)) : Option (List Id) := ids.filter (!·.isEmpty)

def isApplicable (restrictions : CouponRestriction) (item : OrderItemForCouponDto) : Bool :=
  let excludedProduct := (listed restrictions.excludedProductIds).any
    fun ids => ids.contains item.productId
  let excludedCategory := (listed restrictions.excludedCategoryIds).any
    fun ids => item.categoryId.any ids.contains
  let includedProduct := (listed restrictions.productIds).all fun ids => ids.contains item.productId
  let includedCategory := (listed restrictions.categoryIds).all
    fun ids => item.categoryId.any ids.contains
  !excludedProduct && !excludedCategory && includedProduct && includedCategory

def getApplicableItems (coupon : Coupon)
    (items : List OrderItemForCouponDto) : List OrderItemForCouponDto :=
  match coupon.restrictions with
  | none => items
  | some restrictions => items.filter (isApplicable restrictions)

def getAppliedRestrictions (coupon : Coupon) : List String :=
  match coupon.restrictions with
  | none => []
  | some r =>
    ((r.minimumOrderAmount.filter (· ≠ 0)).map
        fun amount => s!"Minimum order amount: {amount}").toList ++
      ((r.maximumDiscountAmount.filter (· ≠ 0)).map
        fun amount => s!"Maximum discount: {amount}").toList ++ ((listed r.productIds).map
        fun _ => "Valid for specific products only").toList ++ ((listed r.categoryIds).map
        fun _ => "Valid for specific categories only").toList ++
      (if r.newCustomersOnly = some true then ["New customers only"]
        else []) ++
      if r.firstOrderOnly = some true then ["First order only"] else []

/-- The checks that need no further call: the message of the one that
fails. -/
def checkUsable (coupon : Coupon) (now : Date) : Option String :=
  if coupon.status ≠ .active then some s!"Coupon is {coupon.status}"
  else if coupon.startDate.any (now < ·) then
    some "Coupon is not yet valid"
  else if coupon.endDate.any (· < now) then some "Coupon has expired"
  else if coupon.totalUsageLimit > 0 ∧ coupon.currentUsageCount ≥ coupon.totalUsageLimit then
    some "Coupon usage limit has been reached"
  else none

def checkOrder (coupon : Coupon) (items : List OrderItemForCouponDto)
    (subtotal : Option Amount) : Option String :=
  match (coupon.restrictions.bind CouponRestriction.minimumOrderAmount).filter
        fun amount => amount ≠ 0 ∧ orderSubtotal items subtotal < amount with
  | some amount => some s!"Minimum order amount of {amount} required"
  | none =>
    if (getApplicableItems coupon items).length = 0 then
      some "Coupon is not applicable to any items in your cart"
    else none

/-- The message of the check that fails.  The discount that the validation
computes of the applicable items is not used by its caller. -/
def validateCoupon (coupon : Coupon) (userId : Id)
    (items : List OrderItemForCouponDto) (subtotal : Option Amount) :
    Service (Option String) := do
  let now ← dateNow
  match checkUsable coupon now with
  | some message => pure (some message)
  | none =>
    if coupon.perUserLimit > 0 then
      let userUsageCount ← couponUsageRepository.count coupon.id userId
      if userUsageCount ≥ coupon.perUserLimit then
        pure (some ("You have already used this coupon the maximum number of " ++
            s!"times ({coupon.perUserLimit})"))
      else pure (checkOrder coupon items subtotal)
    else pure (checkOrder coupon items subtotal)

/-- What a valid coupon is answered with. -/
def accepted (coupon : Coupon) (applyCouponDto : ApplyCouponDto) :
    ApplyCouponResponse :=
  let orderSubtotal := orderSubtotal applyCouponDto.items applyCouponDto.subtotal
  let discountAmount := coupon.calculateDiscount orderSubtotal
  { valid := true
    couponId := some coupon.id
    code := some coupon.code
    discountAmount := some discountAmount
    newTotal := some (orderSubtotal - discountAmount)
    appliedRestrictions := getAppliedRestrictions coupon }

section

-- `toUpperCase()` of the runtime
variable (toUpperCase : String → String)

def validateAndApplyCoupon (applyCouponDto : ApplyCouponDto) :
    Service ApplyCouponResponse := do
  match ← couponRepository.findOne (toUpperCase applyCouponDto.code) with
  | none => pure { valid := false, message := some "Invalid coupon code" }
  | some coupon =>
    match ← validateCoupon coupon applyCouponDto.userId
        applyCouponDto.items applyCouponDto.subtotal with
    | some message => pure { valid := false, message := some message }
    | none => pure (accepted coupon applyCouponDto)

end

def applyCouponToOrder (couponId orderId userId : Id)
    (orderAmount discountAmount : Amount) (currency : String) :
    Service Unit := do
  couponUsageRepository.insert { couponId, orderId, userId, orderAmount, discountAmount, currency }
  couponRepository.increment couponId

end CouponsService

/-- A caller at a checkout: it has a coupon validated, and records its use if
the answer is valid. -/
structure CouponCall where
  dto : ApplyCouponDto
  orderId : Id
  orderAmount : Amount
  currency : String
deriving DecidableEq

def CouponCall.program (toUpperCase : String → String) (call : CouponCall) :
    Service Unit := do
  let answer ← CouponsService.validateAndApplyCoupon toUpperCase call.dto
  match answer.valid, answer.couponId with
  | true, some couponId =>
    CouponsService.applyCouponToOrder couponId call.orderId
      call.dto.userId call.orderAmount (answer.discountAmount.getD 0) call.currency
  | _, _ => pure ()

open Effects Numerals

/-! ### Columns -/

/-- A field of a partial update: it may be left out, and it may be null. -/
inductive Field (α : Type) where
  | absent
  | null
  | given (value : α)
deriving DecidableEq

namespace Field

variable {α : Type}

def toOption : Field α → Option α
  | .absent | .null => none
  | .given value => some value

/-- What is stored in a column that may be null. -/
def nullable (stored : Option α) : Field α → Option α
  | .absent => stored
  | .null => none
  | .given value => some value

/-- What is stored in a column that may not be null, if it takes the value. -/
def required {β : Type} (stored : β) (column : α → Option β) :
    Field α → Option β
  | .absent => some stored
  | .null => none
  | .given value => column value

end Field

/-- A column of type `decimal(10, 2)`: two digits are kept. -/
def decimalColumn (value : Amount) : Option Amount :=
  let hundredths := roundAway (value * 100)
  if |hundredths| < 10 ^ 10 then some (hundredths / 100) else none

/-- A column of type `int`, for numbers that are not negative. -/
def intColumn (value : Amount) : Option ℕ :=
  if value.den = 1 ∧ 0 ≤ value.num ∧ value.num < 2 ^ 31 then
    some value.num.toNat
  else none

def varcharColumn (length : ℕ) (value : String) : Option String :=
  if value.length ≤ length then some value else none

/-- What the database answers to a row that its columns do not take. -/
def columnError : HttpException := .error "QueryFailedError"

/-! ### The requests -/

structure CreateCouponDto where
  code : String
  name : String
  description : Option String := none
  discountType : DiscountType
  discountValue : Amount
  status : Option CouponStatus := none
  startDate : Option Date := none
  endDate : Option Date := none
  totalUsageLimit : Field Amount := .absent
  perUserLimit : Field Amount := .absent
  restrictions : Option CouponRestriction := none
deriving DecidableEq

structure UpdateCouponDto where
  name : Field String := .absent
  description : Field String := .absent
  status : Field CouponStatus := .absent
  startDate : Field Date := .absent
  endDate : Field Date := .absent
  totalUsageLimit : Field Amount := .absent
  perUserLimit : Field Amount := .absent
  restrictions : Field CouponRestriction := .absent
deriving DecidableEq

/-- `@Min(0)` on an optional field. -/
def nonnegative (value : Option Amount) : Bool := value.all (0 ≤ ·)

/-- `@Length(1, 255)`. -/
def nameLength (name : String) : Bool := 1 ≤ name.length ∧ name.length ≤ 255

def restrictionAdmitted (restriction : CouponRestriction) : Bool :=
  nonnegative restriction.minimumOrderAmount && nonnegative restriction.maximumDiscountAmount

/-- The validation of the request body. -/
def CreateCouponDto.admitted (dto : CreateCouponDto) : Bool :=
  (3 ≤ dto.code.length ∧ dto.code.length ≤ 50) && nameLength dto.name && 0 ≤ dto.discountValue &&
    nonnegative dto.totalUsageLimit.toOption && nonnegative dto.perUserLimit.toOption &&
    dto.restrictions.all restrictionAdmitted

def UpdateCouponDto.admitted (dto : UpdateCouponDto) : Bool := dto.name.toOption.all nameLength &&
    nonnegative dto.totalUsageLimit.toOption && nonnegative dto.perUserLimit.toOption &&
    dto.restrictions.toOption.all restrictionAdmitted

namespace CouponsService

/-- Both dates are given and the start is after the end. -/
def disordered (startDate endDate : Option Date) : Bool :=
  startDate.any fun start => endDate.any fun stop => start > stop

/-- The entity that `create` makes, as it is stored. -/
def createdRow (toUpperCase : String → String) (dto : CreateCouponDto) :
    Option Coupon := do
  let code ← varcharColumn 50 (toUpperCase dto.code)
  let name ← varcharColumn 255 dto.name
  let discountValue ← decimalColumn dto.discountValue
  let totalUsageLimit ← dto.totalUsageLimit.required 0 intColumn
  let perUserLimit ← dto.perUserLimit.required 0 intColumn
  some
    { id := 0
      code
      name
      description := dto.description
      discountType := dto.discountType
      discountValue
      status := dto.status.getD .active
      startDate := dto.startDate
      endDate := dto.endDate
      totalUsageLimit
      perUserLimit
      currentUsageCount := 0
      restrictions := dto.restrictions }

/-- The entity after `Object.assign`, as it is stored: fields that the request
leaves out are not written. -/
def assignedRow (coupon : Coupon) (dto : UpdateCouponDto) : Option Coupon := do
  let name ← dto.name.required coupon.name (varcharColumn 255)
  let status ← dto.status.required coupon.status some
  let totalUsageLimit ←
    dto.totalUsageLimit.required coupon.totalUsageLimit intColumn
  let perUserLimit ← dto.perUserLimit.required coupon.perUserLimit intColumn
  some
    { coupon with
      name
      description := dto.description.nullable coupon.description
      status
      startDate := dto.startDate.nullable coupon.startDate
      endDate := dto.endDate.nullable coupon.endDate
      totalUsageLimit
      perUserLimit
      restrictions := dto.restrictions.nullable coupon.restrictions }

-- `toUpperCase()` of the runtime
variable (toUpperCase : String → String)

/-- Without the answer, which repeats the entity. -/
def create (dto : CreateCouponDto) : Service Unit := do
  match ← couponRepository.findOne (toUpperCase dto.code) with
  | some _ =>
    -- a `ConflictException`
    throw (.error s!"Coupon with code '{dto.code}' already exists")
  | none =>
    if dto.discountType = .percentage ∧ dto.discountValue > 100 then
      throw (.badRequest "Percentage discount cannot exceed 100%")
    if disordered dto.startDate dto.endDate then
      throw (.badRequest "Start date cannot be after end date")
    match createdRow toUpperCase dto with
    | none => throw columnError
    | some coupon =>
      let _ ← couponsRepository.insert coupon
      pure ()

/-- Without the answer, which repeats the entity.  The dates are compared when
the request has both. -/
def update (id : Id) (dto : UpdateCouponDto) : Service Unit := do
  match ← couponRepository.findById id with
  | none => throw (.notFound s!"Coupon with ID '{id}' not found")
  | some coupon =>
    if disordered dto.startDate.toOption dto.endDate.toOption then
      throw (.badRequest "Start date cannot be after end date")
    match assignedRow coupon dto with
    | none => throw columnError
    | some coupon => couponRepository.save coupon

end CouponsService

/-! ### Runs -/

/-- A request to the coupons controller that writes a coupon. -/
inductive CouponEdit where
  | create (dto : CreateCouponDto)
  | update (id : Id) (dto : UpdateCouponDto)
deriving DecidableEq

def CouponEdit.admitted : CouponEdit → Bool
  | .create dto => dto.admitted
  | .update _ dto => dto.admitted

def CouponEdit.program (toUpperCase : String → String) :
    CouponEdit → Service Unit
  | .create dto => CouponsService.create toUpperCase dto
  | .update id dto => CouponsService.update id dto

/-- A request, and which of its calls throw what. -/
structure EditRequest where
  edit : CouponEdit
  faults : List Fault := []

/-- A request that does not pass the validation is not handled. -/
def editCoupon (toUpperCase : String → String) (world : World) (request : EditRequest) : World :=
  if request.edit.admitted then
    (commerce.exec (request.edit.program toUpperCase) request.faults world).2
  else world

end MarketX.Commerce
