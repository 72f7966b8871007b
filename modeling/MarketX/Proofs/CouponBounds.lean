/-
Module: MarketX.Proofs.CouponBounds
Purpose: What a coupon takes off an amount, what a valid answer of the coupons
  service quotes, and which requests break the bounds of a discount.
Trusted boundary: none beyond the model; the definitions under review are
  Exhausts, Quotes, OnApplicableItems, reported, Enforced, WithinBounds and Keeps
Main exports: discount_on_applicable_iff, restrictions_enforced_iff, coupons_bounded_iff
-/
import MarketX.Effects.Schedules
import MarketX.Proofs.CouponRace

namespace MarketX.Commerce

open Effects Handler CouponsService

/-! ### Limits -/

section

variable {α : Type} [LinearOrder α]

def limited (limit : Option α) (value : α) : α := limit.elim value (min · value)

theorem limited_le (limit : Option α) (value : α) :
    limited limit value ≤ value := by
  cases limit with
  | none => exact le_rfl
  | some most => exact min_le_right most value

theorem limited_le_limit {limit : Option α} {most : α} (set : most ∈ limit)
    (value : α) : limited limit value ≤ most := by
  cases set
  exact min_le_left most value

theorem limited_min (limit : Option α) (value bound : α) :
    min (limited limit value) bound = limited limit (min value bound) := by
  cases limit with
  | none => rfl
  | some most => exact min_assoc most value bound

theorem min_le_min_same_iff (most first second : α) :
    min most first ≤ min most second ↔ first ≤ second ∨ most ≤ second := by grind

theorem limited_le_limited_iff (limit : Option α) (first second : α) :
    limited limit first ≤ limited limit second ↔
      first ≤ second ∨ ∃ most ∈ limit, most ≤ second := by
  cases limit with
  | none => simp [limited]
  | some most =>
    simp only [Option.mem_some_iff, exists_eq_left']
    exact min_le_min_same_iff most first second

end

/-! ### The discount of an amount -/

/-- The cap on a discount.  One of zero counts as none. -/
def maximumDiscount (coupon : Coupon) : Option Amount :=
  (coupon.restrictions.bind CouponRestriction.maximumDiscountAmount).filter (· ≠ 0)

def uncappedDiscount (coupon : Coupon) (amount : Amount) : Amount := min
    (match coupon.discountType with
      | .percentage => amount * coupon.discountValue / 100
      | .fixedAmount => coupon.discountValue)
    amount

/-- No larger amount brings a larger discount: the fixed amount or the cap is
reached, or nothing is taken off. -/
def Exhausts (coupon : Coupon) (amount : Amount) : Prop :=
  (match coupon.discountType with
    | .percentage => coupon.discountValue = 0 ∧ 0 ≤ amount
    | .fixedAmount => coupon.discountValue ≤ amount) ∨
  ∃ most ∈ maximumDiscount coupon, most ≤ uncappedDiscount coupon amount

theorem capped_eq (cap : Option Amount) (discount : Amount) :
    (match cap with
      | none => discount
      | some most => if most ≠ 0 ∧ discount > most then most else discount) =
      limited (cap.filter (· ≠ 0)) discount := by
  cases cap with
  | none => rfl
  | some most =>
    by_cases zero : most = 0
    · rw [Option.filter_some_neg (by simpa using zero)]
      exact if_neg fun above => above.1 zero
    · rw [Option.filter_some_pos (by simpa using zero)]
      show ite _ _ _ = min most discount
      grind

theorem calculateDiscount_eq (coupon : Coupon) (amount : Amount) :
    coupon.calculateDiscount amount =
      limited (maximumDiscount coupon) (uncappedDiscount coupon amount) := by
  unfold Coupon.calculateDiscount maximumDiscount uncappedDiscount
  rw [← limited_min]
  exact congrArg (min · amount) (capped_eq _ _)

section

variable {coupon : Coupon} (nonneg : 0 ≤ coupon.discountValue)

include nonneg

theorem uncappedDiscount_le_iff (first second : Amount) :
    uncappedDiscount coupon first ≤ uncappedDiscount coupon second ↔ first ≤ second ∨
        match coupon.discountType with
        | .percentage => coupon.discountValue = 0 ∧ 0 ≤ second
        | .fixedAmount => coupon.discountValue ≤ second := by
  unfold uncappedDiscount
  cases coupon.discountType with
  | fixedAmount => exact min_le_min_same_iff _ _ _
  | percentage =>
    obtain none | some := nonneg.eq_or_lt
    · simp only [← none, mul_zero, zero_div, min_le_min_same_iff, true_and]
    · simp only [some.ne', false_and, or_false]
      constructor
      · intro under
        by_contra above
        have more : second * coupon.discountValue / 100 < first * coupon.discountValue / 100 := by
          grind [mul_lt_mul_of_pos_right]
        exact absurd under (not_le.mpr (min_lt_min more (not_le.mp above)))
      · grind [mul_le_mul_of_nonneg_right, min_le_min]

/-- A larger amount brings no smaller discount; and a smaller amount one as
large only where the coupon is exhausted. -/
theorem calculateDiscount_le_iff (first second : Amount) :
    coupon.calculateDiscount first ≤ coupon.calculateDiscount second ↔
      first ≤ second ∨ Exhausts coupon second := by
  rw [calculateDiscount_eq, calculateDiscount_eq, limited_le_limited_iff,
    uncappedDiscount_le_iff nonneg, or_assoc]
  rfl

theorem Exhausts.mono {first second : Amount} (under : first ≤ second)
    (exhausted : Exhausts coupon first) : Exhausts coupon second := by
  grind [Exhausts, le_trans, uncappedDiscount_le_iff]

/-- Two amounts bring the same discount iff they are equal or both exhaust the
coupon. -/
theorem calculateDiscount_eq_iff (first second : Amount) :
    coupon.calculateDiscount first = coupon.calculateDiscount second ↔
      first = second ∨ Exhausts coupon first ∧ Exhausts coupon second := by
  rw [le_antisymm_iff, calculateDiscount_le_iff nonneg,
    calculateDiscount_le_iff nonneg, le_antisymm_iff]
  constructor
  · rintro ⟨under | second, above | first⟩
    · exact .inl ⟨under, above⟩
    · exact .inr ⟨first, first.mono nonneg under⟩
    · exact .inr ⟨second.mono nonneg above, second⟩
    · exact .inr ⟨first, second⟩
  · grind

end

/-! ### A valid answer -/

section

variable (toUpperCase : String → String)

/-- Asked in this world, the service may answer that the coupon it finds is
valid. -/
structure Quotes (world : World) (coupon : Coupon) (dto : ApplyCouponDto)
    (answer : ApplyCouponResponse) : Prop where
  found : couponWith (toUpperCase dto.code) world = some coupon
  answered : ∃ faults, (commerce.exec (validateAndApplyCoupon toUpperCase dto) faults world).1 =
      .ok answer
  valid : answer.valid = true

variable {toUpperCase}

theorem wp_validateCoupon {coupon : Coupon} {userId : Id}
    {items : List OrderItemForCouponDto} {subtotal : Option Amount} {world : World} :
    commerce.wp (validateCoupon coupon userId items subtotal) (fun outcome _ => outcome = .ok none →
        checkOrder coupon items subtotal = none) world := by
  rw [← commerce.shield_none]
  apply wp_total_bind .dateNow rfl
  cases checkUsable coupon (act .dateNow world).1 with
  | some message => exact fun same => nomatch same
  | none =>
    have checked : (commerce.shield noneSpared).wp
        (pure (checkOrder coupon items subtotal) : Service (Option String))
        (fun outcome _ => outcome = .ok none → checkOrder coupon items subtotal = none) world :=
      fun same => Except.ok.inj same
    show (commerce.shield noneSpared).wp (if coupon.perUserLimit > 0 then _ else _) _ _
    split
    · apply wp_await_bind
      · simp
      · exact fun _ _ same => nomatch same
    · exact checked

theorem Quotes.spec {world : World} {coupon : Coupon} {dto : ApplyCouponDto}
    {answer : ApplyCouponResponse} (quotes : Quotes toUpperCase world coupon dto answer) :
    answer = accepted coupon dto ∧ checkOrder coupon dto.items dto.subtotal = none := by
  have spec : commerce.wp (validateAndApplyCoupon toUpperCase dto)
      (fun outcome _ => ∀ given, outcome = .ok given → given.valid = true →
        given = accepted coupon dto ∧ checkOrder coupon dto.items dto.subtotal = none) world := by
    rw [← commerce.shield_none]
    apply wp_await_bind
    · have found := quotes.found
      unfold couponWith at found
      simp only [act, found]
      rw [wp_bind]
      rw [commerce.shield_none]
      apply wp_mono _ wp_validateCoupon
      intro outcome after passes
      rcases outcome with error | _ | message
      · rintro given ⟨⟩
      · rintro given ⟨⟩ _
        exact ⟨rfl, passes rfl⟩
      · rintro given ⟨⟩ valid
        cases valid
    · rintro _ _ _ ⟨⟩
  obtain ⟨faults, answered⟩ := quotes.answered
  exact wp_sound (H := commerce) spec faults answer answered quotes.valid

end

/-! ### The discount on the applicable items -/

def applicableSubtotal (coupon : Coupon) (dto : ApplyCouponDto) : Amount :=
  calculateSubtotal (getApplicableItems coupon dto.items)

/-- The answer quotes the discount on the items that the coupon applies to. -/
structure OnApplicableItems (coupon : Coupon) (dto : ApplyCouponDto)
    (answer : ApplyCouponResponse) : Prop where
  discount : answer.discountAmount = some (coupon.calculateDiscount (applicableSubtotal coupon dto))
  total : answer.newTotal = some (orderSubtotal dto.items dto.subtotal -
    coupon.calculateDiscount (applicableSubtotal coupon dto))

/-- The order goes by the subtotal of the applicable items, or by one that,
like theirs, brings all that the coupon can give. -/
def SameBase (coupon : Coupon) (dto : ApplyCouponDto) : Prop :=
  orderSubtotal dto.items dto.subtotal = applicableSubtotal coupon dto ∨
    Exhausts coupon (orderSubtotal dto.items dto.subtotal) ∧
      Exhausts coupon (applicableSubtotal coupon dto)

variable {coupon : Coupon} {dto : ApplyCouponDto} {amount : Amount}

theorem accepted_onApplicableItems_iff (nonneg : 0 ≤ coupon.discountValue) :
    OnApplicableItems coupon dto (accepted coupon dto) ↔
      SameBase coupon dto := by
  rw [SameBase, ← calculateDiscount_eq_iff nonneg]
  constructor
  · exact fun quoted => Option.some.inj quoted.discount
  · intro same
    refine ⟨congrArg some same, ?_⟩
    show some (_ - coupon.calculateDiscount (orderSubtotal _ _)) = _
    rw [same]

/-- A valid answer quotes the discount on the applicable items iff the order's
subtotal is as good as theirs; and two answers that do quote one discount if
their carts have the same applicable items, whatever else lies in them. -/
theorem discount_on_applicable_iff {toUpperCase : String → String}
    {world : World} {coupon : Coupon} {dto : ApplyCouponDto}
    {answer : ApplyCouponResponse} (nonneg : 0 ≤ coupon.discountValue)
    (quotes : Quotes toUpperCase world coupon dto answer) :
    (OnApplicableItems coupon dto answer ↔ SameBase coupon dto) ∧ ∀ later other otherAnswer,
        Quotes toUpperCase later coupon other otherAnswer → getApplicableItems coupon other.items =
          getApplicableItems coupon dto.items → SameBase coupon dto → SameBase coupon other →
          otherAnswer.discountAmount = answer.discountAmount := by
  obtain ⟨rfl, _⟩ := quotes.spec
  refine ⟨accepted_onApplicableItems_iff nonneg, ?_⟩
  intro later other otherAnswer quotesOther sameItems based basedOther
  obtain ⟨rfl, _⟩ := quotesOther.spec
  have first := (accepted_onApplicableItems_iff nonneg).mpr based
  have second := (accepted_onApplicableItems_iff nonneg).mpr basedOther
  rw [first.discount, second.discount, applicableSubtotal, sameItems]
  rfl

/-- Ten percent off lamps, and a shop with this coupon in which the user 8 has
bought before. -/
def tenPercentOffLamps : Coupon where
  id := 0
  code := "LAMPS"
  name := "Lamps"
  discountValue := 10
  restrictions := some { productIds := some [0], newCustomersOnly := some true }

def lampSale : World :=
  (openShop.withCoupon tenPercentOffLamps).withCouponUsage
    { couponId := 3, userId := 8, orderId := 5, orderAmount := 30,
      discountAmount := 5, currency := "USD" }

def lampAt (price : Amount) : OrderItemForCouponDto :=
  { productId := 0, quantity := 1, price, subtotal := price }

def tableAt (price : Amount) : OrderItemForCouponDto :=
  { productId := 1, quantity := 1, price, subtotal := price }

/-- What is asked for a cart, by the user 7 or another. -/
def askedFor (items : List OrderItemForCouponDto) (userId : Id) :
    ApplyCouponDto :=
  { code := "LAMPS", userId, items }

theorem lampSale_quotes {items : List OrderItemForCouponDto} {userId : Id}
    (answered : (commerce.exec (validateAndApplyCoupon id (askedFor items userId)) [] lampSale).1 =
      .ok (accepted tenPercentOffLamps (askedFor items userId))) :
    Quotes id lampSale tenPercentOffLamps (askedFor items userId)
      (accepted tenPercentOffLamps (askedFor items userId)) :=
  ⟨rfl, ⟨[], answered⟩, rfl⟩

/-- A lamp alone is discounted as it should be. -/
theorem lamp_discounted :
    OnApplicableItems tenPercentOffLamps (askedFor [lampAt 50] 7)
      (accepted tenPercentOffLamps (askedFor [lampAt 50] 7)) :=
  (discount_on_applicable_iff (by decide)
    (lampSale_quotes (by decide +kernel))).1.mpr (.inl (by decide +kernel))

/-- A table in the cart brings ten more off, with a coupon for lamps. -/
theorem table_discounted :
    Quotes id lampSale tenPercentOffLamps (askedFor [lampAt 50, tableAt 100] 7)
        (accepted tenPercentOffLamps (askedFor [lampAt 50, tableAt 100] 7)) ∧
      (accepted tenPercentOffLamps (askedFor [lampAt 50, tableAt 100] 7)).discountAmount = some 15 ∧
      ¬ OnApplicableItems tenPercentOffLamps (askedFor [lampAt 50, tableAt 100] 7)
        (accepted tenPercentOffLamps (askedFor [lampAt 50, tableAt 100] 7)) := by
  refine ⟨lampSale_quotes (by decide +kernel), by decide +kernel, ?_⟩
  intro quoted
  exact absurd quoted.discount (by decide +kernel)

/-! ### The restrictions that an answer reports -/

/-- What `getAppliedRestrictions` reports of a coupon. -/
inductive AppliedRestriction where
  | minimumOrderAmount (amount : Amount)
  | maximumDiscountAmount (amount : Amount)
  | products
  | categories
  | newCustomersOnly
  | firstOrderOnly
deriving DecidableEq

def AppliedRestriction.text : AppliedRestriction → String
  | .minimumOrderAmount amount => s!"Minimum order amount: {amount}"
  | .maximumDiscountAmount amount => s!"Maximum discount: {amount}"
  | .products => "Valid for specific products only"
  | .categories => "Valid for specific categories only"
  | .newCustomersOnly => "New customers only"
  | .firstOrderOnly => "First order only"

section

variable (coupon : Coupon)

def minimumOrder : Option Amount :=
  (coupon.restrictions.bind CouponRestriction.minimumOrderAmount).filter (· ≠ 0)

def listedProducts : Option (List Id) :=
  listed (coupon.restrictions.bind CouponRestriction.productIds)

def listedCategories : Option (List Id) :=
  listed (coupon.restrictions.bind CouponRestriction.categoryIds)

def forNewCustomers : Bool :=
  coupon.restrictions.bind CouponRestriction.newCustomersOnly = some true

def forFirstOrder : Bool := coupon.restrictions.bind CouponRestriction.firstOrderOnly = some true

/-- The restrictions behind the reported texts. -/
def reported : List AppliedRestriction :=
  ((minimumOrder coupon).map .minimumOrderAmount).toList ++
    ((maximumDiscount coupon).map .maximumDiscountAmount).toList ++
    ((listedProducts coupon).map fun _ => .products).toList ++
    ((listedCategories coupon).map fun _ => .categories).toList ++
    (if forNewCustomers coupon then [.newCustomersOnly] else []) ++
    if forFirstOrder coupon then [.firstOrderOnly] else []

/-- The item is on the lists of products and of categories that are there. -/
def onLists (item : OrderItemForCouponDto) : Bool :=
  (listedProducts coupon).all (·.contains item.productId) &&
    (listedCategories coupon).all fun ids => item.categoryId.any ids.contains

def listedSubtotal (dto : ApplyCouponDto) : Amount :=
  calculateSubtotal (dto.items.filter (onLists coupon))

end

theorem getAppliedRestrictions_eq (coupon : Coupon) :
    getAppliedRestrictions coupon = (reported coupon).map AppliedRestriction.text := by
  unfold getAppliedRestrictions reported minimumOrder maximumDiscount
    listedProducts listedCategories forNewCustomers forFirstOrder
  cases coupon.restrictions with
  | none => rfl
  | some restrictions =>
    simp only [List.map_append, Option.bind_some, Option.toList_map,
      List.map_map, decide_eq_true_eq, apply_ite (List.map _)]
    rfl

def Reports (coupon : Coupon) : AppliedRestriction → Prop
  | .minimumOrderAmount amount => amount ∈ minimumOrder coupon
  | .maximumDiscountAmount amount => amount ∈ maximumDiscount coupon
  | .products => (listedProducts coupon).isSome
  | .categories => (listedCategories coupon).isSome
  | .newCustomersOnly => forNewCustomers coupon = true
  | .firstOrderOnly => forFirstOrder coupon = true

theorem mem_reported_iff {restriction : AppliedRestriction} :
    restriction ∈ reported coupon ↔ Reports coupon restriction := by
  unfold reported
  cases restriction <;> simp [Reports, Option.isSome_iff_exists]

/-- The user has ordered before, or has used a coupon. -/
def boughtBefore (world : World) (userId : Id) : Bool :=
  world.db.orders.rows.any (fun order => order.buyerId = userId) ||
    world.db.couponUsages.any fun usage => usage.userId = userId

/-- What a restriction says of an answer. -/
def Enforced (world : World) (coupon : Coupon) (dto : ApplyCouponDto)
    (answer : ApplyCouponResponse) : AppliedRestriction → Prop
  | .minimumOrderAmount amount =>
    ∃ discount ∈ answer.discountAmount, ∃ total ∈ answer.newTotal, amount ≤ total + discount
  | .maximumDiscountAmount amount => ∃ discount ∈ answer.discountAmount, discount ≤ amount
  | .products | .categories =>
    ∃ discount ∈ answer.discountAmount,
      discount ≤ coupon.calculateDiscount (listedSubtotal coupon dto)
  | .newCustomersOnly | .firstOrderOnly => boughtBefore world dto.userId = false

/-- Where there is a list, the order goes by no more than what is on it, or
what is on it exhausts the coupon. -/
def WithinLists (coupon : Coupon) (dto : ApplyCouponDto) : Prop :=
  (listedProducts coupon).isSome ∨ (listedCategories coupon).isSome →
    orderSubtotal dto.items dto.subtotal ≤ listedSubtotal coupon dto ∨
      Exhausts coupon (listedSubtotal coupon dto)

/-- A coupon for newcomers is asked for by one. -/
def FirstTime (world : World) (coupon : Coupon) (dto : ApplyCouponDto) :
    Prop :=
  forNewCustomers coupon = true ∨ forFirstOrder coupon = true →
    boughtBefore world dto.userId = false

theorem minimum_enforced
    (passed : checkOrder coupon dto.items dto.subtotal = none)
    (least : amount ∈ minimumOrder coupon) :
    amount ≤ orderSubtotal dto.items dto.subtotal := by
  by_contra below
  simp_all [minimumOrder, checkOrder, Option.filter_some_pos]

theorem maximum_enforced (most : amount ∈ maximumDiscount coupon) (orderAmount : Amount) :
    coupon.calculateDiscount orderAmount ≤ amount := by
  rw [calculateDiscount_eq]
  exact limited_le_limit most _

/-- Every restriction that a valid answer reports was enforced iff the lists
that are there hold for what the order goes by, and a coupon for newcomers is
asked for by one. -/
theorem restrictions_enforced_iff {toUpperCase : String → String}
    {world : World} {coupon : Coupon} {dto : ApplyCouponDto}
    {answer : ApplyCouponResponse} (nonneg : 0 ≤ coupon.discountValue)
    (quotes : Quotes toUpperCase world coupon dto answer) :
    answer.appliedRestrictions = (reported coupon).map AppliedRestriction.text ∧
      ((∀ restriction ∈ reported coupon, Enforced world coupon dto answer restriction) ↔
        WithinLists coupon dto ∧ FirstTime world coupon dto) := by
  obtain ⟨rfl, passed⟩ := quotes.spec
  refine ⟨getAppliedRestrictions_eq coupon, ?_⟩
  simp only [mem_reported_iff]
  constructor
  · intro enforced
    refine ⟨fun listed => ?_, fun newcomer => ?_⟩
    · rw [← calculateDiscount_le_iff nonneg]
      rcases listed with products | categories
      · obtain ⟨discount, ⟨⟩, within⟩ := enforced .products products
        exact within
      · obtain ⟨discount, ⟨⟩, within⟩ := enforced .categories categories
        exact within
    · rcases newcomer with customer | order
      · exact enforced .newCustomersOnly customer
      · exact enforced .firstOrderOnly order
  · rintro ⟨lists, first⟩ restriction reports
    have within : (listedProducts coupon).isSome ∨ (listedCategories coupon).isSome →
        coupon.calculateDiscount (orderSubtotal dto.items dto.subtotal) ≤
          coupon.calculateDiscount (listedSubtotal coupon dto) :=
      fun listed => (calculateDiscount_le_iff nonneg _ _).mpr (lists listed)
    cases restriction with
    | minimumOrderAmount amount =>
      refine ⟨_, rfl, _, rfl, ?_⟩
      rw [sub_add_cancel]
      exact minimum_enforced passed reports
    | maximumDiscountAmount amount => exact ⟨_, rfl, maximum_enforced reports _⟩
    | products => exact ⟨_, rfl, within (.inl reports)⟩
    | categories => exact ⟨_, rfl, within (.inr reports)⟩
    | newCustomersOnly => exact first (.inl reports)
    | firstOrderOnly => exact first (.inr reports)

/-- To a newcomer who buys a lamp, the two restrictions of the coupon are
enforced. -/
theorem lamp_enforced :
    Enforced lampSale tenPercentOffLamps (askedFor [lampAt 50] 7)
        (accepted tenPercentOffLamps (askedFor [lampAt 50] 7)) .products ∧
      Enforced lampSale tenPercentOffLamps (askedFor [lampAt 50] 7)
        (accepted tenPercentOffLamps (askedFor [lampAt 50] 7))
        .newCustomersOnly := by
  have quotes : Quotes id lampSale tenPercentOffLamps (askedFor [lampAt 50] 7)
      (accepted tenPercentOffLamps (askedFor [lampAt 50] 7)) := lampSale_quotes (by decide +kernel)
  have enforced := (restrictions_enforced_iff (by decide) quotes).2.mpr
    ⟨fun _ => .inl (by decide +kernel), fun _ => by decide +kernel⟩
  exact ⟨enforced .products (by decide), enforced .newCustomersOnly (by decide)⟩

/-- The coupon for new customers is valid for one who has bought before; and
the coupon for lamps brings as much off a table. -/
theorem reported_not_enforced :
    (Quotes id lampSale tenPercentOffLamps (askedFor [lampAt 50] 8)
        (accepted tenPercentOffLamps (askedFor [lampAt 50] 8)) ∧
      .newCustomersOnly ∈ reported tenPercentOffLamps ∧
      ¬ Enforced lampSale tenPercentOffLamps (askedFor [lampAt 50] 8)
        (accepted tenPercentOffLamps (askedFor [lampAt 50] 8)) .newCustomersOnly) ∧
    Quotes id lampSale tenPercentOffLamps (askedFor [lampAt 50, tableAt 100] 7)
        (accepted tenPercentOffLamps (askedFor [lampAt 50, tableAt 100] 7)) ∧
      .products ∈ reported tenPercentOffLamps ∧ ¬ Enforced lampSale tenPercentOffLamps
        (askedFor [lampAt 50, tableAt 100] 7)
        (accepted tenPercentOffLamps (askedFor [lampAt 50, tableAt 100] 7))
        .products := by
  refine ⟨⟨lampSale_quotes (by decide +kernel), by decide +kernel, ?_⟩,
    lampSale_quotes (by decide +kernel), by decide +kernel, ?_⟩
  · intro enforced
    have newcomer : boughtBefore lampSale 8 = false := enforced
    exact absurd newcomer (by decide)
  · rintro ⟨discount, ⟨⟩, within⟩
    exact absurd within (by decide +kernel)

open Effects Handler CouponsService Numerals

def discountCap (restrictions : Option CouponRestriction) : Option Amount :=
  restrictions.bind CouponRestriction.maximumDiscountAmount

/-- The bounds on what a coupon takes off, on its value, and on its
period. -/
structure WithinBounds (coupon : Coupon) : Prop where
  within : ∀ amount, 0 ≤ amount → 0 ≤ coupon.calculateDiscount amount ∧
      coupon.calculateDiscount amount ≤ amount
  monotone : ∀ first second, 0 ≤ first → first ≤ second →
    coupon.calculateDiscount first ≤ coupon.calculateDiscount second
  capped : ∀ most ∈ discountCap coupon.restrictions, ∀ amount, 0 ≤ amount →
    coupon.calculateDiscount amount ≤ most
  percentage : coupon.discountType = .percentage → coupon.discountValue ≤ 100
  ordered : ∀ start ∈ coupon.startDate, ∀ stop ∈ coupon.endDate, start ≤ stop

/-- What the validation and the checks of `create` ensure. -/
structure Checked (coupon : Coupon) : Prop where
  value : 0 ≤ coupon.discountValue
  percentage : coupon.discountType = .percentage → coupon.discountValue ≤ 100
  limit : ∀ most ∈ discountCap coupon.restrictions, 0 ≤ most

/-! ### One coupon -/

section

variable {coupon : Coupon}

theorem maximumDiscount_eq :
    maximumDiscount coupon = (discountCap coupon.restrictions).filter (· ≠ 0) := rfl

theorem uncappedDiscount_nonneg (value : 0 ≤ coupon.discountValue)
    {amount : Amount} (nonneg : 0 ≤ amount) :
    0 ≤ uncappedDiscount coupon amount := by
  refine le_min ?_ nonneg
  cases coupon.discountType with
  | percentage => positivity
  | fixedAmount => exact value

theorem uncappedDiscount_zero (value : coupon.discountValue = 0)
    (amount : Amount) : uncappedDiscount coupon amount ≤ 0 := by
  refine (min_le_left _ _).trans ?_
  grind

theorem uncappedDiscount_one_pos (value : 0 < coupon.discountValue) :
    0 < uncappedDiscount coupon 1 := by grind [uncappedDiscount]

theorem Checked.within (checked : Checked coupon) {amount : Amount} (nonneg : 0 ≤ amount) :
    0 ≤ coupon.calculateDiscount amount ∧ coupon.calculateDiscount amount ≤ amount := by
  rw [calculateDiscount_eq]
  constructor
  · have uncapped := uncappedDiscount_nonneg checked.value nonneg
    cases limit : maximumDiscount coupon with
    | none => exact uncapped
    | some most => exact le_min (checked.limit most (Option.filter_eq_some_iff.mp limit).1) uncapped
  · exact (limited_le _ _).trans (min_le_right _ _)

theorem Checked.capped_iff (checked : Checked coupon) :
    (∀ most ∈ discountCap coupon.restrictions, ∀ amount, 0 ≤ amount →
        coupon.calculateDiscount amount ≤ most) ↔
      (0 ∈ discountCap coupon.restrictions → coupon.discountValue = 0) := by
  constructor
  · intro capped zero
    by_contra some
    have positive := lt_of_le_of_ne checked.value (Ne.symm some)
    have taken := capped 0 zero 1 zero_le_one
    have uncapped : maximumDiscount coupon = none := by
      rw [maximumDiscount_eq, Option.mem_def.mp zero]
      rfl
    rw [calculateDiscount_eq, uncapped] at taken
    exact absurd taken (not_le.mpr (uncappedDiscount_one_pos positive))
  · grind [calculateDiscount_eq, limited_le, uncappedDiscount_zero,
      limited_le_limit, maximumDiscount_eq]

theorem disordered_eq_false_iff (startDate endDate : Option Date) :
    disordered startDate endDate = false ↔ ∀ start ∈ startDate, ∀ stop ∈ endDate, start ≤ stop := by
  cases startDate <;> cases endDate <;> simp [disordered]

theorem Checked.withinBounds_iff (checked : Checked coupon) :
    WithinBounds coupon ↔ (0 ∈ discountCap coupon.restrictions → coupon.discountValue = 0) ∧
        disordered coupon.startDate coupon.endDate = false := by
  rw [disordered_eq_false_iff, ← checked.capped_iff]
  constructor
  · exact fun bounds => ⟨bounds.capped, bounds.ordered⟩
  · rintro ⟨capped, ordered⟩
    exact
      { within := fun amount => checked.within
        monotone := fun first second _ under =>
          (calculateDiscount_le_iff checked.value first second).mpr (.inl under)
        capped
        percentage := checked.percentage
        ordered }

theorem checked_keyed (checked : Checked coupon) (id : Id) :
    Checked { coupon with id } :=
  ⟨checked.value, checked.percentage, checked.limit⟩

theorem withinBounds_keyed_iff (id : Id) :
    WithinBounds { coupon with id } ↔ WithinBounds coupon :=
  ⟨fun bounds => ⟨bounds.within, bounds.monotone, bounds.capped, bounds.percentage, bounds.ordered⟩,
    fun bounds => ⟨bounds.within, bounds.monotone, bounds.capped,
      bounds.percentage, bounds.ordered⟩⟩

end

/-! ### One request -/

section

variable (toUpperCase : String → String) (world : World)

/-- What the look-up of a request lets it store, or why it is refused. -/
def created (dto : CreateCouponDto) :
    Option Coupon → Except HttpException Coupon
  | some _ => .error (.error s!"Coupon with code '{dto.code}' already exists")
  | none =>
    if dto.discountType = .percentage ∧ dto.discountValue > 100 then
      .error (.badRequest "Percentage discount cannot exceed 100%")
    else if disordered dto.startDate dto.endDate then
      .error (.badRequest "Start date cannot be after end date")
    else (createdRow toUpperCase dto).elim (.error columnError) .ok

def updated (id : Id) (dto : UpdateCouponDto) :
    Option Coupon → Except HttpException Coupon
  | none => .error (.notFound s!"Coupon with ID '{id}' not found")
  | some coupon =>
    if disordered dto.startDate.toOption dto.endDate.toOption then
      .error (.badRequest "Start date cannot be after end date")
    else (assignedRow coupon dto).elim (.error columnError) .ok

theorem create_eq (dto : CreateCouponDto) :
    create toUpperCase dto =
      readDecideWrite (S := signature) (.findCoupon (toUpperCase dto.code))
        (created toUpperCase dto) .insertCoupon := by
  refine congrArg _ (funext fun found => ?_)
  cases found with
  | some coupon => rfl
  | none =>
    unfold created
    dsimp only
    split
    · rfl
    split
    · rfl
    cases createdRow toUpperCase dto <;> rfl

theorem update_eq (id : Id) (dto : UpdateCouponDto) :
    update id dto =
      readDecideWrite (S := signature) (.findCouponById id) (updated id dto)
        .saveCoupon := by
  refine congrArg _ (funext fun found => ?_)
  cases found with
  | none => rfl
  | some coupon =>
    unfold updated
    dsimp only
    split
    · rfl
    cases assignedRow coupon dto with
    | none => rfl
    | some row =>
      refine congrArg (Program.call _) (funext fun reply => ?_)
      cases reply <;> rfl

/-- The row that a request stores if its calls are answered; none if it is
refused. -/
def CouponEdit.row? : CouponEdit → Option Coupon
  | .create dto =>
    (created toUpperCase dto (world.db.coupons.rows.find? fun coupon =>
        coupon.code = toUpperCase dto.code)).toOption.map fun coupon =>
      { coupon with id := world.db.coupons.next }
  | .update id dto => (updated id dto (world.db.coupons.row id)).toOption

def EditRequest.row? (request : EditRequest) : Option Coupon :=
  if request.edit.admitted ∧ answered request.faults then
    request.edit.row? toUpperCase world
  else none

theorem editCoupon_eq (request : EditRequest) :
    editCoupon toUpperCase world request =
      (request.row? toUpperCase world).elim world world.withCoupon := by
  obtain ⟨edit, faults⟩ := request
  unfold editCoupon EditRequest.row?
  by_cases admitted : edit.admitted = true
  · rw [if_pos admitted]
    cases edit with
    | create dto =>
      show (commerce.exec (create toUpperCase dto) faults world).2 = _
      rw [create_eq, exec_readDecideWrite rfl ⟨rfl, fun _ => rfl⟩]
      show _ = (if _ then Option.map _ (created toUpperCase dto
        (commerce.act (.findCoupon (toUpperCase dto.code))
          world).1).toOption else none).elim world world.withCoupon
      cases created toUpperCase dto _ with
      | error error => simp [Except.toOption]
      | ok coupon =>
        cases answered faults with
        | false => simp
        | true =>
          simp only [admitted, and_self, if_true]
          rfl
    | update id dto =>
      show (commerce.exec (update id dto) faults world).2 = _
      rw [update_eq, exec_readDecideWrite rfl ⟨rfl, fun _ => rfl⟩]
      show _ = (if _ then (updated id dto (commerce.act (.findCouponById id) world).1).toOption
        else none).elim world world.withCoupon
      cases updated id dto _ with
      | error error => simp [Except.toOption]
      | ok coupon =>
        cases answered faults with
        | false => simp
        | true =>
          simp only [admitted, and_self, if_true]
          rfl
  · rw [if_neg admitted, if_neg fun both => admitted both.1]
    rfl

end

theorem decimalColumn_bounds {value stored : Amount} (column : decimalColumn value = some stored) :
    (0 ≤ value → 0 ≤ stored) ∧ (value ≤ 100 → stored ≤ 100) := by
  unfold decimalColumn at column
  dsimp only at column
  split at column
  next =>
    cases column
    constructor
    · intro nonneg
      have rounded : roundAway (0 : Amount) ≤ roundAway (value * 100) :=
        roundAway_mono (by linarith)
      have zero : roundAway (0 : Amount) = 0 := by simpa using roundAway_intCast (α := Amount) 0
      rw [zero] at rounded
      positivity
    · intro under
      have rounded : roundAway (value * 100) ≤ roundAway ((10000 : ℤ) : Amount) :=
        roundAway_mono (by push_cast; linarith)
      rw [roundAway_intCast] at rounded
      have cast : (roundAway (value * 100) : Amount) ≤ 10000 := by exact_mod_cast rounded
      linarith
  next => cases column

theorem createdRow_spec {toUpperCase : String → String} {dto : CreateCouponDto}
    (row : createdRow toUpperCase dto = some coupon) :
    decimalColumn dto.discountValue = some coupon.discountValue ∧
      coupon.discountType = dto.discountType ∧
      coupon.startDate = dto.startDate ∧ coupon.endDate = dto.endDate ∧
      coupon.restrictions = dto.restrictions := by
  simp only [createdRow, Option.bind_eq_bind, Option.bind_eq_some_iff] at row
  grind

theorem assignedRow_spec {dto : UpdateCouponDto} {row : Coupon}
    (assigned : assignedRow coupon dto = some row) :
    row.id = coupon.id ∧ row.discountValue = coupon.discountValue ∧
      row.discountType = coupon.discountType ∧
      row.startDate = dto.startDate.nullable coupon.startDate ∧
      row.endDate = dto.endDate.nullable coupon.endDate ∧
      row.restrictions = dto.restrictions.nullable coupon.restrictions := by
  simp only [assignedRow, Option.bind_eq_bind, Option.bind_eq_some_iff] at assigned
  grind

/-! ### What a request leaves -/

/-- A request that is stored keeps the bounds: it does not leave a cap of zero
on a coupon that takes something off, nor a start after the end. -/
def Keeps (world : World) : CouponEdit → Prop
  | .create dto => 0 ∈ discountCap dto.restrictions → decimalColumn dto.discountValue = some 0
  | .update id dto => ∀ coupon ∈ world.db.coupons.row id,
      (0 ∈ discountCap (dto.restrictions.nullable coupon.restrictions) → coupon.discountValue = 0) ∧
      disordered (dto.startDate.nullable coupon.startDate)
        (dto.endDate.nullable coupon.endDate) = false

theorem discountCap_nonneg {restrictions : Option CouponRestriction}
    (admitted : restrictions.all restrictionAdmitted) :
    ∀ most ∈ discountCap restrictions, 0 ≤ most := by
  intro most set
  obtain ⟨restriction, rfl, capped⟩ := Option.bind_eq_some_iff.mp set
  have checked := (Bool.and_eq_true_iff.mp admitted).2
  simp_all [nonnegative]

section

variable {toUpperCase : String → String} {world : World}

variable {dto : CreateCouponDto} {found : Option Coupon} {coupon : Coupon} {id : Id}

theorem created_ok (stored : created toUpperCase dto found = .ok coupon) :
    (dto.discountType = .percentage → dto.discountValue ≤ 100) ∧
      disordered dto.startDate dto.endDate = false ∧ createdRow toUpperCase dto = some coupon := by
  cases found with
  | some other => cases stored
  | none =>
    unfold created at stored
    dsimp only at stored
    split at stored
    next => cases stored
    next low =>
      split at stored
      next => cases stored
      next ordered =>
        refine ⟨fun type => not_lt.mp fun high => low ⟨type, high⟩,
          Bool.eq_false_iff.mpr ordered, ?_⟩
        cases made : createdRow toUpperCase dto <;> simp_all

theorem updated_ok {dto : UpdateCouponDto} {found : Coupon}
    (stored : updated id dto (some found) = .ok coupon) :
    assignedRow found dto = some coupon := by
  unfold updated at stored
  dsimp only at stored
  split at stored
  next => cases stored
  next => cases made : assignedRow found dto <;> simp_all

theorem created_spec (admitted : dto.admitted)
    (stored : created toUpperCase dto found = .ok coupon) :
    Checked coupon ∧ (WithinBounds coupon ↔ Keeps world (.create dto)) := by
  obtain ⟨low, ordered, made⟩ := created_ok stored
  obtain ⟨column, type, startDate, endDate, restrictions⟩ := createdRow_spec made
  simp only [CreateCouponDto.admitted, Bool.and_eq_true, decide_eq_true_eq] at admitted
  have checked : Checked coupon :=
    { value := (decimalColumn_bounds column).1 admitted.1.1.1.2
      percentage := fun isPercentage =>
        (decimalColumn_bounds column).2 (low (type.symm.trans isPercentage))
      limit := by
        rw [restrictions]
        exact discountCap_nonneg admitted.2 }
  refine ⟨checked, ?_⟩
  rw [checked.withinBounds_iff, restrictions, startDate, endDate,
    and_iff_left ordered, Keeps, column, Option.some_inj]

theorem updated_spec {dto : UpdateCouponDto} {found : Coupon}
    (admitted : dto.admitted) (checked : Checked found)
    (looked : world.db.coupons.row id = some found)
    (stored : updated id dto (some found) = .ok coupon) :
    Checked coupon ∧ (WithinBounds coupon ↔ Keeps world (.update id dto)) := by
  obtain ⟨_, value, type, startDate, endDate, restrictions⟩ := assignedRow_spec (updated_ok stored)
  have checkedRow : Checked coupon :=
    { value := by
        rw [value]
        exact checked.value
      percentage := by
        rw [type, value]
        exact checked.percentage
      limit := by
        rw [restrictions]
        cases given : dto.restrictions with
        | absent => exact checked.limit
        | null => exact fun _ none => by cases none
        | given restriction =>
          have fields := (Bool.and_eq_true_iff.mp admitted).2
          rw [given] at fields
          exact discountCap_nonneg fields }
  refine ⟨checkedRow, ?_⟩
  rw [checkedRow.withinBounds_iff, restrictions, startDate, endDate, value,
    Keeps, Option.mem_def, looked]
  simp

theorem ok_of_toOption {ε α : Type} {result : Except ε α} {value : α}
    (returned : result.toOption = some value) : result = .ok value := by
  cases result with
  | error error => cases returned
  | ok other =>
    cases returned
    rfl

/-- What a request stores has been checked, and is within the bounds where the
request keeps them. -/
theorem row?_spec {request : EditRequest} {row : Coupon}
    (checked : ∀ coupon ∈ world.db.coupons.rows, Checked coupon)
    (stored : request.row? toUpperCase world = some row) :
    Checked row ∧ (WithinBounds row ↔ Keeps world request.edit) := by
  obtain ⟨edit, faults⟩ := request
  unfold EditRequest.row? at stored
  split at stored
  next handled =>
    cases edit with
    | create dto =>
      obtain ⟨coupon, made, rfl⟩ := Option.map_eq_some_iff.mp stored
      obtain ⟨checkedRow, bounds⟩ := created_spec handled.1 (ok_of_toOption made)
      refine ⟨checked_keyed checkedRow _, ?_⟩
      rw [withinBounds_keyed_iff, bounds]
    | update id dto =>
      cases looked : world.db.coupons.row id with
      | none =>
        have made := ok_of_toOption stored
        rw [looked] at made
        cases made
      | some found =>
        have made := ok_of_toOption stored
        rw [looked] at made
        exact updated_spec handled.1 (checked found (Table.mem_rows_of_row looked)) looked made
  next => cases stored

end

/-! ### Every run -/

section

variable {toUpperCase : String → String}

theorem forall_edited {holds : Coupon → Prop} {world : World} {request : EditRequest}
    (before : ∀ coupon ∈ world.db.coupons.rows, holds coupon) :
    (∀ coupon ∈ (editCoupon toUpperCase world request).db.coupons.rows, holds coupon) ↔
      ∀ row ∈ request.row? toUpperCase world, holds row := by
  rw [editCoupon_eq]
  cases request.row? toUpperCase world with
  | none => exact iff_of_true before fun _ none => by cases none
  | some row =>
    show (∀ coupon ∈ (world.db.coupons.save row).rows, holds coupon) ↔ _
    simp_all [Table.forall_rows_save]

def AllChecked (world : World) : Prop := ∀ coupon ∈ world.db.coupons.rows, Checked coupon

theorem checked_run {world : World} (checked : AllChecked world) (requests : List EditRequest) :
    AllChecked (run (editCoupon toUpperCase) world requests) := by
  refine run_preserves (fun state request before => ?_) checked requests
  refine (forall_edited before).mpr fun row stored => ?_
  exact (row?_spec before stored).1

end

/-- From a world without coupons, every coupon is within the bounds wherever
the requests come to. -/
def CouponsBounded (toUpperCase : String → String) (world : World)
    (requests : List EditRequest) : Prop := ∀ front back, requests = front ++ back →
    ∀ coupon ∈ (run (editCoupon toUpperCase) (world.withCoupons .empty)
      front).db.coupons.rows, WithinBounds coupon

/-- The bounds hold throughout iff the requests that are stored keep them. -/
theorem coupons_bounded_iff (toUpperCase : String → String) (world : World)
    (requests : List EditRequest) :
    CouponsBounded toUpperCase world requests ↔ Along (editCoupon toUpperCase)
        (fun world request => (request.row? toUpperCase world).isSome → Keeps world request.edit)
        (world.withCoupons .empty) requests := by
  have start (holds : Coupon → Prop) :
      ∀ coupon ∈ (world.withCoupons .empty).db.coupons.rows, holds coupon := List.forall_mem_nil _
  have kept_iff : ∀ (state : World) (request : EditRequest), (∀ coupon ∈ state.db.coupons.rows,
        Checked coupon ∧ WithinBounds coupon) →
      ((∀ coupon ∈ (editCoupon toUpperCase state request).db.coupons.rows,
          Checked coupon ∧ WithinBounds coupon) ↔ ((request.row? toUpperCase state).isSome →
          Keeps state request.edit)) := by
    intro state request before
    rw [forall_edited before]
    cases stored : request.row? toUpperCase state with
    | none => simp
    | some row =>
      obtain ⟨checked, bounds⟩ := row?_spec (fun coupon member => (before coupon member).1) stored
      simp only [Option.mem_some_iff, forall_eq', Option.isSome_some, forall_const]
      rw [and_iff_right checked, bounds]
  rw [← reached_iff_along kept_iff (start _)]
  refine forall₃_congr fun front back split => forall₂_congr fun coupon member => ?_
  exact (and_iff_right (checked_run (start _) front coupon member)).symm

/-! ### Two coupons -/

/-- Twenty percent from the day 10 to the day 20, and a request that moves the
start to the day 30. -/
def movedStart : List EditRequest :=
  [ { edit := .create
        { code := "SUMMER", name := "Summer Sale", discountType := .percentage
          discountValue := 20, startDate := some 10, endDate := some 20 } },
    { edit := .update 0 { startDate := .given 30 } } ]

/-- Fifty off, and at most zero. -/
def cappedAtZero : List EditRequest :=
  [ { edit := .create
        { code := "NOTHING", name := "Nothing", discountType := .fixedAmount
          discountValue := 50
          restrictions := some { maximumDiscountAmount := some 0 } } } ]

def movedSale : Coupon where
  id := 0
  code := "SUMMER"
  name := "Summer Sale"
  discountValue := 20
  startDate := some 30
  endDate := some 20

def nothingOff : Coupon where
  id := 0
  code := "NOTHING"
  name := "Nothing"
  discountType := .fixedAmount
  discountValue := 50
  restrictions := some { maximumDiscountAmount := some 0 }

/-- One coupon starts after its end; the other takes fifty off where nothing
may be taken off. -/
theorem bounds_broken :
    ¬ CouponsBounded id openShop movedStart ∧ ¬ CouponsBounded id openShop cappedAtZero := by
  constructor
  · intro bounded
    have stored : movedSale ∈ (run (editCoupon id)
        (openShop.withCoupons .empty) movedStart).db.coupons.rows :=
      Table.mem_rows.mpr (by decide +kernel)
    have bounds := bounded movedStart [] rfl movedSale stored
    exact absurd (bounds.ordered 30 rfl 20 rfl) (by decide)
  · intro bounded
    have stored : nothingOff ∈ (run (editCoupon id)
        (openShop.withCoupons .empty) cappedAtZero).db.coupons.rows :=
      Table.mem_rows.mpr (by decide +kernel)
    have bounds := bounded cappedAtZero [] rfl nothingOff stored
    exact absurd (bounds.capped 0 rfl 100 (by decide)) (by decide)

end MarketX.Commerce
