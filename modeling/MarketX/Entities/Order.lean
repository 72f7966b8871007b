/-
Module: MarketX.Entities.Order
Purpose: The order row and the enumerations its columns range over
  (`entities/order.entity.ts`, `payments/dto/payment.dto.ts`).
Trusted boundary: human-reviewed model of the source
Main exports: OrderStatus, PaymentStatus, Currency, OrderItem
-/
import MarketX.Common.Service
import MarketX.Effects.Table

namespace MarketX

open Effects

inductive OrderStatus where
  | pending
  | confirmed
  | processing
  | paid
  | shipped
  | delivered
  | completed
  | cancelled
  | refunded
  | manualReview
deriving DecidableEq, Inhabited

instance : ToString OrderStatus where
  toString
    | .pending => "pending"
    | .confirmed => "confirmed"
    | .processing => "processing"
    | .paid => "paid"
    | .shipped => "shipped"
    | .delivered => "delivered"
    | .completed => "completed"
    | .cancelled => "cancelled"
    | .refunded => "refunded"
    | .manualReview => "manual_review"

inductive PaymentStatus where
  | unpaid
  | pending
  | paid
  | confirmed
  | failed
  | timeout
  | refunded
deriving DecidableEq, Inhabited

/-- `SupportedCurrency` of the catalogue and `PaymentCurrency` of the
payments, which have the same members and the same texts. -/
inductive Currency where
  | XLM
  | USDC
  | USD
deriving DecidableEq, Inhabited

instance : ToString Currency where
  toString
    | .XLM => "XLM"
    | .USDC => "USDC"
    | .USD => "USD"

inductive EscrowType where
  | standard
  | milestone
deriving DecidableEq, Inhabited

/-- One entry of the `items` column.  The DTO admits whole quantities from
one up only (`@IsInt() @Min(1)`), and the row keeps what the DTO had. -/
structure OrderItem where
  productId : Id
  productName : String
  quantity : ℤ
  price : Amount
  subtotal : Amount
  priceCurrency : Currency
  quantity_pos : 1 ≤ quantity
deriving DecidableEq

/-- One entry of the `milestones` column. -/
structure OrderMilestone where
  title : String
  description : String
  amount : Amount
  percentage : Amount
  type : String
  trigger : String
  autoRelease : Bool
  sortOrder : ℕ
deriving DecidableEq

/-- The columns of `orders` that the modelled services read or write, with
the defaults the table declares. -/
structure Order where
  id : Id
  buyerId : Id
  sellerId : Option Id := none
  totalAmount : Amount
  currency : Currency := .USD
  status : OrderStatus := .pending
  paymentStatus : PaymentStatus := .unpaid
  items : List OrderItem
  escrowType : Option EscrowType := none
  milestones : Option (List OrderMilestone) := none
  releasedAmount : Amount := 0
  remainingAmount : Amount := 0
  shippingAddress : Option String := none
  trackingNumber : Option String := none
  confirmedAt : Option Date := none
  shippedAt : Option Date := none
  deliveredAt : Option Date := none
  cancelledAt : Option Date := none
deriving DecidableEq

instance : Keyed Order := ⟨Order.id⟩

end MarketX
