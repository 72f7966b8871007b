/-
Module: MarketX.Security.Requests
Purpose: What the guards and the middleware in front of every route read of a
  request.
Trusted boundary: human-reviewed model of the source
Main exports: Header, Header.truthy, Body, Request
-/
import Mathlib.Data.List.Infix
import MarketX.Common.Service
import MarketX.Numerals.Decimal

namespace MarketX.Security

/-- The value of a header: `string | string[]`. -/
inductive Header where
  | text (value : String)
  | list (values : List String)
deriving DecidableEq

/-- Where the code tests a header for truth, only the empty text is not. -/
def Header.truthy : Header → Bool
  | .text value => value ≠ ""
  | .list _ => true

/-- A body that is parsed: a list, or the members of an object that are read
in front of the routes. -/
inductive Body where
  | list
  | members (shippingAddress address orderShippingAddress : Option String)
deriving DecidableEq

/-- `user` is the id of the user a request has been authenticated as. -/
structure Request where
  path : String
  headers : String → Option Header
  user : Option String := none
  ip : Option String := none
  remoteAddress : Option String := none
  queryIsList : Bool := false
  body : Option Body := none

/-- What counts as a value where the code tests a string for truth. -/
def nonEmpty (text : Option String) : Option String := text.filter (· ≠ "")

/-- `text.includes(part)`. -/
def includes (text part : String) : Bool := part.toList <:+: text.toList

/-- `text.split(',')[0]`. -/
def firstItem (text : String) : String := String.ofList (text.toList.takeWhile (· ≠ ','))

end MarketX.Security
