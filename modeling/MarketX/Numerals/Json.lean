/-
Module: MarketX.Numerals.Json
Purpose: JSON values as a program sees them that expects something else:
  members, truth, and the numbers `parseFloat` and arithmetic find in one.
Trusted boundary: follows the language definition
Main exports: Json, Json.member, Json.read, inheritedMembers
-/
import MarketX.Numerals.Number

namespace Numerals

inductive Json where
  | null
  | bool (value : Bool)
  | number (value : Number)
  | string (text : String)
  | array (elements : List Json)
  | object (members : List (String × Json))

def Json.isNull : Json → Bool
  | .null => true
  | _ => false

theorem Json.eq_null_of_isNull {value : Json} (null : value.isNull = true) :
    value = .null := by
  cases value with
  | null => rfl
  | _ => cases null

/-- `value[name]`, of a name that only an object has; of two members with one
name the last one counts. -/
def Json.member (name : String) : Json → Option Json
  | .object members =>
    (members.reverse.find? fun member => member.1 = name).map Prod.snd
  | _ => none

/-- `value[name]` of a value that may be missing; `none` where that throws. -/
def Json.read (name : String) : Option Json → Option (Option Json)
  | none | some .null => none
  | some value => some (value.member name)

/-- The members that every object inherits. -/
def inheritedMembers : List String :=
  ["constructor", "__defineGetter__", "__defineSetter__", "hasOwnProperty",
    "__lookupGetter__", "__lookupSetter__", "isPrototypeOf",
    "propertyIsEnumerable", "toString", "valueOf", "__proto__", "toLocaleString"]

/-- What counts as true; a missing value is `undefined`. -/
def truthy : Option Json → Bool
  | none | some .null => false
  | some (.bool value) => value
  | some (.number (.finite x)) => x ≠ 0
  | some (.number (.infinity _)) => true
  | some (.number .nan) => false
  | some (.string text) => text ≠ ""
  | some (.array _) | some (.object _) => true

mutual

/-- `String(value)`. -/
def Json.toText : Json → String
  | .null => "null"
  | .bool value => if value then "true" else "false"
  | .number value => value.toText
  | .string text => text
  | .array elements => joined elements
  | .object _ => "[object Object]"

/-- The elements of an array between commas, without those that are `null`. -/
def joined : List Json → String
  | [] => ""
  | [.null] => ""
  | [element] => element.toText
  | .null :: elements => "," ++ joined elements
  | element :: elements => element.toText ++ "," ++ joined elements

end

mutual

/-- The value can be turned into a text: no object in it has a `toString` of
its own, which would not be a function. -/
def Json.printable : Json → Bool
  | .array elements => allPrintable elements
  | .object members => members.all fun member => member.1 ≠ "toString"
  | _ => true

def allPrintable : List Json → Bool
  | [] => true
  | element :: elements => element.printable && allPrintable elements

end

/-- What arithmetic makes of a value that may be missing; `none` where that
throws. -/
def Json.toNumber : Option Json → Option Number
  | none => some .nan
  | some .null => some (.finite 0)
  | some (.bool value) => some (.finite (if value then 1 else 0))
  | some (.number value) => some value
  | some value =>
    if value.printable then some (numberOf value.toText) else none

/-- `x / y` of any two values; `none` where it throws. -/
def Json.quotient (x y : Option Json) : Option Number := do
  let numerator ← Json.toNumber x
  let denominator ← Json.toNumber y
  pure (numerator.div denominator)

/-- `parseFloat`, of the text of a value.  That of an array begins with its
first element. -/
def parseFloat : Json → Number
  | .number value => value
  | .string text => parseFloatText text.toList
  | .array (first :: _) => parseFloat first
  | _ => .nan

end Numerals
