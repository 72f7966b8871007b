/-
Module: MarketX.Common.Service
Purpose: What every service of the backend shares: identifiers, money, the
  exceptions it throws, and the validator of status transitions.
Trusted boundary: human-reviewed model of the source
Main exports: Id, Amount, Date, PublicKey
-/
import Mathlib.Data.Rat.Defs
import MarketX.Effects.Program

namespace MarketX

open Effects

/-- Primary keys, user ids and other identifiers.  The code only ever
compares them. -/
abbrev Id := ℕ

/-- Amounts of money.  A JavaScript number and a `decimal` column are both
read as the exact rational they denote. -/
abbrev Amount := ℚ

/-- A point in time, in milliseconds since the epoch. -/
abbrev Date := ℤ

/-- A Stellar public key, as the code uses it: compared, stored, passed
on. -/
abbrev PublicKey := ℕ

/-- The exceptions of `@nestjs/common` the services throw, and `error` for
whatever a database, the Stellar network or the runtime throws. -/
inductive HttpException where
  | badRequest (message : String)
  | notFound (message : String)
  | forbidden (message : String)
  | error (message : String)
deriving DecidableEq, Inhabited

def HttpException.message : HttpException → String
  | .badRequest message | .notFound message | .forbidden message
  | .error message => message

/-- One entry of a failure schedule: the effect succeeds, or throws. -/
abbrev Fault := Option HttpException

/-- A computation that has already decided whether it throws, as a
program. -/
def ofExcept {S : Signature} {α : Type} :
    Except HttpException α → Program S HttpException α
  | .ok value => pure value
  | .error error => throw error

@[simp] theorem wp_ofExcept {S : Signature} {σ α : Type} (H : Handler S σ)
    (outcome : Except HttpException α) (post : Except HttpException α → σ → Prop) (state : σ) :
    H.wp (ofExcept outcome) post state = post outcome state := by
  cases outcome <;> rfl

/-- Transitions between the statuses `T` of an entity: the allowed next
statuses of each, and the entity's name for the error text. -/
structure StatusTransitionValidator (T : Type) where
  validTransitions : T → List T
  entityName : String

namespace StatusTransitionValidator

variable {T : Type} [DecidableEq T] [ToString T] (validator : StatusTransitionValidator T)

/-- Throw unless the table allows the transition. -/
def validate (currentStatus newStatus : T) : Except HttpException Unit :=
  let allowed := validator.validTransitions currentStatus
  if newStatus ∈ allowed then
    .ok ()
  else
    let allowedTransitions :=
      if allowed.length > 0 then
        ", ".intercalate (allowed.map toString)
      else "none (terminal state)"
    .error (.badRequest (s!"Invalid {validator.entityName} status transition from " ++
        s!"'{currentStatus}' to '{newStatus}'. " ++ s!"Allowed transitions: {allowedTransitions}"))

/-- The test without the exception. -/
def isValid (currentStatus newStatus : T) : Bool :=
  newStatus ∈ validator.validTransitions currentStatus

/-- A status nothing leads out of. -/
def isTerminalState (status : T) : Bool :=
  (validator.validTransitions status).isEmpty

theorem validate_cases (currentStatus newStatus : T) :
    (newStatus ∈ validator.validTransitions currentStatus ∧
        validator.validate currentStatus newStatus = .ok ()) ∨
      (newStatus ∉ validator.validTransitions currentStatus ∧
        ∃ error, validator.validate currentStatus newStatus = .error error) := by grind [validate]

end StatusTransitionValidator

end MarketX
