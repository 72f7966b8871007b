/-
Module: MarketX.Authentication.UsersService
Purpose: The users the authentication module works on (`users.entity.ts`,
  `users.service.ts`): finding one, the refresh token and the password that
  are stored with them.
Trusted boundary: human-reviewed model of the source
Main exports: AuthError, Users, PasswordResetEmail, World
-/
import MarketX.Common.Service
import MarketX.Effects.Table
import MarketX.Numerals.Decimal

namespace MarketX.Authentication

open Effects Numerals

/-- What the services throw, and what the database throws. -/
inductive AuthError where
  | unauthorized (message : String)
  | badRequest (message : String)
  | notFound (message : String)
  | error (message : String)
deriving DecidableEq

def AuthError.message : AuthError → String
  | .unauthorized message | .badRequest message | .notFound message
  | .error message => message

/-- A row of the users table, as far as the authentication module reads it.
A row with a time of deletion is not found any more. -/
structure Users (Token : Type) where
  id : Id
  email : String
  password : Option String
  name : String
  isActive : Bool := true
  role : Option String := none
  refreshToken : Option Token := none
  deletedAt : Option Date := none
deriving DecidableEq

instance (Token : Type) : Keyed (Users Token) := ⟨Users.id⟩

/-- The mail with which a reset token leaves the service. -/
structure PasswordResetEmail (Token : Type) where
  userId : String
  toAddress : String
  name : String
  resetToken : Token
  expiryTime : String
deriving DecidableEq

/-- The users, and the mails that have been queued, latest first. -/
structure World (Token : Type) where
  users : Table (Users Token)
  emails : List (PasswordResetEmail Token) := []

abbrev Service (Token : Type) := StateT (World Token) (Except AuthError)

/-- `parseInt` without a base; no number stands for `NaN`. -/
def parseInt (text : String) : Option ℤ := parseIntOf? text.toList

theorem parseInt_repr (id : Id) : parseInt id.repr = some (id : ℤ) := parseIntOf?_repr id

variable {Token : Type}

/-- The row with a number as its id. -/
def rowAt (users : Table (Users Token)) (id : ℤ) : Option (Users Token) :=
  if id < 0 then none else users.row id.toNat

/-- What the database says of `NaN` where it expects an id. -/
def notAnInteger : AuthError := .error "invalid input syntax for type integer: \"NaN\""

namespace UsersService

/-- Only rows that are not deleted are found. -/
def findOne (id : Option ℤ) : Service Token (Users Token) := do
  match id with
  | none => throw notAnInteger
  | some id =>
    match (rowAt (← get).users id).filter (·.deletedAt.isNone) with
    | some user => pure user
    | none => throw (.notFound s!"User with ID {id} not found")

def findByEmail (email : String) : Service Token (Option (Users Token)) := do
  pure ((← get).users.rows.find? fun user => user.email = email ∧ user.deletedAt.isNone)

/-- `update(id, …)`: the row with the id, also when it is deleted. -/
def update (id : Option ℤ) (change : Users Token → Users Token) :
    Service Token Unit := do
  match id with
  | none => throw notAnInteger
  | some id =>
    modify fun world =>
      match rowAt world.users id with
      | some user => { world with users := world.users.save (change user) }
      | none => world

def validateRefreshToken [DecidableEq Token] (userId : String)
    (token : Token) : Service Token Bool := do
  let user ← findOne (parseInt userId)
  pure (user.refreshToken = some token)

def updateRefreshToken (userId : Option ℤ) (token : Option Token) :
    Service Token Unit := update userId fun user => { user with refreshToken := token }

/-- The write of `resetPassword`, and `updatePassword` of the service. -/
def updatePassword (userId : Option ℤ) (passwordHash : String) :
    Service Token Unit := update userId fun user => { user with password := some passwordHash }

end UsersService

end MarketX.Authentication
