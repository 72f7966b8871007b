/-
Module: MarketX.Authentication.AuthService
Purpose: The auth service of the authentication module
  (`Authentication/auth.service.ts`): pairs of tokens, their refresh, logout,
  and the reset of a password by a mailed token.
Trusted boundary: human-reviewed model of the source; what the signature
  library does to a token is a parameter
Main exports: JwtPayload, Claims, Jwt, Jwt.verifyAsync
-/
import MarketX.Authentication.UsersService

namespace MarketX.Authentication

open Effects

/-! ### Tokens -/

inductive TokenType where
  | access
  | refresh
  | passwordReset
deriving DecidableEq

/-- A reset token has no role. -/
structure JwtPayload where
  sub : String
  email : String
  role : Option String
  type : TokenType
deriving DecidableEq

/-- What goes into a signed token: the payload, the secret it is signed with,
and the whole seconds at which it was issued and expires. -/
structure Claims where
  payload : JwtPayload
  secret : String
  iat : ℤ
  exp : ℤ
deriving DecidableEq

/-- Signing and reading tokens: what was signed is read, and nothing else. -/
structure Jwt (Token : Type) where
  sign : Claims → Token
  read : Token → Option Claims
  read_sign : ∀ claims, read (sign claims) = some claims
  sign_of_read : ∀ {token claims}, read token = some claims → sign claims = token

/-- The clock of the tokens. -/
def seconds (now : Date) : ℤ := now / 1000

namespace Jwt

variable {Token : Type} (jwt : Jwt Token)

/-- `signAsync` with a secret and `expiresIn`. -/
def signAsync (now : Date) (payload : JwtPayload) (secret : String) (expiresIn : ℤ) : Token :=
  jwt.sign ⟨payload, secret, seconds now, seconds now + expiresIn⟩

/-- `verifyAsync`: signed with this secret, and not expired. -/
def verifyAsync (now : Date) (token : Token) (secret : String) :
    Option JwtPayload :=
  match jwt.read token with
  | none => none
  | some claims =>
    if claims.secret = secret ∧ seconds now < claims.exp then
      some claims.payload
    else none

end Jwt

/-- `JWT_CONSTANTS`; the lifetimes are fifteen minutes and seven days. -/
structure Secrets where
  accessTokenSecret : String := "your-secret-key-change-in-production"
  refreshTokenSecret : String := "your-refresh-secret-key-change-in-production"

def accessTokenExpiration : ℤ := 15 * 60
def refreshTokenExpiration : ℤ := 7 * 24 * 60 * 60

/-- Fifteen minutes, as `requestPasswordReset` has them. -/
def resetTokenExpiration : ℤ := 15 * 60

/-! ### Users and answers -/

/-- What a login knows of its user; the id is the text of it. -/
structure User where
  id : String
  email : String
  firstName : Option String := none
  lastName : Option String := none
  role : Option String := none
deriving DecidableEq

structure AuthResponseDto (Token : Type) where
  accessToken : Token
  refreshToken : Token
  user : User
deriving DecidableEq

namespace AuthService

section

variable {Token : Type} [DecidableEq Token] (jwt : Jwt Token)
  (secrets : Secrets) (bcrypt : String → String → String)

/-- `user.role || 'user'`. -/
def roleOf (role : Option String) : String :=
  match role with
  | none | some "" => "user"
  | some role => role

/-- What the refresh token of a user is made of at a time. -/
def refreshClaims (now : Date) (sub email : String) (role : Option String) :
    Claims where
  payload := { sub, email, role := some (roleOf role), type := .refresh }
  secret := secrets.refreshTokenSecret
  iat := seconds now
  exp := seconds now + refreshTokenExpiration

/-- The access token and the refresh token. -/
def generateTokens (now : Date) (sub email : String) (role : Option String) :
    Token × Token :=
  (jwt.signAsync now { sub, email, role := some (roleOf role), type := .access }
      secrets.accessTokenSecret accessTokenExpiration,
    jwt.sign (refreshClaims secrets now sub email role))

def login (now : Date) (user : User) :
    Service Token (AuthResponseDto Token) := do
  let tokens := generateTokens jwt secrets now user.id user.email user.role
  UsersService.updateRefreshToken (parseInt user.id) (some tokens.2)
  pure { accessToken := tokens.1, refreshToken := tokens.2, user }

def refreshTokens (now : Date) (userId : String) (refreshToken : Token) :
    Service Token (AuthResponseDto Token) := do
  let user ← UsersService.findOne (parseInt userId)
  if !user.isActive then
    throw (.unauthorized "Access denied")
  else
    let isValid ← UsersService.validateRefreshToken userId refreshToken
    if !isValid then
      throw (.unauthorized "Invalid refresh token")
    else
      let tokens := generateTokens jwt secrets now user.id.repr user.email user.role
      UsersService.updateRefreshToken (some user.id) (some tokens.2)
      pure {
        accessToken := tokens.1
        refreshToken := tokens.2
        user := {
          id := user.id.repr
          email := user.email
          firstName := some user.name
          lastName := some ""
          role := some (roleOf user.role) } }

def logout (userId : String) : Service Token Unit :=
  UsersService.updateRefreshToken (parseInt userId) none

/-- What the reset token of a user is made of at a time. -/
def resetClaims (now : Date) (user : Users Token) : Claims where
  payload :=
    { sub := user.id.repr, email := user.email, role := none,
      type := .passwordReset }
  secret := secrets.accessTokenSecret
  iat := seconds now
  exp := seconds now + resetTokenExpiration

/-- Whether or not there is such a user, the answer is the same. -/
def requestPasswordReset (now : Date) (email : String) :
    Service Token String := do
  match ← UsersService.findByEmail email with
  | none => pure "If that email exists, a reset link has been sent."
  | some user =>
    let resetToken := jwt.sign (resetClaims secrets now user)
    modify fun world =>
      { world with
        emails := {
          userId := user.id.repr
          toAddress := user.email
          name := user.name
          resetToken
          expiryTime := "15 minutes" } :: world.emails }
    pure "If that email exists, a reset link has been sent."

def resetPassword (now : Date) (token : Token) (newPassword salt : String) :
    Service Token String := do
  match jwt.verifyAsync now token secrets.accessTokenSecret with
  | none => throw (.badRequest "Invalid or expired reset token")
  | some payload =>
    if payload.type ≠ .passwordReset then
      throw (.badRequest "Invalid token type")
    else
      let user ← UsersService.findOne (parseInt payload.sub)
      UsersService.updatePassword (some user.id) (bcrypt newPassword salt)
      pure "Password successfully reset. You can now log in."

end

end AuthService

/-! ### Calls -/

/-- A call of the auth service; hashing a password draws a salt. -/
inductive AuthCall (Token : Type) where
  | login (user : User)
  | refreshTokens (userId : String) (refreshToken : Token)
  | logout (userId : String)
  | requestPasswordReset (email : String)
  | resetPassword (token : Token) (newPassword salt : String)
deriving DecidableEq

/-- What a call answers. -/
inductive AuthAnswer (Token : Type) where
  | tokens (response : AuthResponseDto Token)
  | done
  | message (text : String)
deriving DecidableEq

section

variable {Token : Type} [DecidableEq Token] (jwt : Jwt Token)
  (secrets : Secrets) (bcrypt : String → String → String)

def AuthCall.program (now : Date) :
    AuthCall Token → Service Token (AuthAnswer Token)
  | .login user => .tokens <$> AuthService.login jwt secrets now user
  | .refreshTokens userId refreshToken =>
    .tokens <$> AuthService.refreshTokens jwt secrets now userId refreshToken
  | .logout userId => do
      AuthService.logout userId
      pure .done
  | .requestPasswordReset email =>
    .message <$> AuthService.requestPasswordReset jwt secrets now email
  | .resetPassword token newPassword salt =>
    .message <$> AuthService.resetPassword jwt secrets bcrypt now token newPassword salt

/-- A call at a reading of the clock. -/
structure Timed (Token : Type) where
  now : Date
  call : AuthCall Token
deriving DecidableEq

/-- A call that throws has written nothing. -/
def authStep (world : World Token) (timed : Timed Token) :
    World Token × Except AuthError (AuthAnswer Token) :=
  match timed.call.program jwt secrets bcrypt timed.now world with
  | .ok (answer, after) => (after, .ok answer)
  | .error error => (world, .error error)

end

end MarketX.Authentication
