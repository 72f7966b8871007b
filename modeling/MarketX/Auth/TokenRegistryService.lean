/-
Module: MarketX.Auth.TokenRegistryService
Purpose: The registry of refresh tokens (`auth/token-registry.service.ts`)
  over the cache, and the auth service (`auth/auth.service.ts`): the pair of
  tokens a login gives, the rotation of refresh tokens, and their revocation.
Trusted boundary: human-reviewed model of the source
Main exports: UserId, CacheValue, World, Op
-/
import Mathlib.Algebra.Ring.Int.Defs
import MarketX.Caching.Store
import MarketX.Common.Service

namespace MarketX.Auth

open Effects Caching

/-- The id of a user, a number or a UUID: it has no colon. -/
@[ext]
structure UserId where
  text : String
  colonFree : ':' ∉ text.toList
deriving DecidableEq

instance : ToString UserId := ⟨UserId.text⟩

/-- `'active'` under the key of a token, the tokens under that of a user. -/
inductive CacheValue where
  | active
  | tokens (tokens : List String)
deriving DecidableEq

/-- The cache, the clock, and how often random bytes have been drawn. -/
structure World where
  cache : Store String CacheValue Date
  now : Date
  drawn : ℕ

namespace World

def withEntry (world : World) (key : String) (value : CacheValue) (ttl : Date) : World :=
  { world with cache := world.cache.set world.now key value ttl }

def withoutEntry (world : World) (key : String) : World :=
  { world with cache := world.cache.del key }

def withDraw (world : World) : World :=
  { world with drawn := world.drawn + 1 }

end World

/-- The claims of an access token, which expires after 15 minutes. -/
structure AccessToken where
  sub : UserId
  email : String
deriving DecidableEq

inductive Op where
  | cacheGet (key : String)
  | cacheSet (key : String) (value : CacheValue) (ttl : Date)
  | cacheDel (key : String)
  | randomBytes
  | signAsync (payload : AccessToken)
deriving DecidableEq

@[reducible] def Reply : Op → Type
  | .cacheGet _ => Option CacheValue
  | .randomBytes => String
  | .signAsync _ => AccessToken
  | _ => Unit

@[reducible] def signature : Signature := ⟨Op, Reply⟩

abbrev Service (α : Type) := Program signature HttpException α

section

-- the hexadecimal text of the n-th draw of 40 random bytes
variable (random : ℕ → String)

@[simp] def act : (op : Op) → World → Reply op × World
  | .cacheGet key, world => (world.cache.get world.now key, world)
  | .cacheSet key value ttl, world => ((), world.withEntry key value ttl)
  | .cacheDel key, world => ((), world.withoutEntry key)
  | .randomBytes, world => (random world.drawn, world.withDraw)
  | .signAsync payload, world => (payload, world)

/-- Signing may throw. -/
def mayFail : Op → Bool
  | .signAsync _ => true
  | _ => false

def auth : Handler signature World := ⟨act random, mayFail⟩

end

def await (op : Op) : Service (Reply op) := Program.perform (S := signature) op

def cacheManager.get (key : String) : Service (Option CacheValue) := await (.cacheGet key)

def cacheManager.set (key : String) (value : CacheValue) (ttl : Date) :
    Service Unit := await (.cacheSet key value ttl)

def cacheManager.del (key : String) : Service Unit := await (.cacheDel key)

/-- Seven days, in milliseconds. -/
def ttl : Date := 604800000

/-- `|| []`.  There are only lists under the keys that are read so. -/
def tokensOf : Option CacheValue → List String
  | some (.tokens tokens) => tokens
  | _ => []

namespace TokenRegistryService

def tokenKey (userId : UserId) (token : String) : String :=
  "refresh_token:" ++ userId.text ++ ":" ++ token

def userTokensKey (userId : UserId) : String := "user_refresh_tokens:" ++ userId.text

def addTokenToUserList (userId : UserId) (token : String) :
    Service Unit := do
  let tokens := tokensOf (← cacheManager.get (userTokensKey userId))
  if token ∉ tokens then
    cacheManager.set (userTokensKey userId) (.tokens (tokens ++ [token])) ttl
  else pure ()

def removeTokenFromUserList (userId : UserId) (token : String) :
    Service Unit := do
  let tokens := tokensOf (← cacheManager.get (userTokensKey userId))
  let filteredTokens := tokens.filter (· ≠ token)
  if filteredTokens.length > 0 then
    cacheManager.set (userTokensKey userId) (.tokens filteredTokens) ttl
  else cacheManager.del (userTokensKey userId)

def store (userId : UserId) (token : String) : Service Unit := do
  cacheManager.set (tokenKey userId token) .active ttl
  addTokenToUserList userId token

/-- `exists`. -/
def tokenExists (userId : UserId) (token : String) : Service Bool := do
  let val ← cacheManager.get (tokenKey userId token)
  pure val.isSome

def invalidate (userId : UserId) (token : String) : Service Unit := do
  cacheManager.del (tokenKey userId token)
  removeTokenFromUserList userId token

/-- Without tokens in the list, there is none to delete. -/
def invalidateAllForUser (userId : UserId) : Service Unit := do
  let tokens := tokensOf (← cacheManager.get (userTokensKey userId))
  tokens.forM fun token => cacheManager.del (tokenKey userId token)
  cacheManager.del (userTokensKey userId)

end TokenRegistryService

structure Tokens where
  accessToken : AccessToken
  refreshToken : String
deriving DecidableEq

namespace AuthService

/-- Of the two tokens only the access token is waited for: the random bytes
are drawn whether or not it is signed. -/
def getTokens (userId : UserId) (email : String) : Service Tokens := do
  let refreshToken ← await .randomBytes
  let accessToken ← await (.signAsync { sub := userId, email })
  TokenRegistryService.store userId refreshToken
  pure { accessToken, refreshToken }

def revokeAllUserTokens (userId : UserId) : Service Unit :=
  TokenRegistryService.invalidateAllForUser userId

def refreshTokens (userId : UserId) (email oldRefreshToken : String) :
    Service Tokens := do
  let tokenExists ← TokenRegistryService.tokenExists userId oldRefreshToken
  if !tokenExists then
    revokeAllUserTokens userId
    throw (.forbidden "Access Denied: Refresh token reuse detected.")
  else
    TokenRegistryService.invalidate userId oldRefreshToken
    getTokens userId email

end AuthService

/-- What is called on the tokens of a user. -/
inductive AuthCall where
  | getTokens (userId : UserId) (email : String)
  | refreshTokens (userId : UserId) (email oldRefreshToken : String)
  | revokeAllUserTokens (userId : UserId)
deriving DecidableEq

/-- The program of a call, without the value it returns. -/
def AuthCall.program : AuthCall → Service Unit
  | .getTokens userId email => do
      let _ ← AuthService.getTokens userId email
      pure ()
  | .refreshTokens userId email oldRefreshToken => do
      let _ ← AuthService.refreshTokens userId email oldRefreshToken
      pure ()
  | .revokeAllUserTokens userId => AuthService.revokeAllUserTokens userId

end MarketX.Auth
