/-
Module: MarketX.Common.IdempotencyService
Purpose: The idempotency service (`common/idempotency/idempotency.service.ts`):
  the set of keys in flight, the cache of processed keys, and the effects of
  a call, its operation's among them.
Trusted boundary: human-reviewed model of the source
Main exports: OperationCall, World, Op, idempotency
-/
import Mathlib.Algebra.Ring.Int.Defs
import MarketX.Caching.Store
import MarketX.Common.Service

namespace MarketX.Idempotency

open Effects Caching

variable {T : Type}

/-- A call of `executeOnce`, and what its operation returns if it does not
throw. -/
structure OperationCall (T : Type) where
  key : String
  ttlSeconds : ℤ := 24 * 60 * 60
  result : T
deriving DecidableEq

/-- The set of keys in flight, the cache, the clock, and what has become of
the operations. -/
structure World (T : Type) where
  inFlight : String → Bool
  cache : Store String Date Date
  now : Date
  starts : List (OperationCall T)
  successes : List (OperationCall T × Date)

namespace World

def mark (world : World T) (cacheKey : String) (value : Bool) : World T :=
  { world with inFlight := Function.update world.inFlight cacheKey value }

def withStart (world : World T) (call : OperationCall T) : World T :=
  { world with starts := call :: world.starts }

def withSuccess (world : World T) (call : OperationCall T) : World T :=
  { world with successes := (call, world.now) :: world.successes }

def withEntry (world : World T) (cacheKey : String) (value : Date) (ttl : ℤ) : World T :=
  { world with cache := world.cache.set world.now cacheKey value ttl }

end World

/-- `answer` is what the caller of `executeOnce` receives. -/
inductive Op (T : Type) where
  | inFlightHas (cacheKey : String)
  | cacheGet (cacheKey : String)
  | inFlightAdd (cacheKey : String)
  | startOperation (call : OperationCall T)
  | finishOperation (call : OperationCall T)
  | dateNow
  | cacheSet (cacheKey : String) (value : Date) (ttl : ℤ)
  | inFlightDelete (cacheKey : String)
  | answer (executed : Bool) (result : Option T)

@[reducible] def Reply : Op T → Type
  | .inFlightHas _ => Bool
  | .cacheGet _ => Option Date
  | .finishOperation _ => T
  | .dateNow => Date
  | _ => Unit

@[reducible] def signature (T : Type) : Signature := ⟨Op T, Reply⟩

abbrev Service (T α : Type) := Program (signature T) HttpException α

@[simp] def act : (op : Op T) → World T → Reply op × World T
  | .inFlightHas cacheKey, world => (world.inFlight cacheKey, world)
  | .cacheGet cacheKey, world =>
    (world.cache.get world.now cacheKey, world)
  | .inFlightAdd cacheKey, world => ((), world.mark cacheKey true)
  | .startOperation call, world => ((), world.withStart call)
  | .finishOperation call, world => (call.result, world.withSuccess call)
  | .dateNow, world => (world.now, world)
  | .cacheSet cacheKey value ttl, world =>
    ((), world.withEntry cacheKey value ttl)
  | .inFlightDelete cacheKey, world => ((), world.mark cacheKey false)
  | .answer _ _, world => ((), world)

/-- The operation may throw, and so may the cache. -/
def mayFail : Op T → Bool
  | .cacheGet _ | .finishOperation _ | .cacheSet .. => true
  | _ => false

def idempotency : Handler (signature T) (World T) := ⟨act, mayFail⟩

def await (op : Op T) : Service T (Reply op) := Program.perform (S := signature T) op

def inFlight.has (cacheKey : String) : Service T Bool := await (.inFlightHas cacheKey)

def inFlight.add (cacheKey : String) : Service T Unit := await (.inFlightAdd cacheKey)

def inFlight.delete (cacheKey : String) : Service T Unit := await (.inFlightDelete cacheKey)

def cache.get (cacheKey : String) : Service T (Option Date) := await (.cacheGet cacheKey)

def cache.set (cacheKey : String) (value : Date) (ttl : ℤ) :
    Service T Unit := await (.cacheSet cacheKey value ttl)

/-- The operation the caller hands over: it runs, and returns or throws. -/
def operation (call : OperationCall T) : Service T T := do
  await (.startOperation call)
  await (.finishOperation call)

structure ExecuteOnceResult (T : Type) where
  executed : Bool
  result : Option T := none

def toCacheKey (key : String) : String := "idempotency:" ++ key

/-- The `try` block. -/
def executeMarked (cacheKey : String) (operation : Service T T)
    (ttlSeconds : ℤ) : Service T (ExecuteOnceResult T) := do
  let result ← operation
  let date ← await .dateNow
  cache.set cacheKey date (ttlSeconds * 1000)
  pure { executed := true, result := some result }

def executeOnce (key : String) (operation : Service T T)
    (ttlSeconds : ℤ) : Service T (ExecuteOnceResult T) := do
  let cacheKey := toCacheKey key
  if ← inFlight.has cacheKey then
    pure { executed := false }
  else
    let alreadyProcessed ← cache.get cacheKey
    if alreadyProcessed.isSome then
      pure { executed := false }
    else
      inFlight.add cacheKey
      -- the `catch` logs and rethrows, the `finally` comes before the throw
      let outcome ← (executeMarked cacheKey operation ttlSeconds).attempt
      inFlight.delete cacheKey
      match outcome with
      | .ok answer => pure answer
      | .error error => throw error

/-- A caller of `executeOnce`. -/
def OperationCall.program (call : OperationCall T) : Service T Unit := do
  let answer ← executeOnce call.key (operation call) call.ttlSeconds
  await (.answer answer.executed answer.result)

theorem toCacheKey_injective : Function.Injective toCacheKey := by
  intro key other same
  have lists : ("idempotency:" ++ key).toList = ("idempotency:" ++ other).toList :=
    congrArg String.toList same
  rw [String.toList_append, String.toList_append] at lists
  exact String.toList_injective (List.append_cancel_left lists)

end MarketX.Idempotency
