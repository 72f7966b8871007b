/-
Module: MarketX.Cache.CacheService
Purpose: The cache in two tiers (`cache/cache.service.ts`): a map in memory
  with eviction, and Redis behind it, read, filled and cleared together.
Trusted boundary: human-reviewed model of the source
Main exports: CacheConfig, World, CacheService.get, CacheService.set
-/
import Mathlib.Data.List.Sort
import MarketX.Caching.Store
import MarketX.Caching.OrderedMap
import MarketX.Common.Service
import MarketX.Numerals.Json

namespace MarketX.Cache

open Caching Numerals

/-! ### The state -/

/-- The time to live is in seconds. -/
structure CacheConfig where
  ttl : ℕ+
  tags : Option (List String) := none
deriving DecidableEq

/-- `{ ttl: 3600 }`. -/
def CacheConfig.default : CacheConfig where
  ttl := 3600

structure CacheEntry where
  data : Json
  timestamp : Date
  ttl : Date
  tags : List String
  accessCount : ℕ
  lastAccessed : Date

/-- What is written to Redis as JSON. -/
structure RedisEntry where
  data : Json
  timestamp : Date
  tags : List String

structure CacheMetrics where
  hits : ℕ
  misses : ℕ
  totalRequests : ℕ
deriving DecidableEq

/-- The service, with the number of entries that the environment allows in
memory, unless that is no number, and Redis and the clock. -/
structure World where
  inMemoryCache : OrderedMap String CacheEntry
  redis : Keyspace String RedisEntry Date
  metrics : CacheMetrics
  maxItems : Option ℤ
  now : Date

/-- `config.ttl * 1000`. -/
def CacheConfig.milliseconds (config : CacheConfig) : Date := config.ttl.val * 1000

def CacheConfig.tagList (config : CacheConfig) : List String := config.tags.getD []

/-- The key of the set of keys with a tag. -/
def tagKey (tag : String) : String := "tag:" ++ tag

namespace CacheService

/-! ### Memory -/

def isExpired (entry : CacheEntry) (now : Date) : Bool := now - entry.timestamp > entry.ttl

def getFromMemory (key : String) (world : World) : Option Json × World :=
  match world.inMemoryCache.get key with
  | none => (none, world)
  | some entry =>
    if isExpired entry world.now = true then
      (none, { world with
        inMemoryCache := world.inMemoryCache.delete key })
    else
      (some entry.data, { world with
        inMemoryCache := world.inMemoryCache.set key
          { entry with
            accessCount := entry.accessCount + 1
            lastAccessed := world.now } })

/-- The entries, those first that were accessed longest ago. -/
def byAccess (cache : OrderedMap String CacheEntry) :
    List (String × CacheEntry) := cache.entries.insertionSort fun first second =>
    first.2.lastAccessed ≤ second.2.lastAccessed

/-- Whether it returns: it throws when it is to remove more entries than there
are. -/
def cleanupMemoryCache (world : World) : Bool × World :=
  match world.maxItems with
  | none => (true, world)
  | some maxItems =>
    if world.inMemoryCache.size ≤ maxItems then (true, world)
    else
      let entries := byAccess world.inMemoryCache
      let itemsToRemove := world.inMemoryCache.size - maxItems
      (itemsToRemove ≤ entries.length, { world with
        inMemoryCache := (entries.take itemsToRemove.toNat).foldl
          (fun cache entry => cache.delete entry.1) world.inMemoryCache })

def setInMemory (key : String) (value : Json) (config : CacheConfig)
    (world : World) : Bool × World :=
  let entry : CacheEntry :=
    { data := value
      timestamp := world.now
      ttl := config.milliseconds
      tags := config.tagList
      accessCount := 0
      lastAccessed := world.now }
  cleanupMemoryCache { world with inMemoryCache := world.inMemoryCache.set key entry }

def deleteFromMemory (key : String) (world : World) : World :=
  { world with inMemoryCache := world.inMemoryCache.delete key }

/-! ### Redis -/

def getFromRedis (key : String) (world : World) :
    Except WrongType (Option Json) :=
  (world.redis.read world.now key).map (·.map RedisEntry.data)

/-- `sadd` for one tag; where it fails, the others are still added. -/
def addTag (key : String) (now : Date) (redis : Keyspace String RedisEntry Date)
    (tag : String) : Keyspace String RedisEntry Date :=
  match redis.sadd now (tagKey tag) key with
  | .ok added => added
  | .error _ => redis

def setInRedis (key : String) (value : Json) (config : CacheConfig) (world : World) : World :=
  let entry : RedisEntry :=
    { data := value
      timestamp := world.now
      tags := config.tagList }
  { world with
    redis := config.tagList.foldl (addTag key world.now)
      (world.redis.setex world.now key config.milliseconds entry) }

def getKeysByTags (tags : List String) (world : World) :
    Except WrongType (List String) := do
  let tagKeys ← tags.mapM fun tag => world.redis.smembers world.now (tagKey tag)
  pure tagKeys.flatten.eraseDups

/-! ### The operations -/

def recordHit (world : World) : World :=
  { world with metrics.hits := world.metrics.hits + 1 }

def recordMiss (world : World) : World :=
  { world with metrics.misses := world.metrics.misses + 1 }

def countRequest (world : World) : World :=
  { world with metrics.totalRequests := world.metrics.totalRequests + 1 }

/-- What counts as found: a value that counts as true. -/
def found (result : Option Json) : Option Json := result.filter fun value => truthy (some value)

/-- The half of `get` that asks Redis.  Whatever throws makes a miss. -/
def getBehindMemory (key : String) (config : Option CacheConfig) (world : World) : Json × World :=
  match getFromRedis key world with
  | .error _ => (.null, recordMiss world)
  | .ok result =>
    match found result with
    | none => (.null, recordMiss world)
    | some result =>
      let (returns, world) := setInMemory key result (config.getD .default) world
      if returns = true then (result, recordHit world)
      else (.null, recordMiss world)

def get (key : String) (config : Option CacheConfig) (world : World) :
    Json × World :=
  let (result, world) := getFromMemory key (countRequest world)
  match found result with
  | some result => (result, recordHit world)
  | none => getBehindMemory key config world

/-- What throws is logged. -/
def set (key : String) (value : Json) (config : CacheConfig) (world : World) :
    World :=
  (setInMemory key value config (setInRedis key value config world)).2

def delete (key : String) (world : World) : World :=
  deleteFromMemory key { world with redis := world.redis.del key }

def deleteByTags (tags : List String) (world : World) : World :=
  match getKeysByTags tags world with
  | .error _ => world
  | .ok keys => keys.foldl (fun world key => delete key world) world

def flush (world : World) : World :=
  { world with
    redis := .empty
    inMemoryCache := .empty }

end CacheService

/-! ### The calls -/

inductive CacheCall where
  | get (key : String) (config : Option CacheConfig)
  | set (key : String) (value : Json) (config : CacheConfig)
  | delete (key : String)
  | deleteByTags (tags : List String)
  | flush

/-- A call some milliseconds after the one before. -/
structure Timed where
  waited : ℕ
  call : CacheCall

def World.after (world : World) (milliseconds : ℕ) : World :=
  { world with now := world.now + milliseconds }

/-- One call, and what a `get` returns. -/
def World.step (world : World) (timed : Timed) : World × Option Json :=
  let world := world.after timed.waited
  match timed.call with
  | .get key config =>
    let (value, world) := CacheService.get key config world
    (world, some value)
  | .set key value config => (CacheService.set key value config world, none)
  | .delete key => (CacheService.delete key world, none)
  | .deleteByTags tags => (CacheService.deleteByTags tags world, none)
  | .flush => (CacheService.flush world, none)

/-- A cache that has not been used. -/
def unused (maxItems : Option ℤ) (now : Date) : World where
  inMemoryCache := .empty
  redis := .empty
  metrics := { hits := 0, misses := 0, totalRequests := 0 }
  maxItems
  now

end MarketX.Cache
