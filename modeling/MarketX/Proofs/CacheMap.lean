/-
Module: MarketX.Proofs.CacheMap
Purpose: The two tiers of the cache against a map whose entries have a time to
  live: exactly the replies of the map, as long as no read meets a value that
  counts as false or a copy in memory that has outlived Redis, no deletion by
  tags meets a key that has lost its tag, and no key is the name of a tag.
Trusted boundary: human-reviewed definition of TtlMap and Faithful
Main exports: Tagged, TtlMap, TtlMap.step, cache_refines_map
-/
import MarketX.Cache.CacheService
import MarketX.Effects.Runs

namespace MarketX.Cache

open Caching Numerals Effects CacheService

/-! ### The map -/

structure Tagged where
  value : Json
  tags : List String

/-- A map whose entries are dropped at the end of their time to live. -/
structure TtlMap where
  entries : Store String Tagged Date
  now : Date

namespace TtlMap

variable (map : TtlMap)

def after (milliseconds : ℕ) : TtlMap :=
  { map with now := map.now + milliseconds }

/-- The value that was set last, if it has not lapsed or been deleted. -/
def get (key : String) : Json :=
  ((map.entries.get map.now key).map Tagged.value).getD .null

def set (key : String) (value : Json) (config : CacheConfig) : TtlMap :=
  { map with
    entries := map.entries.set map.now key ⟨value, config.tagList⟩
      config.milliseconds }

def delete (key : String) : TtlMap :=
  { map with entries := map.entries.del key }

/-- Without the entries that were set with one of the tags. -/
def deleteByTags (tags : List String) : TtlMap :=
  { map with
    entries := fun key => (map.entries key).filter fun entry =>
      ∀ tag ∈ tags, tag ∉ entry.value.tags }

def flush : TtlMap :=
  { map with entries := .empty }

def step (timed : Timed) : TtlMap × Option Json :=
  let map := map.after timed.waited
  match timed.call with
  | .get key _ => (map, some (map.get key))
  | .set key value config => (map.set key value config, none)
  | .delete key => (map.delete key, none)
  | .deleteByTags tags => (map.deleteByTags tags, none)
  | .flush => (map.flush, none)

end TtlMap

/-! ### The calls that the tiers agree on -/

/-- The value under a key of Redis, with its deadline. -/
def World.stored (world : World) (key : String) :
    Option (Entry RedisEntry Date) := world.redis.textAt world.now key

def World.tagged (world : World) (tag : String) : List String :=
  world.redis.membersAt world.now (tagKey tag)

def World.HoldsSet (world : World) (key : String) : Prop := world.redis.membersAt world.now key ≠ []

/-- The value in Redis is `null` or counts as true, and can be copied to memory
(where the environment does not allow less than no entry there); and a copy in
memory that can still be read has not outlived it. -/
def World.Readable (world : World) (key : String) : Prop :=
  (∀ entry ∈ world.stored key, entry.value.data.isNull = true ∨
      truthy (some entry.value.data) = true ∧ ∀ maxItems ∈ world.maxItems, 0 ≤ maxItems) ∧
  ∀ copy ∈ world.inMemoryCache.get key,
    isExpired copy world.now = false → truthy (some copy.data) = true → (world.stored key).isSome

/-- What a call must not meet: a `get`, a key that cannot be read; a deletion
by tags, a key in the set of a tag that was set again without the tag; and any
other than a `get`, a key that is the name of the set of a tag. -/
def Faithful (before : World) (timed : Timed) : Prop :=
  let world := before.after timed.waited
  match timed.call with
  | .get key _ => world.Readable key
  | .set key _ config =>
    ¬ world.HoldsSet key ∧ ∀ tag ∈ config.tagList, tagKey tag ≠ key ∧
        (world.stored (tagKey tag)).isNone
  | .delete key => ¬ world.HoldsSet key
  | .deleteByTags tags =>
    ∀ tag ∈ tags, (world.stored (tagKey tag)).isNone ∧
      ∀ key ∈ world.tagged tag, ¬ world.HoldsSet key ∧
        ∀ entry ∈ world.stored key, ∃ tag ∈ tags, tag ∈ entry.value.tags
  | .flush => True

instance World.decidableReadable (world : World) :
    DecidablePred world.Readable := fun _ => inferInstanceAs (Decidable (_ ∧ _))

instance World.decidableHoldsSet (world : World) :
    DecidablePred world.HoldsSet := fun key =>
  inferInstanceAs (Decidable (world.redis.membersAt world.now key ≠ []))

instance Faithful.decidable (before : World) :
    ∀ timed, Decidable (Faithful before timed)
  | ⟨waited, .get key _⟩ => World.decidableReadable (before.after waited) key
  | ⟨_, .set _ _ _⟩ => inferInstanceAs (Decidable (_ ∧ _))
  | ⟨waited, .delete key⟩ => inferInstanceAs (Decidable (¬ (before.after waited).HoldsSet key))
  | ⟨_, .deleteByTags tags⟩ => inferInstanceAs (Decidable (∀ tag ∈ tags, _))
  | ⟨_, .flush⟩ => inferInstanceAs (Decidable True)

/-! ### The map behind the tiers -/

def RedisEntry.tagged (entry : RedisEntry) : Tagged :=
  ⟨entry.data, entry.tags⟩

/-- Redis holds what the map holds and finds it by its tags, and memory has no
other value for it. -/
structure Mirrors (world : World) (map : TtlMap) : Prop where
  now : world.now = map.now
  stored : ∀ key, map.entries.entry map.now key = (world.stored key).map fun entry =>
      ⟨entry.value.tagged, entry.expiresAt⟩
  lasting : world.redis.Lasting
  tagged : ∀ key, ∀ entry ∈ world.stored key, ∀ tag ∈ entry.value.tags, key ∈ world.tagged tag
  memory : ∀ key, ∀ copy ∈ world.inMemoryCache.get key,
    ∀ entry ∈ world.stored key, copy.data = entry.value.data

theorem Mirrors.get_eq {world : World} {map : TtlMap} (mirrors : Mirrors world map) (key : String) :
    map.get key = ((world.stored key).map fun entry => entry.value.data).getD .null := by
  rw [TtlMap.get, Store.get_eq_map_entry, mirrors.stored]
  cases world.stored key <;> rfl

theorem Mirrors.after {world : World} {map : TtlMap} (mirrors : Mirrors world map) (waited : ℕ) :
    Mirrors (world.after waited) (map.after waited) := by
  have passed : world.now ≤ world.now + waited := by lia
  have stored (key : String) : (world.after waited).stored key =
      (world.stored key).filter fun entry =>
        entry.Live (world.now + waited) := Keyspace.textAt_of_le passed
  have before {key : String} {entry : Entry RedisEntry Date}
      (found : entry ∈ (world.after waited).stored key) :
      entry ∈ world.stored key := by simp_all
  constructor
  · show world.now + waited = map.now + waited
    rw [mirrors.now]
  · intro key
    have later : map.entries.entry (map.now + waited) key =
        (map.entries.entry map.now key).filter fun entry =>
          entry.Live (map.now + waited) := Store.entry_of_le (mirrors.now ▸ passed)
    rw [stored]
    show map.entries.entry (map.now + waited) key = _
    rw [later, mirrors.stored, mirrors.now]
    cases world.stored key with
    | none => rfl
    | some entry =>
      have same : Entry.Live (τ := Date) ⟨entry.value.tagged, entry.expiresAt⟩ (map.now + waited) ↔
            entry.Live (map.now + waited) := Iff.rfl
      by_cases live : entry.Live (map.now + waited) <;> simp [Option.filter, same, live]
  · exact mirrors.lasting
  · intro key entry found tag inside
    exact mirrors.lasting.mem_membersAt (mirrors.tagged key entry (before found) tag inside)
  · intro key copy inMemory entry found
    exact mirrors.memory key copy inMemory entry (before found)

/-! ### What an operation does to memory -/

/-- Memory holds nothing else for a key than before, or than a value. -/
def HoldsAtMost (world after : World) (key : String) (value : Json) : Prop :=
  ∀ other, ∀ copy ∈ after.inMemoryCache.get other, (other = key ∧ copy.data = value) ∨
      (other ≠ key ∧ copy ∈ world.inMemoryCache.get other)

theorem get_foldl_delete {entries : List (String × CacheEntry)}
    {cache : OrderedMap String CacheEntry} {key : String} {copy : CacheEntry}
    (found : (entries.foldl (fun cache entry => cache.delete entry.1)
      cache).get key = some copy) : cache.get key = some copy := by
  induction entries generalizing cache <;> grind [OrderedMap.get_of_get_delete]

theorem cleanupMemoryCache_spec (world : World) :
    ((∀ maxItems ∈ world.maxItems, 0 ≤ maxItems) → (cleanupMemoryCache world).1 = true) ∧
      (cleanupMemoryCache world).2.redis = world.redis ∧
      (cleanupMemoryCache world).2.now = world.now ∧
      ∀ key, ∀ copy ∈ (cleanupMemoryCache world).2.inMemoryCache.get key,
        copy ∈ world.inMemoryCache.get key := by
  rw [cleanupMemoryCache]
  cases limit : world.maxItems with
  | none => exact ⟨fun _ => rfl, rfl, rfl, fun _ _ => id⟩
  | some maxItems =>
    dsimp only
    split
    next => exact ⟨fun _ => rfl, rfl, rfl, fun _ _ => id⟩
    next =>
      refine ⟨fun nonnegative => ?_, rfl, rfl, fun _ _ => get_foldl_delete⟩
      have length : (byAccess world.inMemoryCache).length =
          world.inMemoryCache.size := List.length_insertionSort ..
      simp_all

theorem setInMemory_spec (key : String) (value : Json) (config : CacheConfig) (world : World) :
    ((∀ maxItems ∈ world.maxItems, 0 ≤ maxItems) → (setInMemory key value config world).1 = true) ∧
      (setInMemory key value config world).2.redis = world.redis ∧
      (setInMemory key value config world).2.now = world.now ∧
      HoldsAtMost world (setInMemory key value config world).2 key value := by
  rw [setInMemory]
  obtain ⟨returns, redis, now, kept⟩ := cleanupMemoryCache_spec
    { world with
      inMemoryCache := world.inMemoryCache.set key
        { data := value
          timestamp := world.now
          ttl := config.milliseconds
          tags := config.tagList
          accessCount := 0
          lastAccessed := world.now } }
  refine ⟨returns, redis, now, fun other copy found => ?_⟩
  have placed := kept other copy found
  by_cases same : other = key
  · grind [OrderedMap.get_set_self]
  · grind [OrderedMap.get_set_of_ne]

theorem getFromMemory_spec (key : String) (world : World) :
    (getFromMemory key world).2.redis = world.redis ∧ (getFromMemory key world).2.now = world.now ∧
      (getFromMemory key world).2.maxItems = world.maxItems ∧
      (∀ value, (getFromMemory key world).1 = some value → ∃ copy ∈ world.inMemoryCache.get key,
          isExpired copy world.now = false ∧ copy.data = value) ∧
      ∀ other, ∀ copy ∈ (getFromMemory key world).2.inMemoryCache.get other,
        ∃ old ∈ world.inMemoryCache.get other, old.data = copy.data := by
  rw [getFromMemory]
  cases stored : world.inMemoryCache.get key with
  | none => exact ⟨rfl, rfl, rfl, by intros; contradiction, fun _ copy found => ⟨copy, found, rfl⟩⟩
  | some entry =>
    dsimp only
    split
    next =>
      exact ⟨rfl, rfl, rfl, by intros; contradiction, fun _ copy found =>
        ⟨copy, OrderedMap.get_of_get_delete found, rfl⟩⟩
    next fresh =>
      refine ⟨rfl, rfl, rfl, fun value read => ?_, fun other copy found => ?_⟩
      · simp_all
      · by_cases same : other = key <;> grind [OrderedMap.get_set_self, OrderedMap.get_set_of_ne]

section

variable {world after : World} {map : TtlMap}

/-- Redis and the clock are as they were, and memory has values that it had or
that Redis has. -/
theorem Mirrors.of_memory (mirrors : Mirrors world map)
    (redis : after.redis = world.redis) (now : after.now = world.now)
    (memory : ∀ key, ∀ copy ∈ after.inMemoryCache.get key,
      (∃ old ∈ world.inMemoryCache.get key, old.data = copy.data) ∨
        ∃ entry ∈ world.stored key, entry.value.data = copy.data) :
    Mirrors after map := by
  have stored : after.stored = world.stored := by
    funext key
    rw [World.stored, redis, now, World.stored]
  have tagged : after.tagged = world.tagged := by
    funext tag
    rw [World.tagged, redis, now, World.tagged]
  constructor
  · rw [now]
    exact mirrors.now
  · rw [stored]
    exact mirrors.stored
  · rw [redis]
    exact mirrors.lasting
  · rw [stored, tagged]
    exact mirrors.tagged
  · intro key copy found entry there
    rw [stored] at there
    grind [memory, Option.mem_unique]

/-! ### Reading -/

theorem found_eq_some {result : Option Json} {value : Json} :
    found result = some value ↔ result = some value ∧ truthy (some value) = true := by
  rw [found, Option.filter_eq_some_iff]

theorem mirrors_getBehindMemory (mirrors : Mirrors world map) {key : String}
    (config : Option CacheConfig) (values : ∀ entry ∈ world.stored key,
      entry.value.data.isNull = true ∨ truthy (some entry.value.data) = true ∧
          ∀ maxItems ∈ world.maxItems, 0 ≤ maxItems) :
    Mirrors (getBehindMemory key config world).2 map ∧
      (getBehindMemory key config world).1 = map.get key := by
  have unchanged (metrics : CacheMetrics) :
      Mirrors { world with metrics := metrics } map :=
    mirrors.of_memory rfl rfl fun _ copy found => .inl ⟨copy, found, rfl⟩
  rw [mirrors.get_eq, getBehindMemory, getFromRedis]
  cases stored : world.stored key with
  | none =>
    rcases Keyspace.read_of_textAt_none stored with missing | ⟨error, wrong⟩
    · rw [missing]
      exact ⟨unchanged _, rfl⟩
    · rw [wrong]
      exact ⟨unchanged _, rfl⟩
  | some entry =>
    rw [Keyspace.read_of_textAt stored]
    simp only [Except.map, Option.map_some, Option.getD_some]
    rcases values entry stored with null | ⟨valued, nonnegative⟩
    · have absent : entry.value.data = .null := Json.eq_null_of_isNull null
      have nothing : found (some entry.value.data) = none := by
        rw [absent]
        rfl
      rw [nothing]
      exact ⟨unchanged _, absent.symm⟩
    · rw [found_eq_some.mpr ⟨rfl, valued⟩]
      obtain ⟨returns, redis, now, copies⟩ := setInMemory_spec key
        entry.value.data (config.getD .default) world
      dsimp only
      rw [if_pos (returns nonnegative)]
      refine ⟨mirrors.of_memory redis now fun other copy there => ?_, rfl⟩
      rcases copies other copy there with ⟨rfl, same⟩ | ⟨-, old⟩ <;> simp_all

theorem mirrors_get (mirrors : Mirrors world map) {key : String}
    (config : Option CacheConfig) (readable : world.Readable key) :
    Mirrors (CacheService.get key config world).2 map ∧
      (CacheService.get key config world).1 = map.get key := by
  obtain ⟨values, copies⟩ := readable
  obtain ⟨redis, now, maxItems, read, memory⟩ := getFromMemory_spec key (countRequest world)
  have kept : Mirrors (getFromMemory key (countRequest world)).2 map :=
    mirrors.of_memory redis now fun other copy found => .inl (memory other copy found)
  rw [CacheService.get]
  dsimp only
  cases inMemory : found (getFromMemory key (countRequest world)).1 with
  | some value =>
    obtain ⟨reads, valued⟩ := found_eq_some.mp inMemory
    obtain ⟨copy, there, fresh, rfl⟩ := read value reads
    obtain ⟨entry, stored⟩ := Option.isSome_iff_exists.mp (copies copy there fresh valued)
    refine ⟨kept.of_memory rfl rfl fun _ copy found => .inl ⟨copy, found, rfl⟩, ?_⟩
    rw [mirrors.get_eq, stored]
    exact mirrors.memory key copy there entry stored
  | none =>
    refine mirrors_getBehindMemory kept config fun entry stored => ?_
    rw [World.stored, redis, now] at stored
    rw [maxItems]
    exact values entry stored

theorem get_eq_iff (mirrors : Mirrors world map) {key : String} (config : Option CacheConfig)
    (nonnegative : ∀ maxItems ∈ world.maxItems, 0 ≤ maxItems) :
    (CacheService.get key config world).1 = map.get key ↔
      world.Readable key := by
  refine ⟨fun same => ?_, fun readable =>
    (mirrors_get mirrors config readable).2⟩
  rw [mirrors.get_eq, CacheService.get] at same
  dsimp only at same
  obtain ⟨redis, now, -, read, -⟩ := getFromMemory_spec key (countRequest world)
  refine ⟨fun entry stored => ?_, fun copy there fresh valued => ?_⟩
  · by_cases valued : truthy (some entry.value.data) = true
    · exact .inr ⟨valued, nonnegative⟩
    · have unread : found (getFromMemory key (countRequest world)).1 = none := by
        rw [Option.eq_none_iff_forall_ne_some]
        intro value inMemory
        obtain ⟨reads, counts⟩ := found_eq_some.mp inMemory
        simp_all
      have text : (getFromMemory key (countRequest world)).2.stored key =
          some entry := by
        rw [World.stored, redis, now]
        exact stored
      rw [unread] at same
      rw [getBehindMemory, getFromRedis, Keyspace.read_of_textAt text,
        Option.mem_def.mp stored] at same
      simp only [Except.map, Option.map_some, Option.getD_some, found,
        Option.filter_some, if_neg valued] at same
      exact .inl (by rw [← same]; rfl)
  · have reads : found (getFromMemory key (countRequest world)).1 =
        some copy.data := by
      have memory : (countRequest world).inMemoryCache.get key = some copy := there
      have unexpired : isExpired copy (countRequest world).now = false := fresh
      rw [getFromMemory, memory]
      simp only [unexpired]
      exact found_eq_some.mpr ⟨rfl, valued⟩
    rw [reads] at same
    cases stored : world.stored key with
    | some entry => rfl
    | none =>
      rw [stored] at same
      have null : copy.data = .null := same
      rw [null] at valued
      cases valued

/-! ### Writing -/

/-- A key is added to the sets of its tags, where none of them holds a
value. -/
theorem addTags_spec (key : String) (now : Date) (tags : List String)
    (redis : Keyspace String RedisEntry Date)
    (free : ∀ tag ∈ tags, redis.textAt now (tagKey tag) = none) :
    (∀ other, (tags.foldl (addTag key now) redis).textAt now other = redis.textAt now other) ∧
      (∀ other, ∀ member ∈ redis.membersAt now other,
        member ∈ (tags.foldl (addTag key now) redis).membersAt now other) ∧ (∀ tag ∈ tags, key ∈
        (tags.foldl (addTag key now) redis).membersAt now (tagKey tag)) ∧
      (redis.Lasting → (tags.foldl (addTag key now) redis).Lasting) := by
  induction tags generalizing redis with
  | nil => exact ⟨fun _ => rfl, fun _ _ => id, List.forall_mem_nil _, id⟩
  | cons tag tags ih =>
    obtain ⟨here, others⟩ := List.forall_mem_cons.mp free
    rcases Keyspace.sadd_cases redis now (tagKey tag) key with
      ⟨text, -⟩ | ⟨after, adds, added⟩
    · rw [here] at text
      cases text
    · have step : addTag key now redis tag = after := by rw [addTag, adds]
      obtain ⟨text, kept, members, lasting⟩ := ih after fun other member => by
          rw [added.text]
          exact others other member
      rw [List.foldl_cons, step]
      refine ⟨fun other => (text other).trans (added.text other),
        fun other member inside => kept other member (added.kept other member inside),
        List.forall_mem_cons.mpr ⟨kept _ key added.added, members⟩,
        fun lasts => lasting (added.lasting lasts)⟩

theorem mirrors_set (mirrors : Mirrors world map) {key : String} (value : Json)
    {config : CacheConfig} (free : ¬ world.HoldsSet key)
    (apart : ∀ tag ∈ config.tagList, tagKey tag ≠ key ∧ (world.stored (tagKey tag)).isNone) :
    Mirrors (CacheService.set key value config world) (map.set key value config) := by
  have positive : (0 : Date) < config.milliseconds := by
    have := config.ttl.pos
    rw [CacheConfig.milliseconds]
    lia
  have ahead : world.now < world.now + config.milliseconds := by lia
  let entry : RedisEntry := ⟨value, world.now, config.tagList⟩
  let written := world.redis.setex world.now key config.milliseconds entry
  have self : written.textAt world.now key = some ⟨entry, some (world.now + config.milliseconds)⟩ :=
    Keyspace.textAt_setex_self positive.ne' ahead
  have textElsewhere {other : String} (distinct : other ≠ key) :
      written.textAt world.now other = world.stored other :=
    Keyspace.textAt_congr (Store.set_of_ne distinct)
  have membersElsewhere {other : String} (distinct : other ≠ key) :
      written.membersAt world.now other =
        world.redis.membersAt world.now other := Keyspace.membersAt_congr (Store.set_of_ne distinct)
  obtain ⟨text, kept, members, lasting⟩ := addTags_spec key world.now
    config.tagList written fun tag inside => by
      rw [textElsewhere (apart tag inside).1]
      exact Option.isNone_iff_eq_none.mp (apart tag inside).2
  obtain ⟨-, redis, now, copies⟩ := setInMemory_spec key value config
    (setInRedis key value config world)
  have stored (other : String) :
      (CacheService.set key value config world).stored other =
        if other = key then some ⟨entry, some (world.now + config.milliseconds)⟩
        else world.stored other := by
    rw [World.stored, CacheService.set, redis, now]
    refine (text other).trans ?_
    grind
  constructor
  · exact now.trans mirrors.now
  · intro other
    show Store.entry (map.entries.set map.now key ⟨value, config.tagList⟩
      config.milliseconds) map.now other = _
    rw [stored, ← mirrors.now]
    split
    next same =>
      rw [same, Store.entry_set_self positive.ne' ahead]
      rfl
    next distinct =>
      rw [Store.entry_congr (Store.set_of_ne distinct), mirrors.now]
      exact mirrors.stored other
  · rw [CacheService.set, redis]
    exact lasting (Keyspace.lasting_setex mirrors.lasting)
  · intro other found there tag inside
    rw [stored] at there
    rw [World.tagged, CacheService.set, redis, now]
    split at there
    next same =>
      cases there
      rw [same]
      exact members tag inside
    next distinct =>
      have before := mirrors.tagged other found there tag inside
      have apart : tagKey tag ≠ key := by
        intro same
        rw [World.tagged, same] at before
        exact free (List.ne_nil_of_mem before)
      refine kept (tagKey tag) other ?_
      rw [membersElsewhere apart]
      exact before
  · intro other copy there found inRedis
    rw [stored] at inRedis
    rcases copies other copy there with ⟨rfl, same⟩ | ⟨distinct, old⟩
    · rw [if_pos rfl] at inRedis
      cases inRedis
      exact same
    · rw [if_neg distinct] at inRedis
      exact mirrors.memory other copy old found inRedis

/-! ### Deleting -/

theorem deleteAll_spec (keys : List String) (world : World) :
    (keys.foldl (fun world key => delete key world) world).now = world.now ∧ (∀ other,
        (keys.foldl (fun world key => delete key world) world).stored other =
          if other ∈ keys then none else world.stored other) ∧ (∀ other, other ∉ keys →
        (keys.foldl (fun world key => delete key world) world).redis.membersAt
          world.now other = world.redis.membersAt world.now other) ∧ (world.redis.Lasting →
        (keys.foldl (fun world key => delete key world) world).redis.Lasting) ∧
      ∀ other, ∀ copy ∈ (keys.foldl (fun world key => delete key world)
          world).inMemoryCache.get other, copy ∈ world.inMemoryCache.get other := by
  induction keys generalizing world with
  | nil => exact ⟨rfl, fun _ => rfl, fun _ _ => rfl, id, fun _ _ => id⟩
  | cons key keys ih =>
    obtain ⟨now, stored, members, lasting, memory⟩ := ih (delete key world)
    refine ⟨now, fun other => ?_, fun other kept => ?_, fun lasts => ?_, fun other copy found => ?_⟩
    · rw [List.foldl_cons, stored, World.stored, CacheService.delete,
        deleteFromMemory, Keyspace.textAt_del]
      by_cases same : other = key
      · simp [same]
      · simp only [same, if_false, List.mem_cons, false_or]
        rfl
    · have apart := not_or.mp (mt List.mem_cons.mpr kept)
      refine (members other apart.2).trans ?_
      show Keyspace.membersAt (world.redis.del key) world.now other = _
      rw [Keyspace.membersAt_del, if_neg apart.1]
    · exact lasting (Keyspace.lasting_del lasts)
    · exact OrderedMap.get_of_get_delete (memory other copy found)

theorem mirrors_deleteAll (mirrors : Mirrors world map) (keys : List String)
    (free : ∀ key ∈ keys, ¬ world.HoldsSet key) {fewer : TtlMap} (now : fewer.now = map.now)
    (entries : ∀ other, fewer.entries.entry map.now other =
      if other ∈ keys then none else map.entries.entry map.now other) :
    Mirrors (keys.foldl (fun world key => delete key world) world) fewer := by
  obtain ⟨same, stored, members, lasting, memory⟩ := deleteAll_spec keys world
  constructor
  · rw [same, now]
    exact mirrors.now
  · intro other
    rw [now, entries, stored]
    split
    next => rfl
    next => exact mirrors.stored other
  · exact lasting mirrors.lasting
  · intro other entry found tag inside
    rw [stored] at found
    split at found
    next => cases found
    next =>
      have before := mirrors.tagged other entry found tag inside
      have kept : tagKey tag ∉ keys := fun deleted => free _ deleted (List.ne_nil_of_mem before)
      rw [World.tagged, same, members _ kept]
      exact before
  · intro other copy found entry there
    rw [stored] at there
    split at there
    next => cases there
    next => exact mirrors.memory other copy (memory other copy found) entry there

theorem mirrors_delete (mirrors : Mirrors world map) {key : String} (free : ¬ world.HoldsSet key) :
    Mirrors (CacheService.delete key world) (map.delete key) := by
  refine mirrors_deleteAll mirrors [key]
    (fun other member => List.mem_singleton.mp member ▸ free) rfl fun other => ?_
  show Store.entry (map.entries.del key) map.now other = _
  split <;> simp_all [Store.entry, Store.del_of_ne]

theorem mapM_of_forall {ε α β : Type} {each : α → Except ε β} {value : α → β}
    {items : List α} (returns : ∀ item ∈ items, each item = .ok (value item)) :
    items.mapM each = .ok (items.map value) := by
  induction items with
  | nil => rfl
  | cons head tail ih =>
    obtain ⟨first, others⟩ := List.forall_mem_cons.mp returns
    rw [List.mapM_cons, first, ih others]
    rfl

theorem mirrors_deleteByTags (mirrors : Mirrors world map) {tags : List String}
    (current : ∀ tag ∈ tags, (world.stored (tagKey tag)).isNone ∧
      ∀ key ∈ world.tagged tag, ¬ world.HoldsSet key ∧
        ∀ entry ∈ world.stored key, ∃ tag ∈ tags, tag ∈ entry.value.tags) :
    Mirrors (CacheService.deleteByTags tags world) (map.deleteByTags tags) := by
  have sets : getKeysByTags tags world =
      .ok (tags.map world.tagged).flatten.eraseDups := by
    rw [getKeysByTags, mapM_of_forall fun tag member =>
      Keyspace.smembers_of_textAt_none (Option.isNone_iff_eq_none.mp (current tag member).1)]
    rfl
  have listed {key : String} :
      key ∈ (tags.map world.tagged).flatten.eraseDups ↔
        ∃ tag ∈ tags, key ∈ world.tagged tag := by simp
  rw [CacheService.deleteByTags, sets]
  refine mirrors_deleteAll mirrors _ (fun key member => ?_) rfl fun other => ?_
  · grind
  · have filtered : (map.deleteByTags tags).entries.entry map.now other =
        (map.entries.entry map.now other).filter fun entry =>
          ∀ tag ∈ tags, tag ∉ entry.value.tags := by
      show Option.filter _ (Option.filter _ (map.entries other)) =
        Option.filter _ (Option.filter _ (map.entries other))
      simp [Bool.and_comm]
    rw [filtered, mirrors.stored]
    cases stored : world.stored other with
    | none => split <;> rfl
    | some entry =>
      have lost : other ∈ (tags.map world.tagged).flatten.eraseDups ↔
          ∃ tag ∈ tags, tag ∈ entry.value.tags := by
        rw [listed]
        constructor
        · rintro ⟨tag, asked, inside⟩
          exact ((current tag asked).2 other inside).2 entry stored
        · rintro ⟨tag, asked, carries⟩
          exact ⟨tag, asked, mirrors.tagged other entry stored tag carries⟩
      by_cases deleted : other ∈ (tags.map world.tagged).flatten.eraseDups
      · obtain ⟨tag, asked, carries⟩ := lost.mp deleted
        rw [if_pos deleted, Option.map_some, Option.filter_some, if_neg]
        rw [decide_eq_true_eq]
        exact fun none => none tag asked carries
      · rw [if_neg deleted, Option.map_some, Option.filter_some, if_pos]
        rw [decide_eq_true_eq]
        exact fun tag asked carries => deleted (lost.mpr ⟨tag, asked, carries⟩)

theorem mirrors_flush (mirrors : Mirrors world map) :
    Mirrors (CacheService.flush world) map.flush where
  now := mirrors.now
  stored _ := rfl
  lasting _ _ _ stored := nomatch stored
  tagged _ _ found := nomatch found
  memory _ _ found := nomatch found

theorem mirrors_step (mirrors : Mirrors world map) {timed : Timed}
    (faithful : Faithful world timed) :
    Mirrors (world.step timed).1 (map.step timed).1 ∧
      (world.step timed).2 = (map.step timed).2 := by
  have later := mirrors.after timed.waited
  obtain ⟨waited, call⟩ := timed
  cases call with
  | get key config =>
    obtain ⟨kept, same⟩ := mirrors_get later config faithful
    exact ⟨kept, congrArg some same⟩
  | set key value config => exact ⟨mirrors_set later value faithful.1 faithful.2, rfl⟩
  | delete key => exact ⟨mirrors_delete later faithful, rfl⟩
  | deleteByTags tags => exact ⟨mirrors_deleteByTags later faithful, rfl⟩
  | flush => exact ⟨mirrors_flush later, rfl⟩

end

theorem mirrors_unused (maxItems : Option ℤ) (now : Date) :
    Mirrors (unused maxItems now) ⟨.empty, now⟩ where
  now := rfl
  stored _ := rfl
  lasting _ _ _ stored := nomatch stored
  tagged _ _ found := nomatch found
  memory _ _ found := nomatch found

def Timed.isGet (timed : Timed) : Bool :=
  match timed.call with
  | .get _ _ => true
  | _ => false

/-- In every sequence of calls of which none meets what it must not, every
`get` returns what the map returns. -/
theorem cache_refines_map (maxItems : Option ℤ) (now : Date) (calls : List Timed)
    (along : Along (advance World.step) Faithful (unused maxItems now) calls) :
    outputs World.step Timed.isGet (unused maxItems now) calls =
      outputs TtlMap.step Timed.isGet ⟨.empty, now⟩ calls := outputs_simulated Mirrors
    (fun _ _ _ mirrors faithful =>
      have ⟨kept, same⟩ := mirrors_step mirrors faithful
      ⟨kept, fun _ => same⟩)
    (mirrors_unused maxItems now) along

/-! ### One key -/

def oneSecond : CacheConfig where
  ttl := 1
  tags := some ["tag"]

/-- A value is read until its second is over or its tag is deleted. -/
theorem true_value_read :
    let calls : List Timed := [⟨0, .set "key" (.bool true) oneSecond⟩, ⟨999, .get "key" none⟩,
        ⟨2, .get "key" none⟩, ⟨0, .set "key" (.bool true) oneSecond⟩,
        ⟨0, .deleteByTags ["tag"]⟩, ⟨0, .get "key" none⟩]
    outputs World.step Timed.isGet (unused (some 1000) 0) calls =
      outputs TtlMap.step Timed.isGet ⟨.empty, 0⟩ calls :=
  cache_refines_map (some 1000) 0 _ (by decide)

/-- The value `false` that has just been set is not found. -/
theorem false_value_missed :
    let calls : List Timed := [⟨0, .set "key" (.bool false) .default⟩, ⟨0, .get "key" none⟩]
    outputs World.step Timed.isGet (unused (some 1000) 0) calls = [some .null] ∧
      outputs TtlMap.step Timed.isGet ⟨.empty, 0⟩ calls = [some (.bool false)] := by
  exact ⟨rfl, rfl⟩

end MarketX.Cache
