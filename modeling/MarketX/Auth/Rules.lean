/-
Module: MarketX.Auth.Rules
Purpose: What the cache says of the refresh tokens at any time, and what
  storing a token, invalidating one and invalidating all of a user make of it.
Trusted boundary: human-reviewed definition of Accepts and tokensAt
Main exports: Accepts, tokensAt, tokenKey_injective, Accepts.of_le, World.stored
-/
import Mathlib.Data.List.Basic
import MarketX.Auth.TokenRegistryService

namespace MarketX.Auth

open Effects Caching TokenRegistryService

/-! ### Keys -/

theorem split_at_colon {front front' back back' : List Char}
    (free : ':' ∉ front) (free' : ':' ∉ front')
    (same : front ++ ':' :: back = front' ++ ':' :: back') :
    front = front' ∧ back = back' := by
  have places := congrArg (List.idxOf ':') same
  grind [List.append_inj]

theorem tokenKey_toList (userId : UserId) (token : String) :
    (tokenKey userId token).toList = 'r' :: ("efresh_token:".toList ++
        (userId.text.toList ++ ':' :: token.toList)) := by
  show ("refresh_token:" ++ userId.text ++ ":" ++ token).toList = _
  rw [String.toList_append, String.toList_append, String.toList_append, List.append_assoc,
    List.append_assoc]
  rfl

theorem userTokensKey_toList (userId : UserId) :
    (userTokensKey userId).toList =
      'u' :: ("ser_refresh_tokens:".toList ++ userId.text.toList) := by
  show ("user_refresh_tokens:" ++ userId.text).toList = _
  rw [String.toList_append]
  rfl

theorem tokenKey_injective {userId other : UserId} {token old : String}
    (same : tokenKey userId token = tokenKey other old) :
    userId = other ∧ token = old := by
  have lists := congrArg String.toList same
  rw [tokenKey_toList, tokenKey_toList] at lists
  obtain ⟨users, tokens⟩ := split_at_colon userId.colonFree other.colonFree
    (List.append_cancel_left (List.cons.inj lists).2)
  exact ⟨UserId.ext (String.toList_injective users), String.toList_injective tokens⟩

theorem userTokensKey_injective : Function.Injective userTokensKey := by
  intro userId other same
  have lists := congrArg String.toList same
  rw [userTokensKey_toList, userTokensKey_toList] at lists
  exact UserId.ext (String.toList_injective (List.append_cancel_left (List.cons.inj lists).2))

theorem tokenKey_ne_userTokensKey (userId other : UserId) (token : String) :
    tokenKey userId token ≠ userTokensKey other := by
  intro same
  have lists := congrArg String.toList same
  rw [tokenKey_toList, userTokensKey_toList] at lists
  exact absurd (List.cons.inj lists).1 (by decide)

/-! ### Readings -/

variable {world : World} {time : Date} {userId other : UserId} {token old : String}

/-- At a time, if nobody writes until then, the token is accepted. -/
def Accepts (world : World) (time : Date) (userId : UserId) (token : String) : Prop :=
  (world.cache.get time (tokenKey userId token)).isSome = true

instance : Decidable (Accepts world time userId token) := inferInstanceAs (Decidable (_ = true))

/-- The list of the user's tokens at a time. -/
def tokensAt (world : World) (time : Date) (userId : UserId) : List String :=
  tokensOf (world.cache.get time (userTokensKey userId))

theorem Accepts.of_le {later : Date}
    (accepts : Accepts world later userId token) (passed : time ≤ later) :
    Accepts world time userId token := by
  obtain ⟨value, found⟩ := Option.isSome_iff_exists.mp accepts
  rw [Accepts, Store.get_some_of_le found passed]
  rfl

theorem get_withEntry (key : String) (value : CacheValue) :
    (world.withEntry key value ttl).cache.get time key =
      if time < world.now + ttl then some value else none := Store.get_set_self (by decide)

theorem accepts_congr {after : World} (same : after.cache.get time (tokenKey userId token) =
      world.cache.get time (tokenKey userId token)) :
    Accepts after time userId token ↔ Accepts world time userId token := by
  rw [Accepts, same, Accepts]

/-! ### Writing under the key of a token -/

theorem accepts_withEntry :
    Accepts (world.withEntry (tokenKey userId token) .active ttl) time other old ↔
      if other = userId ∧ old = token then time < world.now + ttl
      else Accepts world time other old := by
  split
  next same => simp_all [Accepts, get_withEntry]
  next distinct =>
    have keys : tokenKey other old ≠ tokenKey userId token :=
      fun same => distinct (tokenKey_injective same)
    exact accepts_congr (Store.get_set_of_ne keys)

theorem tokensAt_withEntry :
    tokensAt (world.withEntry (tokenKey userId token) .active ttl) time
        other = tokensAt world time other := congrArg tokensOf
    (Store.get_set_of_ne (tokenKey_ne_userTokensKey userId other token).symm)

theorem accepts_withoutEntry :
    Accepts (world.withoutEntry (tokenKey userId token)) time other old ↔
      ¬ (other = userId ∧ old = token) ∧ Accepts world time other old := by
  by_cases same : other = userId ∧ old = token
  · obtain ⟨rfl, rfl⟩ := same
    simp [Accepts, World.withoutEntry]
  · have keys : tokenKey other old ≠ tokenKey userId token :=
      fun equal => same (tokenKey_injective equal)
    rw [and_iff_right same]
    exact accepts_congr (Store.get_del_of_ne keys)

theorem tokensAt_withoutEntry :
    tokensAt (world.withoutEntry (tokenKey userId token)) time other =
      tokensAt world time other := congrArg tokensOf
    (Store.get_del_of_ne (tokenKey_ne_userTokensKey userId other token).symm)

/-! ### Writing under the key of a user -/

theorem accepts_withList {tokens : List String} :
    Accepts (world.withEntry (userTokensKey userId) (.tokens tokens) ttl)
        time other old ↔ Accepts world time other old := accepts_congr
    (Store.get_set_of_ne (tokenKey_ne_userTokensKey other userId old))

theorem tokensAt_withList {tokens : List String} :
    tokensAt (world.withEntry (userTokensKey userId) (.tokens tokens) ttl) time other =
      if other = userId then
        if time < world.now + ttl then tokens else []
      else tokensAt world time other := by
  split
  next same =>
    subst same
    rw [tokensAt, get_withEntry]
    split <;> rfl
  next distinct =>
    have keys : userTokensKey other ≠ userTokensKey userId :=
      fun same => distinct (userTokensKey_injective same)
    exact congrArg tokensOf (Store.get_set_of_ne keys)

theorem accepts_withoutList :
    Accepts (world.withoutEntry (userTokensKey userId)) time other old ↔
      Accepts world time other old := accepts_congr
    (Store.get_del_of_ne (tokenKey_ne_userTokensKey other userId old))

theorem tokensAt_withoutList :
    tokensAt (world.withoutEntry (userTokensKey userId)) time other =
      if other = userId then [] else tokensAt world time other := by
  split
  next same =>
    subst same
    exact congrArg tokensOf Store.get_del_self
  next distinct =>
    have keys : userTokensKey other ≠ userTokensKey userId :=
      fun same => distinct (userTokensKey_injective same)
    exact congrArg tokensOf (Store.get_del_of_ne keys)

/-! ### The lists cover the tokens -/

/-- From now on, whenever a token is accepted, it is in the list of its user
or still to be put there; and no token is accepted for more than seven
days. -/
structure Kept (world : World) (pending : UserId → String → Prop) :
    Prop where
  listed : ∀ userId token time, world.now ≤ time → Accepts world time userId token →
      token ∈ tokensAt world time userId ∨ pending userId token
  bounded : ∀ userId token time, Accepts world time userId token → time < world.now + ttl

section

variable {pending later : UserId → String → Prop}

theorem Kept.mono (kept : Kept world pending)
    (more : ∀ other old, pending other old → later other old) :
    Kept world later :=
  ⟨fun userId token time after accepts =>
    (kept.listed userId token time after accepts).imp_right (more userId token), kept.bounded⟩

theorem Kept.elapsed (kept : Kept world pending) {now : Date}
    (passed : world.now ≤ now) : Kept { world with now } pending := by
  constructor
  · exact fun userId token time after => kept.listed userId token time (passed.trans after)
  · intro userId token time accepts
    exact (kept.bounded userId token time accepts).trans_le (Int.add_le_add_right passed ttl)

theorem Kept.stored (kept : Kept world pending)
    (more : ∀ other old, pending other old ∨ other = userId ∧ old = token → later other old) :
    Kept (world.withEntry (tokenKey userId token) .active ttl) later := by
  constructor
  · intro other old time after accepts
    rw [accepts_withEntry] at accepts
    by_cases same : other = userId ∧ old = token
    · exact .inr (more other old (.inr same))
    · rw [if_neg same] at accepts
      rcases kept.listed other old time after accepts with listed | waits
      · exact .inl listed
      · exact .inr (more other old (.inl waits))
  · intro other old time accepts
    rw [accepts_withEntry] at accepts
    split at accepts
    · exact accepts
    · exact kept.bounded other old time accepts

theorem Kept.dropped (kept : Kept world pending) :
    Kept (world.withoutEntry (tokenKey userId token)) pending := by
  constructor
  · intro other old time after accepts
    exact kept.listed other old time after (accepts_withoutEntry.mp accepts).2
  · intro other old time accepts
    exact kept.bounded other old time (accepts_withoutEntry.mp accepts).2

theorem Kept.relisted (kept : Kept world pending) {tokens : List String}
    (covers : ∀ old ∈ tokensAt world world.now userId,
      Accepts world world.now userId old → old ∈ tokens) (fewer : ∀ other old, pending other old →
      later other old ∨ other = userId ∧ old ∈ tokens) :
    Kept (world.withEntry (userTokensKey userId) (.tokens tokens) ttl)
      later := by
  constructor
  · intro other old time after accepts
    rw [tokensAt_withList]
    have within := kept.bounded other old time accepts
    have now : Accepts world world.now other old := accepts.of_le after
    by_cases same : other = userId
    · subst same
      rw [if_pos rfl, if_pos within]
      rcases kept.listed other old world.now le_rfl now with listed | waits <;> grind
    · rw [if_neg same]
      rcases kept.listed other old time after accepts with listed | waits <;> grind
  · intro other old time accepts
    exact kept.bounded other old time (accepts_withList.mp accepts)

theorem Kept.unlisted (kept : Kept world pending) (none : ∀ old ∈ tokensAt world world.now userId,
      ¬ Accepts world world.now userId old) :
    Kept (world.withoutEntry (userTokensKey userId)) pending := by
  constructor
  · intro other old time after accepts
    rw [tokensAt_withoutList]
    by_cases same : other = userId
    · subst same
      have now : Accepts world world.now other old := accepts.of_le after
      grind [listed]
    · rw [if_neg same]
      exact kept.listed other old time after accepts
  · intro other old time accepts
    exact kept.bounded other old time (accepts_withoutList.mp accepts)

end

end MarketX.Auth

namespace MarketX.Auth

open Effects Handler TokenRegistryService

namespace World

def withTokens (world : World) (userId : UserId) (tokens : List String) :
    World := world.withEntry (userTokensKey userId) (.tokens tokens) ttl

/-- The token is active, and in the list. -/
def stored (world : World) (userId : UserId) (token : String) : World :=
  let active := world.withEntry (tokenKey userId token) .active ttl
  let tokens := tokensAt world world.now userId
  if token ∉ tokens then active.withTokens userId (tokens ++ [token])
  else active

/-- The token is in neither place. -/
def invalidated (world : World) (userId : UserId) (token : String) :
    World :=
  let inactive := world.withoutEntry (tokenKey userId token)
  let tokens := (tokensAt world world.now userId).filter (· ≠ token)
  if tokens.length > 0 then inactive.withTokens userId tokens
  else inactive.withoutEntry (userTokensKey userId)

/-- None of the tokens is active. -/
def without (world : World) (userId : UserId) (tokens : List String) :
    World := tokens.foldl (fun world token => world.withoutEntry (tokenKey userId token)) world

/-- No token of the list is active, and there is no list. -/
def revoked (world : World) (userId : UserId) : World :=
  (world.without userId (tokensAt world world.now userId)).withoutEntry (userTokensKey userId)

end World

/-! ### What the calls do -/

section

variable {random : ℕ → String} {world : World} {userId : UserId} {token : String}

theorem wp_await_bind {α : Type} {op : Op} {rest : Reply op → Service α}
    {post : Except HttpException α → World → Prop}
    (acted : (auth random).wp (rest (act random op world).1) post (act random op world).2)
    (failed : mayFail op = true → ∀ error, post (.error error) world) :
    (auth random).wp (await op >>= rest) post world := by exact ⟨acted, failed⟩

variable {post : Except HttpException Unit → World → Prop}

theorem wp_store (holds : post (.ok ()) (world.stored userId token)) :
    (auth random).wp (store userId token) post world := by
  have same : tokensOf (act random (.cacheGet (userTokensKey userId))
      (act random (.cacheSet (tokenKey userId token) .active ttl)
        world).2).1 = tokensAt world world.now userId := tokensAt_withEntry
  simp only [World.stored] at holds
  apply wp_await_bind ?_ nofun
  apply wp_await_bind ?_ nofun
  rw [same]
  apply wp_branch
  · intro unlisted
    rw [if_pos unlisted] at holds
    exact ⟨holds, nofun⟩
  · intro listed
    rw [if_neg listed] at holds
    exact holds

theorem wp_invalidate (holds : post (.ok ()) (world.invalidated userId token)) :
    (auth random).wp (invalidate userId token) post world := by
  have same : tokensOf (act random (.cacheGet (userTokensKey userId))
      (act random (.cacheDel (tokenKey userId token)) world).2).1 =
        tokensAt world world.now userId := tokensAt_withoutEntry
  simp only [World.invalidated] at holds
  apply wp_await_bind ?_ nofun
  apply wp_await_bind ?_ nofun
  rw [same]
  apply wp_branch
  · intro some
    rw [if_pos some] at holds
    exact ⟨holds, nofun⟩
  · intro none
    rw [if_neg none] at holds
    exact ⟨holds, nofun⟩

theorem wp_deletes {tokens : List String} (holds : post (.ok ()) (world.without userId tokens)) :
    (auth random).wp (tokens.forM fun token => cacheManager.del (tokenKey userId token))
      post world := by
  induction tokens generalizing world with
  | nil => exact holds
  | cons token tokens ih => exact wp_await_bind (ih holds) nofun

theorem wp_invalidateAllForUser (holds : post (.ok ()) (world.revoked userId)) :
    (auth random).wp (invalidateAllForUser userId) post world := by
  apply wp_await_bind ?_ nofun
  rw [wp_bind]
  apply wp_deletes
  exact ⟨holds, nofun⟩

end

/-! ### What they make of the tokens -/

section

variable {world : World} {time : Date} {userId other : UserId} {token old : String}

/-- The token is in the list of the user at some time. -/
def Listed (world : World) (userId : UserId) (token : String) : Prop :=
  ∃ time, token ∈ tokensAt world time userId

theorem listed_withTokens {tokens : List String}
    (listed : Listed (world.withTokens userId tokens) other old) :
    Listed world other old ∨ other = userId ∧ old ∈ tokens := by
  obtain ⟨time, member⟩ := listed
  rw [World.withTokens, tokensAt_withList] at member
  split_ifs at member with same live
  · exact .inr ⟨same, member⟩
  · cases member
  · exact .inl ⟨time, member⟩

theorem listed_withoutList (listed : Listed (world.withoutEntry (userTokensKey userId)) other old) :
    Listed world other old := by
  obtain ⟨time, member⟩ := listed
  rw [tokensAt_withoutList] at member
  split_ifs at member
  · cases member
  · exact ⟨time, member⟩

theorem listed_withoutEntry :
    Listed (world.withoutEntry (tokenKey userId token)) other old ↔
      Listed world other old := by simp only [Listed, tokensAt_withoutEntry]

/-! #### Storing -/

theorem now_stored : (world.stored userId token).now = world.now := by
  simp only [World.stored]
  split <;> rfl

theorem drawn_stored : (world.stored userId token).drawn = world.drawn := by
  simp only [World.stored]
  split <;> rfl

theorem accepts_stored :
    Accepts (world.stored userId token) time other old ↔
      if other = userId ∧ old = token then time < world.now + ttl
      else Accepts world time other old := by
  simp only [World.stored]
  split
  next => exact accepts_withList.trans accepts_withEntry
  next => exact accepts_withEntry

theorem listed_stored (listed : Listed (world.stored userId token) other old) :
    Listed world other old ∨ old = token := by
  have before : Listed (world.withEntry (tokenKey userId token) .active ttl)
      other old → Listed world other old := by
    rintro ⟨time, member⟩
    exact ⟨time, member⟩
  simp only [World.stored] at listed
  split at listed
  next =>
    rcases listed_withTokens listed with earlier | ⟨rfl, member⟩
    · exact .inl (before earlier)
    · rcases List.mem_append.mp member with earlier | new
      · exact .inl ⟨world.now, earlier⟩
      · exact .inr (List.mem_singleton.mp new)
  next => exact .inl (before listed)

theorem Kept.afterStore (kept : Kept world fun _ _ => False)
    (fresh : token ∉ tokensAt world world.now userId) :
    Kept (world.stored userId token) fun _ _ => False := by
  simp only [World.stored, if_pos fresh]
  have active : Kept (world.withEntry (tokenKey userId token) .active ttl)
      fun other old => other = userId ∧ old = token :=
    kept.stored fun _ _ case => case.resolve_left id
  apply active.relisted
  · intro old member _
    exact List.mem_append_left _ member
  · rintro other old ⟨rfl, rfl⟩
    exact .inr ⟨rfl, by simp⟩

/-! #### Invalidating one token -/

theorem now_invalidated :
    (world.invalidated userId token).now = world.now := by
  simp only [World.invalidated]
  split <;> rfl

theorem drawn_invalidated :
    (world.invalidated userId token).drawn = world.drawn := by
  simp only [World.invalidated]
  split <;> rfl

theorem accepts_invalidated :
    Accepts (world.invalidated userId token) time other old ↔
      ¬ (other = userId ∧ old = token) ∧ Accepts world time other old := by
  simp only [World.invalidated]
  split
  next => exact accepts_withList.trans accepts_withoutEntry
  next => exact accepts_withoutList.trans accepts_withoutEntry

theorem listed_invalidated (listed : Listed (world.invalidated userId token) other old) :
    Listed world other old := by
  simp only [World.invalidated] at listed
  split at listed
  next =>
    rcases listed_withTokens listed with earlier | ⟨rfl, member⟩
    · exact listed_withoutEntry.mp earlier
    · exact ⟨world.now, List.mem_of_mem_filter member⟩
  next => exact listed_withoutEntry.mp (listed_withoutList listed)

theorem Kept.afterInvalidate {pending : UserId → String → Prop} (kept : Kept world pending) :
    Kept (world.invalidated userId token) pending := by
  have inactive : Kept (world.withoutEntry (tokenKey userId token))
      pending := kept.dropped
  have covers : ∀ old ∈ tokensAt (world.withoutEntry (tokenKey userId token)) world.now userId,
        Accepts (world.withoutEntry (tokenKey userId token)) world.now userId
          old → old ∈ (tokensAt world world.now userId).filter (· ≠ token) := by
    intro old member accepts
    have distinct : old ≠ token := fun same =>
      (accepts_withoutEntry.mp accepts).1 ⟨rfl, same⟩
    exact List.mem_filter.mpr ⟨member, decide_eq_true distinct⟩
  simp only [World.invalidated]
  split
  next => exact inactive.relisted covers fun _ _ waits => .inl waits
  next none =>
    apply inactive.unlisted
    intro old member accepts
    exact none (List.length_pos_of_mem (covers old member accepts))

/-! #### Invalidating all tokens -/

theorem without_eq (world : World) (tokens : List String) :
    (world.without userId tokens).now = world.now ∧
      (world.without userId tokens).drawn = world.drawn ∧
      (∀ time other old, Accepts (world.without userId tokens) time other
        old ↔ ¬ (other = userId ∧ old ∈ tokens) ∧ Accepts world time other old) ∧
      ∀ time other, tokensAt (world.without userId tokens) time other =
        tokensAt world time other := by
  induction tokens generalizing world with
  | nil => simp [World.without]
  | cons token tokens ih =>
    obtain ⟨now, drawn, accepts, lists⟩ := ih (world.withoutEntry (tokenKey userId token))
    refine ⟨now, drawn, fun time other old => ?_, fun time other => ?_⟩
    · refine (accepts time other old).trans ?_
      rw [accepts_withoutEntry, List.mem_cons]
      tauto
    · exact (lists time other).trans tokensAt_withoutEntry

theorem now_revoked : (world.revoked userId).now = world.now :=
  (without_eq _ _).1

theorem drawn_revoked : (world.revoked userId).drawn = world.drawn :=
  (without_eq _ _).2.1

theorem accepts_revoked :
    Accepts (world.revoked userId) time other old ↔
      ¬ (other = userId ∧ old ∈ tokensAt world world.now userId) ∧
        Accepts world time other old :=
  accepts_withoutList.trans ((without_eq _ _).2.2.1 time other old)

theorem listed_revoked (listed : Listed (world.revoked userId) other old) :
    Listed world other old := by
  obtain ⟨time, member⟩ := listed_withoutList listed
  rw [(without_eq _ _).2.2.2] at member
  exact ⟨time, member⟩

theorem Kept.not_accepts_revoked (kept : Kept world fun _ _ => False) (after : world.now ≤ time) :
    ¬ Accepts (world.revoked userId) time userId token := by
  intro accepts
  obtain ⟨unlisted, before⟩ := accepts_revoked.mp accepts
  have listed := kept.listed userId token world.now le_rfl (before.of_le after)
  exact unlisted ⟨rfl, listed.resolve_right id⟩

theorem Kept.afterRevoke {pending : UserId → String → Prop}
    (kept : Kept world pending) : Kept (world.revoked userId) pending := by
  have dropped : ∀ (tokens : List String) (world : World),
      Kept world pending → Kept (world.without userId tokens) pending := by
    intro tokens
    induction tokens with
    | nil => exact fun _ kept => kept
    | cons token tokens ih => exact fun world kept => ih _ kept.dropped
  apply (dropped _ world kept).unlisted
  grind [without_eq]

end

end MarketX.Auth
