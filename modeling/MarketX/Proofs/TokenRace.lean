/-
Module: MarketX.Proofs.TokenRace
Purpose: Refreshes, logins and revocations, effect by effect in any order:
  when a refresh token is redeemed once and every accepted token ends up in
  the list of its user.
Trusted boundary: human-reviewed definition of tokenRace, TokensSafe and
  Unoutrun
Main exports: tokenRace, TokensSafe, Unoutrun, tokens_safe_unoutrun
-/
import MarketX.Effects.Dialogues
import MarketX.Proofs.TokenRotation

namespace MarketX.Auth

open Effects Handler Caching AuthService TokenRegistryService

/-! ### The race -/

abbrev AuthPool := Pool signature World HttpException AuthCall

/-- Besides, so many milliseconds may pass. -/
abbrev AuthTurn := Turn HttpException AuthCall ℕ

def elapse (milliseconds : ℕ) (world : World) : World :=
  { world with now := world.now + milliseconds }

def AuthCall.userId : AuthCall → UserId
  | .getTokens userId _ | .refreshTokens userId _ _
  | .revokeAllUserTokens userId => userId

def isDraw : Op → Bool
  | .randomBytes => true
  | _ => false

def draws (past : Past signature World) : Bool := past.any fun entry => isDraw entry.1

/-- The call is a refresh with the token. -/
def refreshes (userId : UserId) (token : String) : AuthCall → Bool
  | .refreshTokens user _ old => user = userId ∧ old = token
  | _ => false

section

variable (random : ℕ → String)

def tokenRace : AuthPool → AuthTurn → AuthPool := Pool.step (auth random) AuthCall.program elapse

/-! ### The property -/

/-- A token is redeemed for a new pair once; and when no call of a user is
under way, the accepted tokens of the user are listed, and revoking all leaves
none. -/
structure TokensSafe (pool : AuthPool) : Prop where
  once : ∀ userId token, (pool.threads.countP fun thread =>
    refreshes userId token thread.name && draws thread.past) ≤ 1
  listed : ∀ userId, (∀ thread ∈ pool.threads, thread.name.userId = userId →
    thread.rest.next? = none) → ∀ token, Accepts pool.state pool.state.now userId token →
        token ∈ tokensAt pool.state pool.state.now userId
  revoked : ∀ userId, (∀ thread ∈ pool.threads,
    thread.name.userId = userId → thread.rest.next? = none) → ∀ token,
      let after := ((auth random).exec (revokeAllUserTokens userId) [] pool.state).2
      ¬ Accepts after after.now userId token

/-! ### The condition -/

/-- The world in which a call has last read a key. -/
def lastRead (key : String) (past : Past signature World) : Option World :=
  (past.find? fun entry => entry.1 = .cacheGet key).map Prod.snd

/-- Since then no token has been added to the list under the key, and an
active token has not been deleted. -/
def stillSo (key : String) (met world : World) : Bool :=
  (tokensOf (world.cache.get world.now key)).all (· ∈ tokensOf (met.cache.get met.now key)) &&
    (met.cache.get met.now key ≠ some .active || (world.cache key).isSome)

/-- A call that writes what it has read writes what is still so. -/
def unoutrun (past : Past signature World) (world : World) : Op → Bool
  | .cacheSet key _ _ | .cacheDel key =>
    (lastRead key past).all fun met => stillSo key met world
  | _ => true

def Unoutrun (pool : AuthPool) (turn : AuthTurn) : Prop := ∀ moves ∈ pool.mover? turn,
    unoutrun moves.1.past pool.state moves.2 = true

instance (pool : AuthPool) (turn : AuthTurn) :
    Decidable (Unoutrun pool turn) := inferInstanceAs (Decidable (∀ moves ∈ pool.mover? turn, _))

/-! ### The dialogue of a call -/

/-- What a call is about to do, with what it has read: to look up the token
it refreshes, to use it up, to take it off the list; to draw, store and list
a new one; or to gather the listed ones and delete them. -/
inductive AuthPhase where
  | asking (token : String)
  | known (token : String)
  | used (token : String)
  | removing (token : String) (tokens : List String)
  | drawing
  | drawn (token : String)
  | stored (token : String)
  | listing (token : String) (tokens : List String)
  | gathering
  | revoking (tokens left : List String)
  | finished
deriving DecidableEq

inductive AuthAllows (userId : UserId) : AuthPhase → Op → Prop where
  | asks {token : String} :
      AuthAllows userId (.asking token) (.cacheGet (tokenKey userId token))
  | deletes {token : String} :
      AuthAllows userId (.known token) (.cacheDel (tokenKey userId token))
  | reads {token : String} :
      AuthAllows userId (.used token) (.cacheGet (userTokensKey userId))
  | shortens {token : String} {tokens : List String} :
      AuthAllows userId (.removing token tokens) (.cacheSet (userTokensKey userId)
          (.tokens (tokens.filter (· ≠ token))) ttl)
  | empties {token : String} {tokens : List String} (none : tokens.filter (· ≠ token) = []) :
      AuthAllows userId (.removing token tokens) (.cacheDel (userTokensKey userId))
  | draws : AuthAllows userId .drawing .randomBytes
  | signs {token : String} {payload : AccessToken} :
      AuthAllows userId (.drawn token) (.signAsync payload)
  | stores {token : String} :
      AuthAllows userId (.drawn token) (.cacheSet (tokenKey userId token) .active ttl)
  | looks {token : String} :
      AuthAllows userId (.stored token) (.cacheGet (userTokensKey userId))
  | lists {token : String} {tokens : List String} :
      AuthAllows userId (.listing token tokens)
        (.cacheSet (userTokensKey userId) (.tokens (tokens ++ [token])) ttl)
  | gathers :
      AuthAllows userId .gathering (.cacheGet (userTokensKey userId))
  | drops {token : String} {tokens left : List String} :
      AuthAllows userId (.revoking tokens (token :: left)) (.cacheDel (tokenKey userId token))
  | clears {tokens : List String} :
      AuthAllows userId (.revoking tokens []) (.cacheDel (userTokensKey userId))

def AuthPhase.acted (phase : AuthPhase) (op : Op) (met : World) :
    AuthPhase :=
  match phase, op with
  | .asking token, .cacheGet key =>
    if (met.cache.get met.now key).isSome then .known token else .gathering
  | .known token, _ => .used token
  | .used token, .cacheGet key => .removing token (tokensOf (met.cache.get met.now key))
  | .removing .., _ => .drawing
  | .drawing, _ => .drawn (random met.drawn)
  | .drawn token, .cacheSet .. => .stored token
  | .drawn token, _ => .drawn token
  | .stored token, .cacheGet key =>
    if token ∈ tokensOf (met.cache.get met.now key) then .finished
    else .listing token (tokensOf (met.cache.get met.now key))
  | .gathering, .cacheGet key =>
    .revoking (tokensOf (met.cache.get met.now key)) (tokensOf (met.cache.get met.now key))
  | .revoking tokens (_ :: left), _ => .revoking tokens left
  | _, _ => .finished

def AuthCall.start : AuthCall → AuthPhase
  | .getTokens .. => .drawing
  | .refreshTokens _ _ token => .asking token
  | .revokeAllUserTokens _ => .gathering

def authDialogue (call : AuthCall) : Dialogue signature World AuthPhase where
  start := call.start
  allows := fun _ => AuthAllows call.userId
  acted := AuthPhase.acted random
  failed := fun _ _ _ => .finished
  ends := fun phase => phase = .finished

section

variable {random} {call : AuthCall} {α : Type}

variable {op : Op} {post : Except HttpException Unit → Past signature World → AuthPhase → Prop}
  {past : Past signature World} {phase : AuthPhase} {token email : String}

theorem speaks_await_bind {rest : Reply op → Service α}
    {post : Except HttpException α → Past signature World → AuthPhase → Prop}
    (allowed : AuthAllows call.userId phase op)
    (acted : ∀ met, (rest (act random op met).1).Speaks (auth random)
      (authDialogue random call) post ((op, met) :: past) (phase.acted random op met))
    (failed : mayFail op = true → ∀ error later, post (.error error) later .finished) :
    (await op >>= rest).Speaks (auth random) (authDialogue random call) post
      past phase := speaks_perform_bind allowed acted fun fails _ error => failed fails error _

theorem speaks_await
    {post : Except HttpException (Reply op) → Past signature World →
      AuthPhase → Prop} (allowed : AuthAllows call.userId phase op)
    (acted : ∀ met later, post (.ok (act random op met).1) later (phase.acted random op met))
    (failed : mayFail op = true → ∀ error later, post (.error error) later .finished) :
    (await op).Speaks (auth random) (authDialogue random call) post past
      phase := speaks_perform allowed (fun met => acted met _)
    fun fails _ error => failed fails error _

theorem speaks_store (finished : ∀ later, post (.ok ()) later .finished) :
    (store call.userId token).Speaks (auth random) (authDialogue random call)
      post past (.drawn token) := by
  apply speaks_await_bind .stores ?_ nofun
  intro stored
  apply speaks_await_bind .looks ?_ nofun
  intro looked
  apply speaks_branch
  · intro unlisted
    have phase : (AuthPhase.stored token).acted random
        (.cacheGet (userTokensKey call.userId)) looked = .listing token (tokensOf (act random
            (.cacheGet (userTokensKey call.userId)) looked).1) :=
      if_neg unlisted
    rw [phase]
    exact speaks_await .lists (fun _ later => finished later) nofun
  · intro listed
    have phase : (AuthPhase.stored token).acted random
        (.cacheGet (userTokensKey call.userId)) looked = .finished :=
      if_pos (not_not.mp listed)
    rw [phase]
    exact finished _

theorem speaks_getTokens (call : AuthCall)
    {post : Except HttpException Tokens → Past signature World → AuthPhase →
      Prop} (finished : ∀ result later, post result later .finished) :
    (getTokens call.userId email).Speaks (auth random)
      (authDialogue random call) post past .drawing := by
  apply speaks_await_bind .draws ?_ nofun
  intro drawn
  apply speaks_await_bind .signs ?_ fun _ error later => finished (.error error) later
  intro signed
  apply speaks_bind
  apply speaks_store
  exact fun later => finished _ later

theorem speaks_invalidate (done : ∀ later, post (.ok ()) later .drawing) :
    (invalidate call.userId token).Speaks (auth random)
      (authDialogue random call) post past (.known token) := by
  apply speaks_await_bind .deletes ?_ nofun
  intro deleted
  apply speaks_await_bind .reads ?_ nofun
  intro read
  apply speaks_branch
  · intro some
    exact speaks_await .shortens (fun _ later => done later) nofun
  · intro none
    refine speaks_await (.empties ?_) (fun _ later => done later) nofun
    exact List.eq_nil_of_length_eq_zero (Nat.eq_zero_of_not_pos none)

theorem speaks_invalidateAllForUser (call : AuthCall)
    (finished : ∀ later, post (.ok ()) later .finished) :
    (invalidateAllForUser call.userId).Speaks (auth random)
      (authDialogue random call) post past .gathering := by
  apply speaks_await_bind .gathers ?_ nofun
  intro gathered
  have deletes : ∀ (tokens left : List String) (past : Past signature World),
      (left.forM (fun token => cacheManager.del (tokenKey call.userId token)) >>= fun _ =>
        cacheManager.del (userTokensKey call.userId)).Speaks (auth random)
          (authDialogue random call) post past (.revoking tokens left) := by
    intro tokens left
    induction left with
    | nil => exact fun past => speaks_await .clears (fun _ later => finished later) nofun
    | cons token left ih => exact fun past => ⟨.drops, fun _ => ⟨ih _, nofun⟩⟩
  exact deletes _ _ _

theorem speaks_refreshTokens (call : AuthCall)
    {post : Except HttpException Tokens → Past signature World → AuthPhase →
      Prop} (finished : ∀ result later, post result later .finished) :
    (refreshTokens call.userId email token).Speaks (auth random)
      (authDialogue random call) post past (.asking token) := by
  apply speaks_bind
  apply speaks_await_bind .asks ?_ nofun
  intro asked
  apply speaks_branch
  · intro unknown
    rw [Bool.not_eq_true'] at unknown
    have phase : (AuthPhase.asking token).acted random
        (.cacheGet (tokenKey call.userId token)) asked = .gathering :=
      if_neg (ne_true_of_eq_false unknown)
    rw [phase]
    apply speaks_bind
    apply speaks_invalidateAllForUser
    exact fun later => finished _ later
  · intro known
    rw [Bool.not_eq_true', Bool.not_eq_false] at known
    have phase : (AuthPhase.asking token).acted random
        (.cacheGet (tokenKey call.userId token)) asked = .known token :=
      if_pos known
    rw [phase]
    apply speaks_bind
    apply speaks_invalidate
    exact fun later => speaks_getTokens call finished

theorem speaks_program (call : AuthCall) :
    call.program.Speaks (auth random) (authDialogue random call)
      (fun _ _ => (authDialogue random call).ends) [] (authDialogue random call).start := by
  cases call with
  | getTokens userId email =>
    apply speaks_bind
    apply speaks_getTokens (.getTokens userId email)
    intro result later
    cases result <;> rfl
  | revokeAllUserTokens userId =>
    exact speaks_invalidateAllForUser (.revokeAllUserTokens userId) fun _ => rfl
  | refreshTokens userId email token =>
    apply speaks_bind
    apply speaks_refreshTokens (.refreshTokens userId email token)
    intro result later
    cases result <;> rfl

end

/-! ### The invariant -/

section

/-- The call has drawn the token, and not listed it yet. -/
def AuthPhase.issues (token : String) : AuthPhase → Bool
  | .drawn new | .stored new | .listing new _ => new = token
  | _ => false

/-- The call has stored the token, and not listed it yet. -/
def AuthPhase.pends (token : String) : AuthPhase → Bool
  | .stored new | .listing new _ => new = token
  | _ => false

/-- The list the call has read and is going to write. -/
def AuthPhase.read : AuthPhase → List String
  | .removing _ tokens | .listing _ tokens | .revoking tokens _ => tokens
  | _ => []

/-- The call has used a token up, and not drawn a new one yet. -/
def AuthPhase.hasUsed : AuthPhase → Bool
  | .used _ | .removing .. | .drawing => true
  | _ => false

/-- A phase about a token is that of a refresh with it. -/
def AuthPhase.Named (call : AuthCall) : AuthPhase → Prop
  | .asking token | .known token | .used token | .removing token _ =>
    refreshes call.userId token call = true
  | _ => True

def AuthPhase.Recalls (userId : UserId) (past : Past signature World) :
    AuthPhase → Prop
  | .known token => ∃ met, lastRead (tokenKey userId token) past = some met ∧
      met.cache.get met.now (tokenKey userId token) = some .active
  | .removing _ tokens | .listing _ tokens | .revoking tokens _ =>
    ∃ met, lastRead (userTokensKey userId) past = some met ∧
      tokensOf (met.cache.get met.now (userTokensKey userId)) = tokens
  | _ => True

theorem lastRead_cons (key : String) (op : Op) (met : World) (past : Past signature World) :
    lastRead key ((op, met) :: past) =
      if op = .cacheGet key then some met else lastRead key past := by
  unfold lastRead
  grind

end

abbrev AuthCast := Cast signature World HttpException AuthCall AuthPhase

abbrev AuthRole := Thread signature World HttpException AuthCall × AuthPhase

def Pending (cast : AuthCast) (userId : UserId) (token : String) : Prop :=
  ∃ role ∈ cast, role.1.name.userId = userId ∧ role.2.pends token = true

/-- The call is a refresh that has used the token up. -/
def spent (userId : UserId) (token : String) (role : AuthRole) : Bool :=
  refreshes userId token role.1.name && (role.2.hasUsed || draws role.1.past)

section

variable {random} {world after : World} {front back : AuthCast}
  {thread : Thread signature World HttpException AuthCall}
  {phase later : AuthPhase} {op : Op} {rest : Service Unit}

/-- The token has been drawn, and is not going to be stored any more. -/
structure Issued (random : ℕ → String) (world : World) (cast : AuthCast)
    (token : String) : Prop where
  drawn : ∃ draw < world.drawn, token = random draw
  stored : ∀ role ∈ cast, role.2 ≠ .drawn token

/-- The token has been drawn, and is not going to be listed any more. -/
structure Done (random : ℕ → String) (world : World) (cast : AuthCast)
    (token : String) : Prop where
  drawn : ∃ draw < world.drawn, token = random draw
  listed : ∀ role ∈ cast, role.2.issues token = false

variable {cast : AuthCast} {token : String}

theorem Done.issued (done : Done random world cast token) :
    Issued random world cast token := by
  refine ⟨done.drawn, fun role member about => ?_⟩
  have issues := done.listed role member
  rw [about] at issues
  simp [AuthPhase.issues] at issues

/-- What holds of the registry as long as nobody writes what is not so any
more. -/
structure Guarded (random : ℕ → String) (world : World) (cast : AuthCast) :
    Prop where
  kept : Kept world (Pending cast)
  drawn : ∀ role ∈ cast, ∀ token, role.2.issues token = true →
    ∃ draw < world.drawn, token = random draw
  sole : ∀ token, cast.countP (fun role => role.2.issues token) ≤ 1
  stored : ∀ userId token entry, world.cache (tokenKey userId token) = some entry →
      entry.value = .active ∧ Issued random world cast token
  listed : ∀ userId token, Listed world userId token → Done random world cast token
  once : ∀ userId token, cast.countP (spent userId token) ≤ 1
  gone : ∀ role ∈ cast, ∀ userId token, spent userId token role = true →
    world.cache (tokenKey userId token) = none ∧ Issued random world cast token
  named : ∀ role ∈ cast, role.2.Named role.1.name
  recalls : ∀ role ∈ cast, role.2.Recalls role.1.name.userId role.1.past
  seen : ∀ role ∈ cast, ∀ token ∈ role.2.read, Done random world cast token
  dropped : ∀ role ∈ cast, ∀ tokens left, role.2 = .revoking tokens left →
    ∀ token ∈ tokens, token ∉ left → world.cache (tokenKey role.1.name.userId token) = none

/-- What an effect of a call may do: it issues or is about to store no token
but a newly drawn one, activates none but its own, lists none but its own and
those that others are done with, and uses up a token only while that is
active. -/
structure Progresses (random : ℕ → String) (world after : World)
    (cast : AuthCast) (old new : AuthRole) : Prop where
  drawn : world.drawn ≤ after.drawn
  issues : ∀ token, new.2.issues token = true → old.2.issues token = true ∨
    token = random world.drawn ∧ world.drawn < after.drawn
  draws : ∀ token, new.2 = .drawn token → old.2 = .drawn token ∨ token = random world.drawn
  stored : ∀ userId token entry, after.cache (tokenKey userId token) = some entry →
      world.cache (tokenKey userId token) = some entry ∨
        entry.value = .active ∧ old.2 = .drawn token ∧ new.2 ≠ .drawn token
  listed : ∀ userId token, Listed after userId token → Done random world cast token ∨
      old.2.issues token = true ∧ new.2.issues token = false
  spends : ∀ userId token, spent userId token new = true → spent userId token old = true ∨
      (after.cache (tokenKey userId token) = none ∧ Issued random world cast token ∧
        ∀ role ∈ cast, spent userId token role = false)
  named : new.2.Named new.1.name
  recalls : new.2.Recalls new.1.name.userId new.1.past
  seen : ∀ token ∈ new.2.read, Done random world cast token
  dropped : ∀ tokens left, new.2 = .revoking tokens left → ∀ token ∈ tokens, token ∉ left →
      after.cache (tokenKey new.1.name.userId token) = none

theorem ne_next_drawn (injective : Function.Injective random)
    (drawn : ∃ draw < world.drawn, token = random draw) :
    token ≠ random world.drawn := by grind

section

variable {old new : AuthRole} {token : String}
  (progresses : Progresses random world after (front ++ old :: back) old new)
include progresses

theorem Progresses.stillDrawn (drawn : ∃ draw < world.drawn, token = random draw) :
    ∃ draw < after.drawn, token = random draw :=
  let ⟨draw, before, same⟩ := drawn
  ⟨draw, before.trans_le progresses.drawn, same⟩

theorem Progresses.done (injective : Function.Injective random)
    (before : Done random world (front ++ old :: back) token) :
    Done random after (front ++ new :: back) token := by
  refine ⟨progresses.stillDrawn before.drawn, fun role member => ?_⟩
  rcases mem_replaced member with rfl | other
  · by_contra issues
    rcases progresses.issues token (eq_true_of_ne_false issues) with
      issued | ⟨same, -⟩
    · rw [before.listed old (by simp)] at issued
      cases issued
    · exact ne_next_drawn injective before.drawn same
  · exact before.listed role (mem_of_others other old)

theorem Progresses.issued (injective : Function.Injective random)
    (before : Issued random world (front ++ old :: back) token) :
    Issued random after (front ++ new :: back) token := by
  refine ⟨progresses.stillDrawn before.drawn, fun role member about => ?_⟩
  rcases mem_replaced member with rfl | other
  · rcases progresses.draws token about with same | same
    · exact before.stored old (by simp) same
    · exact ne_next_drawn injective before.drawn same
  · exact before.stored role (mem_of_others other old) about

theorem Progresses.staysGone {userId : UserId} (gone : world.cache (tokenKey userId token) = none)
    (before : Issued random world (front ++ old :: back) token) :
    after.cache (tokenKey userId token) = none := by
  by_contra stored
  obtain ⟨entry, stored⟩ := Option.ne_none_iff_exists'.mp stored
  rcases progresses.stored userId token entry stored with
    earlier | ⟨-, about, -⟩
  · rw [gone] at earlier
    cases earlier
  · exact before.stored old (by simp) about

end

theorem Guarded.moved (injective : Function.Injective random) {old new : AuthRole}
    (guarded : Guarded random world (front ++ old :: back))
    (kept : Kept after (Pending (front ++ new :: back)))
    (progresses : Progresses random world after (front ++ old :: back) old new) :
    Guarded random after (front ++ new :: back) := by
  have here : old ∈ front ++ old :: back := by simp
  have others : ∀ role ∈ front ++ back, role ∈ front ++ old :: back :=
    fun role member => mem_of_others member _
  have alone : ∀ token, old.2.issues token = true →
      ∀ role ∈ front ++ back, role.2.issues token = false :=
    fun token issues => others_not_counted (guarded.sole token) issues
  constructor
  · exact kept
  · intro role member token issues
    rcases mem_replaced member with rfl | other
    · rcases progresses.issues token issues with before | ⟨rfl, more⟩
      · exact progresses.stillDrawn (guarded.drawn old here token before)
      · exact ⟨world.drawn, more, rfl⟩
    · exact progresses.stillDrawn (guarded.drawn role (others role other) token issues)
  · intro token
    have before := guarded.sole token
    rw [countP_replaced] at before ⊢
    by_cases issues : new.2.issues token = true
    · rcases progresses.issues token issues with earlier | ⟨same, -⟩
      · rw [if_pos earlier] at before
        rwa [if_pos issues]
      · -- nobody else has a token that is drawn only now
        have none : (front ++ back).countP (fun role => role.2.issues token) = 0 := by
          rw [List.countP_eq_zero]
          intro role member issuing
          exact ne_next_drawn injective (guarded.drawn role (others role member) token issuing) same
        split <;> omega
    · rw [if_neg issues]
      omega
  · intro userId token entry stored
    rcases progresses.stored userId token entry stored with
      before | ⟨active, about, stores⟩
    · obtain ⟨active, before⟩ := guarded.stored userId token entry before
      exact ⟨active, progresses.issued injective before⟩
    · have issues : old.2.issues token = true := by
        rw [about]
        exact decide_eq_true rfl
      refine ⟨active, progresses.stillDrawn (guarded.drawn old here token issues), ?_⟩
      intro role member about
      grind
  · intro userId token listed
    rcases progresses.listed userId token listed with before | ⟨issues, finished⟩
    · exact progresses.done injective before
    · refine ⟨progresses.stillDrawn (guarded.drawn old here token issues), ?_⟩
      intro role member
      grind
  · intro userId token
    have before := guarded.once userId token
    rw [countP_replaced] at before ⊢
    by_cases spends : spent userId token new = true
    · rcases progresses.spends userId token spends with earlier | ⟨-, -, none⟩ <;> simp_all
    · rw [if_neg spends]
      omega
  · intro role member userId token spends
    have before : world.cache (tokenKey userId token) = none ∧
        Issued random world (front ++ old :: back) token →
          after.cache (tokenKey userId token) = none ∧
            Issued random after (front ++ new :: back) token :=
      fun ⟨gone, before⟩ =>
        ⟨progresses.staysGone gone before, progresses.issued injective before⟩
    rcases mem_replaced member with rfl | other
    · rcases progresses.spends userId token spends with earlier | now
      · exact before (guarded.gone old here userId token earlier)
      · exact ⟨now.1, progresses.issued injective now.2.1⟩
    · exact before (guarded.gone role (others role other) userId token spends)
  · intro role member
    rcases mem_replaced member with rfl | other
    · exact progresses.named
    · exact guarded.named role (others role other)
  · intro role member
    rcases mem_replaced member with rfl | other
    · exact progresses.recalls
    · exact guarded.recalls role (others role other)
  · intro role member token read
    rcases mem_replaced member with rfl | other
    · exact progresses.done injective (progresses.seen token read)
    · exact progresses.done injective (guarded.seen role (others role other) token read)
  · intro role member tokens left about token read dropped
    rcases mem_replaced member with rfl | other
    · exact progresses.dropped tokens left about token read dropped
    · have gone := guarded.dropped role (others role other) tokens left about token read dropped
      refine progresses.staysGone gone (Done.issued ?_)
      apply guarded.seen role (others role other)
      rw [about]
      exact read

section

variable {userId : UserId}

theorem Guarded.seen_now {cast : AuthCast} (guarded : Guarded random world cast) (userId : UserId) :
    ∀ token ∈ tokensOf (world.cache.get world.now (userTokensKey userId)),
      Done random world cast token :=
  fun token member => guarded.listed userId token ⟨world.now, member⟩

theorem lastRead_del (key other : String) (past : Past signature World) :
    lastRead key ((.cacheDel other, world) :: past) = lastRead key past := by
  rw [lastRead_cons, if_neg nofun]

theorem lastRead_self (key : String) (past : Past signature World) :
    lastRead key ((.cacheGet key, world) :: past) = some world := by rw [lastRead_cons, if_pos rfl]

variable {key token : String} {other : UserId} {entry : Entry CacheValue Date}
  {tokens : List String}

theorem stored_of_withoutEntry {other : String}
    (stored : (world.withoutEntry key).cache other = some entry) :
    world.cache other = some entry := by
  by_cases same : other = key
  · subst same
    cases Eq.trans (Eq.symm Store.del_self) stored
  · exact (Store.del_of_ne same).symm.trans stored

theorem stored_of_withTokens
    (stored : (world.withTokens userId tokens).cache (tokenKey other token) =
      some entry) : world.cache (tokenKey other token) = some entry := by
  have kept : (world.withTokens userId tokens).cache (tokenKey other token) =
      world.cache (tokenKey other token) := by
    show (world.cache.set world.now (userTokensKey userId) (.tokens tokens)
      ttl) (tokenKey other token) = _
    exact Store.set_of_ne (tokenKey_ne_userTokensKey other userId token)
  exact kept.symm.trans stored

theorem refreshes_inj {call : AuthCall} {old : String} (first : refreshes userId token call = true)
    (second : refreshes other old call = true) :
    other = userId ∧ old = token := by
  cases call with
  | refreshTokens user email used =>
    obtain ⟨rfl, rfl⟩ := of_decide_eq_true first
    obtain ⟨rfl, rfl⟩ := of_decide_eq_true second
    exact ⟨rfl, rfl⟩
  | getTokens | revokeAllUserTokens => cases first

theorem Guarded.progresses (guarded : Guarded random world (front ++ (thread, phase) :: back))
    (allowed : AuthAllows thread.name.userId phase op)
    (current : unoutrun thread.past world op = true) :
    Progresses random world (act random op world).2
      (front ++ (thread, phase) :: back) (thread, phase)
      (thread.answered op world rest, phase.acted random op world) := by
  have here : (thread, phase) ∈ front ++ (thread, phase) :: back := by simp
  have named := guarded.named _ here
  have recalls := guarded.recalls _ here
  have seen := guarded.seen _ here
  have dropped := guarded.dropped _ here
  have same : ∀ userId token entry, world.cache (tokenKey userId token) = some entry →
        world.cache (tokenKey userId token) = some entry ∨
          entry.value = .active ∧ phase = .drawn token ∧
            phase.acted random op world ≠ .drawn token :=
    fun _ _ _ stored => .inl stored
  have listed : ∀ userId token, Listed world userId token →
      Done random world (front ++ (thread, phase) :: back) token ∨ phase.issues token = true ∧
          (phase.acted random op world).issues token = false :=
    fun userId token listed => .inl (guarded.listed userId token listed)
  cases allowed with
  | @asks token =>
    have cases : (AuthPhase.asking token).acted random
          (.cacheGet (tokenKey thread.name.userId token)) world = .known token ∧
          Accepts world world.now thread.name.userId token ∨ (AuthPhase.asking token).acted random
          (.cacheGet (tokenKey thread.name.userId token)) world =
            .gathering := by
      simp only [AuthPhase.acted]
      split
      next found => exact .inl ⟨rfl, found⟩
      next => exact .inr rfl
    rcases cases with ⟨later, accepts⟩ | later
    · rw [later] at same listed ⊢
      refine ⟨le_rfl, nofun, nofun, same, listed, fun _ _ spends =>
        .inl spends, named, ?_, nofun, nofun⟩
      refine ⟨world, lastRead_self _ _, ?_⟩
      obtain ⟨value, read⟩ := Option.isSome_iff_exists.mp accepts
      obtain ⟨entry, stored, -, rfl⟩ := Store.get_eq_some.mp read
      rw [(guarded.stored _ _ entry stored).1] at read
      exact read
    · rw [later] at same listed ⊢
      exact ⟨le_rfl, nofun, nofun, same, listed, fun _ _ spends =>
        .inl spends, trivial, trivial, nofun, nofun⟩
  | @deletes token =>
    -- the token is still active, so nobody has used it up
    obtain ⟨met, read, active⟩ := recalls
    simp only [unoutrun, read, Option.all_some, stillSo, active, ne_eq,
      not_true_eq_false, decide_false, Bool.false_or, Bool.and_eq_true,
      Option.isSome_iff_exists] at current
    obtain ⟨-, entry, stored⟩ := current
    refine ⟨le_rfl, nofun, nofun, fun _ _ _ stored =>
      .inl (stored_of_withoutEntry stored), fun other old after =>
        .inl (guarded.listed other old (listed_withoutEntry.mp after)), ?_,
      named, trivial, nofun, nofun⟩
    intro other old spends
    obtain ⟨rfl, rfl⟩ := refreshes_inj named (Bool.and_eq_true_iff.mp spends).1
    refine .inr ⟨Store.del_self, (guarded.stored _ _ _ stored).2, ?_⟩
    intro role member
    by_contra spending
    have gone := guarded.gone role member _ _ (eq_true_of_ne_false spending)
    rw [gone.1] at stored
    cases stored
  | @reads token =>
    refine ⟨le_rfl, nofun, nofun, same, listed, fun _ _ spends =>
      .inl spends, named, ?_, guarded.seen_now _, nofun⟩
    exact ⟨world, lastRead_self _ _, rfl⟩
  | shortens =>
    refine ⟨le_rfl, nofun, nofun, fun _ _ _ stored =>
      .inl (stored_of_withTokens stored), ?_, fun _ _ spends => .inl spends,
      trivial, trivial, nofun, nofun⟩
    intro other old after
    rcases listed_withTokens after with before | ⟨-, kept⟩
    · exact .inl (guarded.listed other old before)
    · exact .inl (seen old (List.mem_of_mem_filter kept))
  | empties none =>
    exact ⟨le_rfl, nofun, nofun, fun _ _ _ stored =>
      .inl (stored_of_withoutEntry stored), fun other old after =>
        .inl (guarded.listed other old (listed_withoutList after)),
      fun _ _ spends => .inl spends, trivial, trivial, nofun, nofun⟩
  | draws =>
    refine ⟨Nat.le_succ _, ?_, ?_, same, listed, fun _ _ spends =>
      .inl spends, trivial, trivial, nofun, nofun⟩
    · intro token issues
      exact .inr ⟨(of_decide_eq_true issues).symm, Nat.lt_succ_self _⟩
    · intro token about
      cases about
      exact .inr rfl
  | signs =>
    exact ⟨le_rfl, fun _ => .inl, fun _ => .inl, same, listed,
      fun _ _ spends => .inl spends, trivial, trivial, nofun, nofun⟩
  | @stores token =>
    refine ⟨le_rfl, fun _ => .inl, nofun, ?_, ?_, fun _ _ spends =>
      .inl spends, trivial, trivial, nofun, nofun⟩
    · intro other old entry stored
      by_cases equal : tokenKey other old = tokenKey thread.name.userId token
      · obtain ⟨rfl, rfl⟩ := tokenKey_injective equal
        cases Eq.trans (Eq.symm Store.set_self) stored
        exact .inr ⟨rfl, rfl, nofun⟩
      · exact .inl ((Store.set_of_ne equal).symm.trans stored)
    · rintro other old ⟨time, member⟩
      exact .inl (guarded.listed other old ⟨time, member⟩)
  | @looks token =>
    have unlisted : token ∉ tokensOf (world.cache.get world.now
        (userTokensKey thread.name.userId)) := by
      intro member
      have done := (guarded.seen_now _ token member).listed _ here
      simp [AuthPhase.issues] at done
    have later : (AuthPhase.stored token).acted random
        (.cacheGet (userTokensKey thread.name.userId)) world =
          .listing token (tokensOf (world.cache.get world.now
            (userTokensKey thread.name.userId))) := if_neg unlisted
    rw [later] at same listed ⊢
    refine ⟨le_rfl, fun _ => .inl, nofun, same,
      fun other old before => .inl (guarded.listed other old before),
      fun _ _ spends => .inl spends, trivial, ?_, guarded.seen_now _, nofun⟩
    exact ⟨world, lastRead_self _ _, rfl⟩
  | @lists token tokens =>
    refine ⟨le_rfl, nofun, nofun, fun _ _ _ stored =>
      .inl (stored_of_withTokens stored), ?_, fun _ _ spends => .inl spends,
      trivial, trivial, nofun, nofun⟩
    intro other old after
    rcases listed_withTokens after with before | ⟨-, member⟩
    · exact .inl (guarded.listed other old before)
    rcases List.mem_append.mp member with read | new
    · exact .inl (seen old read)
    · rw [List.mem_singleton.mp new]
      exact .inr ⟨decide_eq_true rfl, rfl⟩
  | gathers =>
    refine ⟨le_rfl, nofun, nofun, same, listed, fun _ _ spends =>
      .inl spends, trivial, ?_, guarded.seen_now _, ?_⟩
    · exact ⟨world, lastRead_self _ _, rfl⟩
    · intro tokens left about token read dropped
      cases about
      exact absurd read dropped
  | @drops token tokens left =>
    refine ⟨le_rfl, nofun, nofun, fun _ _ _ stored =>
      .inl (stored_of_withoutEntry stored), fun other old after =>
        .inl (guarded.listed other old (listed_withoutEntry.mp after)),
      fun _ _ spends => .inl spends, trivial, ?_, seen, ?_⟩
    · obtain ⟨met, read, list⟩ := recalls
      exact ⟨met, (lastRead_del _ _ _).trans read, list⟩
    · intro read rest about old member unlisted
      cases about
      by_cases equal : old = token
      · subst equal
        exact Store.del_self
      · have gone := dropped tokens _ rfl old member (by simp [equal, unlisted])
        by_contra stored
        obtain ⟨entry, stored⟩ := Option.ne_none_iff_exists'.mp stored
        cases Eq.trans (Eq.symm gone) (stored_of_withoutEntry stored)
  | clears =>
    exact ⟨le_rfl, nofun, nofun, fun _ _ _ stored =>
      .inl (stored_of_withoutEntry stored), fun other old after =>
        .inl (guarded.listed other old (listed_withoutList after)),
      fun _ _ spends => .inl spends, trivial, trivial, nofun, nofun⟩

theorem pending_answered (pends : ∀ token, phase.pends token = true → later.pends token = true)
    (pending : Pending (front ++ (thread, phase) :: back) userId token) :
    Pending (front ++ (thread.answered op world rest, later) :: back) userId
      token := by
  obtain ⟨role, member, about, waits⟩ := pending
  rcases mem_replaced member with rfl | other
  · exact ⟨(thread.answered op world rest, later),
      List.mem_append_right _ List.mem_cons_self, about, pends token waits⟩
  · exact ⟨role, mem_of_others other _, about, waits⟩

theorem pending_of_idle (idle : ∀ token, phase.pends token = false)
    (pending : Pending (front ++ (thread, phase) :: back) userId token) :
    Pending (front ++ (thread.answered op world rest, later) :: back) userId
      token := by grind [pending_answered]

theorem covers_of_current {past : Past signature World}
    {met : World} (read : lastRead key past = some met)
    (list : tokensOf (met.cache.get met.now key) = tokens)
    (current : (lastRead key past).all (fun met => stillSo key met world) = true) :
    ∀ token ∈ tokensOf (world.cache.get world.now key), token ∈ tokens := by simp_all [stillSo]

theorem Guarded.kept_acts (guarded : Guarded random world (front ++ (thread, phase) :: back))
    (allowed : AuthAllows thread.name.userId phase op)
    (current : unoutrun thread.past world op = true) :
    Kept (act random op world).2 (Pending (front ++ (thread.answered op world rest,
        phase.acted random op world) :: back)) := by
  have here : (thread, phase) ∈ front ++ (thread, phase) :: back := by simp
  have recalls := guarded.recalls _ here
  have kept := guarded.kept
  have spentGone : ∀ token, phase.hasUsed = true →
      refreshes thread.name.userId token thread.name = true →
        ∀ time, ¬ Accepts world time thread.name.userId token := by
    intro token used refresh time accepts
    have gone := (guarded.gone _ here thread.name.userId token (by simp [spent, refresh, used])).1
    simp [Accepts, Store.get, gone] at accepts
  cases allowed with
  | asks => exact kept.mono fun _ _ => pending_of_idle (fun _ => rfl)
  | reads | signs | gathers => exact kept.mono fun _ _ => pending_of_idle (fun _ => rfl)
  | draws =>
    have drawn : Kept world.withDraw _ := ⟨kept.listed, kept.bounded⟩
    exact drawn.mono fun _ _ => pending_of_idle (fun _ => rfl)
  | deletes | drops => exact kept.dropped.mono fun _ _ => pending_of_idle (fun _ => rfl)
  | @shortens token tokens =>
    obtain ⟨met, read, list⟩ := recalls
    have covers := covers_of_current read list current
    refine kept.relisted ?_ fun _ _ pending => .inl (pending_of_idle (fun _ => rfl) pending)
    intro old member accepts
    refine List.mem_filter.mpr ⟨covers old member, decide_eq_true ?_⟩
    rintro rfl
    exact spentGone old rfl (guarded.named _ here) _ accepts
  | @empties token tokens none =>
    obtain ⟨met, read, list⟩ := recalls
    have covers := covers_of_current read list current
    refine (kept.unlisted ?_).mono fun _ _ => pending_of_idle (fun _ => rfl)
    intro old member accepts
    have left : old ∈ tokens.filter (· ≠ token) := by
      refine List.mem_filter.mpr ⟨covers old member, decide_eq_true ?_⟩
      rintro rfl
      exact spentGone old rfl (guarded.named _ here) _ accepts
    rw [none] at left
    cases left
  | @stores token =>
    refine kept.stored fun other old => ?_
    rintro (pending | ⟨rfl, rfl⟩)
    · exact pending_of_idle (fun _ => rfl) pending
    · exact ⟨_, List.mem_append_right _ List.mem_cons_self, rfl, decide_eq_true rfl⟩
  | @looks token =>
    have unlisted : token ∉ tokensOf (world.cache.get world.now
        (userTokensKey thread.name.userId)) := by
      intro member
      have done := (guarded.seen_now _ token member).listed _ here
      simp [AuthPhase.issues] at done
    have later : (AuthPhase.stored token).acted random
        (.cacheGet (userTokensKey thread.name.userId)) world =
          .listing token (tokensOf (world.cache.get world.now
            (userTokensKey thread.name.userId))) := if_neg unlisted
    rw [later]
    exact kept.mono fun _ _ => pending_answered (by exact fun _ waits => waits)
  | @lists token tokens =>
    obtain ⟨met, read, list⟩ := recalls
    have covers := covers_of_current read list current
    refine kept.relisted (fun old member _ => List.mem_append_left _ (covers old member)) ?_
    rintro other old ⟨role, member, about, pends⟩
    rcases mem_replaced member with rfl | others
    · refine .inr ⟨about.symm, List.mem_append_right _ ?_⟩
      rw [← of_decide_eq_true pends]
      exact List.mem_singleton_self _
    · exact .inl ⟨role, mem_of_others others _, about, pends⟩
  | @clears tokens =>
    obtain ⟨met, read, list⟩ := recalls
    have covers := covers_of_current read list current
    refine (kept.unlisted ?_).mono fun _ _ => pending_of_idle (fun _ => rfl)
    intro old member accepts
    have gone := guarded.dropped _ here tokens [] rfl old (covers old member) List.not_mem_nil
    simp [Accepts, Store.get, gone] at accepts

theorem Guarded.fails (guarded : Guarded random world (front ++ (thread, phase) :: back))
    (allowed : AuthAllows thread.name.userId phase op) (exposed : mayFail op = true) :
    Kept world (Pending (front ++ (thread.answered op world rest, .finished) :: back)) ∧
      Progresses random world world (front ++ (thread, phase) :: back)
        (thread, phase) (thread.answered op world rest, .finished) := by
  cases allowed with
  | signs =>
    refine ⟨guarded.kept.mono fun _ _ => pending_of_idle (fun _ => rfl), ?_⟩
    exact ⟨le_rfl, nofun, nofun, fun _ _ _ stored => .inl stored,
      fun other old listed => .inl (guarded.listed other old listed),
      fun _ _ spends => .inl spends, trivial, trivial, nofun, nofun⟩
  | asks | deletes | reads | shortens | empties | draws => cases exposed
  | stores | looks | lists | gathers | drops | clears => cases exposed

end

theorem Guarded.elapsed (guarded : Guarded random world cast) (milliseconds : ℕ) :
    Guarded random (elapse milliseconds world) cast :=
  { guarded with
    kept := guarded.kept.elapsed
      (Int.le_add_of_nonneg_right (Int.natCast_nonneg milliseconds))
    drawn := guarded.drawn
    stored := fun userId token entry stored =>
      ⟨(guarded.stored userId token entry stored).1,
        ⟨(guarded.stored userId token entry stored).2.drawn,
          (guarded.stored userId token entry stored).2.stored⟩⟩
    listed := fun userId token listed =>
      ⟨(guarded.listed userId token listed).drawn,
        (guarded.listed userId token listed).listed⟩
    gone := fun role member userId token spends =>
      ⟨(guarded.gone role member userId token spends).1,
        ⟨(guarded.gone role member userId token spends).2.drawn,
          (guarded.gone role member userId token spends).2.stored⟩⟩
    seen := fun role member token read =>
      ⟨(guarded.seen role member token read).drawn,
        (guarded.seen role member token read).listed⟩
    dropped := guarded.dropped }

theorem AuthCall.start_issues (call : AuthCall) (token : String) :
    call.start.issues token = false := by
  cases call <;> rfl

theorem Guarded.spawned (guarded : Guarded random world cast) (call : AuthCall) :
    Guarded random world (cast ++ [(⟨call, [], call.program⟩, call.start)]) := by
  have cases : ∀ {role : AuthRole}, role ∈ cast ++ [(⟨call, [], call.program⟩, call.start)] →
        role ∈ cast ∨ role = (⟨call, [], call.program⟩, call.start) := by
    intro role member
    simpa using member
  have unspent : ∀ userId token, spent userId token
      ((⟨call, [], call.program⟩, call.start) : AuthRole) = false := by
    intro userId token
    cases call <;> simp [spent, AuthCall.start, AuthPhase.hasUsed, draws, refreshes]
  have done : ∀ token, Done random world cast token → Done random world
      (cast ++ [(⟨call, [], call.program⟩, call.start)]) token := by
    intro token before
    refine ⟨before.drawn, fun role member => ?_⟩
    rcases cases member with old | rfl
    · exact before.listed role old
    · exact call.start_issues token
  have issued : ∀ token, Issued random world cast token → Issued random
      world (cast ++ [(⟨call, [], call.program⟩, call.start)]) token := by
    intro token before
    refine ⟨before.drawn, fun role member about => ?_⟩
    rcases cases member with old | rfl
    · exact before.stored role old about
    · have idle := call.start_issues token
      simp_all [AuthPhase.issues]
  constructor
  · apply guarded.kept.mono
    rintro other old ⟨role, member, about⟩
    exact ⟨role, List.mem_append_left _ member, about⟩
  · intro role member token issues
    rcases cases member with old | rfl
    · exact guarded.drawn role old token issues
    · rw [call.start_issues] at issues
      cases issues
  · intro token
    rw [List.countP_append, List.countP_singleton, if_neg (by simp [call.start_issues])]
    exact guarded.sole token
  · grind [stored]
  · grind [listed]
  · intro userId token
    rw [List.countP_append, List.countP_singleton, if_neg (by simp [unspent])]
    exact guarded.once userId token
  · grind [gone]
  · intro role member
    rcases cases member with old | rfl
    · exact guarded.named role old
    · cases call with
      | refreshTokens => exact decide_eq_true ⟨rfl, rfl⟩
      | getTokens | revokeAllUserTokens => trivial
  · intro role member
    rcases cases member with old | rfl
    · exact guarded.recalls role old
    · cases call <;> trivial
  · intro role member token read
    rcases cases member with old | rfl
    · exact done token (guarded.seen role old token read)
    · cases call <;> cases read
  · intro role member tokens left about
    rcases cases member with old | rfl
    · exact guarded.dropped role old tokens left about
    · cases call <;> cases about

theorem guarded_spoke (injective : Function.Injective random)
    {pool : AuthPool} {later : AuthCast} {turn : AuthTurn}
    (guarded : Guarded random pool.state cast) (isUnoutrun : Unoutrun pool turn)
    (spoke : Pool.Spoke (auth random) AuthCall.program elapse
      (authDialogue random) pool cast turn after later) :
    Guarded random after later := by
  cases spoke with
  | stays => exact guarded
  | @changes milliseconds => exact guarded.elapsed milliseconds
  | @spawns call => exact guarded.spawned call
  | @acts _ front back thread phase op rest split moves allowed acts =>
    subst split
    have current := isUnoutrun _ moves
    exact guarded.moved injective (guarded.kept_acts allowed current)
      (guarded.progresses allowed current)
  | @fails _ front back thread phase op error rest split moves allowed exposed throws =>
    subst split
    exact guarded.moved injective (guarded.fails allowed exposed).1
      (guarded.fails allowed exposed).2

end

/-! ### Whole runs -/

theorem pends_of_ended {pool : AuthPool} {cast : AuthCast}
    (spoken : pool.Spoken (auth random) (authDialogue random) cast)
    {role : AuthRole} (member : role ∈ cast) (ended : role.1.rest.next? = none) (token : String) :
    role.2.pends token = false := by
  have speaks := spoken.speaks role member
  rw [Thread.Speaks] at speaks
  cases rest : role.1.rest with
  | call op next =>
    rw [rest] at ended
    cases ended
  | pure value =>
    rw [rest] at speaks
    rw [show role.2 = .finished from speaks]
    rfl
  | throw error =>
    rw [rest] at speaks
    rw [show role.2 = .finished from speaks]
    rfl

theorem Guarded.tokensSafe {pool : AuthPool} {cast : AuthCast}
    (spoken : pool.Spoken (auth random) (authDialogue random) cast)
    (guarded : Guarded random pool.state cast) : TokensSafe random pool := by
  have settled : ∀ userId, (∀ thread ∈ pool.threads,
      thread.name.userId = userId → thread.rest.next? = none) →
        ∀ token, ¬ Pending cast userId token := by
    rintro userId ended token ⟨role, member, about, pends⟩
    have listed : role.1 ∈ pool.threads := by
      rw [spoken.threads]
      exact List.mem_map_of_mem member
    grind [pends_of_ended]
  constructor
  · intro userId token
    refine le_trans ?_ (guarded.once userId token)
    rw [spoken.threads, List.countP_map]
    simp_all [List.countP_mono_left, spent]
  · intro userId ended token accepts
    exact (guarded.kept.listed userId token _ le_rfl accepts).resolve_right
      (settled userId ended token)
  · intro userId ended token after accepts
    have revoked : (auth random).wp (revokeAllUserTokens userId)
        (fun _ after => after = pool.state.revoked userId) pool.state := wp_invalidateAllForUser rfl
    have same : after = pool.state.revoked userId := wp_sound (auth random) revoked []
    rw [same, now_revoked, accepts_revoked] at accepts
    obtain ⟨unlisted, before⟩ := accepts
    apply unlisted
    exact ⟨rfl, (guarded.kept.listed userId token _ le_rfl
      before).resolve_right (settled userId ended token)⟩

end

/-- The service before its first call. -/
def freshRegistry (now : Date) (drawn : ℕ) : World where
  cache := .empty
  now
  drawn

theorem guarded_fresh {random : ℕ → String} (now : Date) (drawn : ℕ) :
    Guarded random (freshRegistry now drawn) [] := by
  constructor
  · exact ⟨fun _ _ _ _ => nofun, fun _ _ _ => nofun⟩
  · exact nofun
  · exact fun _ => Nat.zero_le _
  · exact fun _ _ _ => nofun
  · rintro userId token ⟨time, member⟩
    cases member
  · exact fun _ _ => Nat.zero_le _
  · exact nofun
  · exact nofun
  · exact nofun
  · exact nofun
  · exact nofun

/-- In every interleaving in which no call writes what another one has
outrun: a token is redeemed once, and what is accepted is listed. -/
theorem tokens_safe_unoutrun {random : ℕ → String}
    (injective : Function.Injective random) (now : Date) (drawn : ℕ) {turns : List AuthTurn}
    (isUnoutrun : Along (tokenRace random) Unoutrun ⟨freshRegistry now drawn, []⟩ turns) :
    TokensSafe random (run (tokenRace random) ⟨freshRegistry now drawn, []⟩ turns) := by
  obtain ⟨cast, spoken, guarded⟩ := Pool.spoken_invariant (Guarded random) speaks_program
    (fun _ _ _ _ _ _ guarded isUnoutrun spoke => guarded_spoke injective guarded isUnoutrun spoke)
    (guarded_fresh now drawn) isUnoutrun
  exact guarded.tokensSafe random spoken

/-- So many effects of one call, none failing. -/
def authTurns (index count : ℕ) : List AuthTurn := List.replicate count (.perform index none)

def sampleLogin : AuthCall := .getTokens sampleUser "a@b.c"

def sampleRefresh (draw : ℕ) : AuthCall := .refreshTokens sampleUser "a@b.c" (sampleRandom draw)

/-- Two logins, whose lists do not get into each other's way, a refresh, and
a second one with the same token, which revokes all. -/
theorem refresh_and_reuse :
    TokensSafe sampleRandom (run (tokenRace sampleRandom) ⟨freshRegistry 0 1, []⟩
      ([.spawn sampleLogin, .spawn sampleLogin] ++ authTurns 0 3 ++
        authTurns 1 2 ++ authTurns 0 2 ++ authTurns 1 3 ++
        [.spawn (sampleRefresh 1), .outside 1000] ++ authTurns 2 9 ++
        [.spawn (sampleRefresh 1)] ++ authTurns 3 6)) :=
  tokens_safe_unoutrun sampleRandom_injective 0 1 (by decide)

/-- Two refreshes with one token that both look it up before either deletes
it give two new pairs; and of two logins that both read the list before either
writes it, one leaves a token that no revocation reaches. -/
theorem token_redeemed_twice :
    ¬ TokensSafe sampleRandom (run (tokenRace sampleRandom) ⟨freshRegistry 0 1, []⟩
        ([.spawn sampleLogin] ++ authTurns 0 5 ++
          [.spawn (sampleRefresh 1), .spawn (sampleRefresh 1)] ++
          authTurns 1 1 ++ authTurns 2 1 ++ authTurns 1 8 ++ authTurns 2 8)) ∧
      ¬ TokensSafe sampleRandom (run (tokenRace sampleRandom) ⟨freshRegistry 0 1, []⟩
        ([.spawn sampleLogin, .spawn sampleLogin] ++ authTurns 0 4 ++
          authTurns 1 4 ++ authTurns 0 1 ++ authTurns 1 1)) := by
  refine ⟨fun safe => ?_, fun safe => ?_⟩
  · exact absurd (safe.once sampleUser (sampleRandom 1)) (by decide)
  · have ended := safe.revoked sampleUser (by decide) (sampleRandom 1)
    exact ended (by decide)

end MarketX.Auth
