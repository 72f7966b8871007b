/-
Module: MarketX.Proofs.TokenRotation
Purpose: Logins, refreshes with arbitrary strings, revocations and the passage
  of time, one after another: the accepted tokens are listed, each login has
  at most one, and what is revoked stays so.
Trusted boundary: human-reviewed definition of authStep and Rotates
Main exports: Grant, Session, AuthEvent, tokens_rotate
-/
import MarketX.Auth.Rules
import MarketX.Effects.Runs

namespace MarketX.Auth

open Effects Handler Caching AuthService TokenRegistryService

/-! ### Sessions -/

/-- A refresh token that was given to a user, and the login at the beginning
of its chain of rotations. -/
structure Grant where
  userId : UserId
  token : String
  login : ℕ
deriving DecidableEq

/-- The service, all tokens it has given, and the number of logins. -/
structure Session where
  world : World
  grants : List Grant := []
  logins : ℕ := 0

/-- The chain of a token; one that is accepted has been granted. -/
def Session.loginOf (session : Session) (userId : UserId) (token : String) : ℕ :=
  ((session.grants.find? fun grant =>
    grant.userId = userId ∧ grant.token = token).map Grant.login).getD session.logins

/-- A call of the auth service with the failures of its effects, or time. -/
inductive AuthEvent where
  | login (userId : UserId) (email : String) (faults : List Fault)
  | refresh (userId : UserId) (email token : String) (faults : List Fault)
  | revokeAll (userId : UserId)
  | elapse (milliseconds : ℕ)

def Session.grant (session : Session) (userId : UserId) (login : ℕ) :
    Except HttpException Tokens × World → Session
  | (.ok tokens, world) =>
    { session with
      world
      grants := ⟨userId, tokens.refreshToken, login⟩ :: session.grants }
  | (.error _, world) => { session with world }

section

variable (random : ℕ → String)

def authStep (session : Session) : AuthEvent → Session
  | .login userId email faults =>
    { session.grant userId session.logins
        ((auth random).exec (getTokens userId email) faults
          session.world) with
      logins := session.logins + 1 }
  | .refresh userId email token faults =>
    session.grant userId (session.loginOf userId token)
      ((auth random).exec (refreshTokens userId email token) faults session.world)
  | .revokeAll userId =>
    { session with
      world := ((auth random).exec (revokeAllUserTokens userId) []
        session.world).2 }
  | .elapse milliseconds =>
    { session with
      world := { session.world with
        now := session.world.now + milliseconds } }

/-! ### The property -/

/-- A refresh with it would be accepted. -/
def Session.Accepted (session : Session) (grant : Grant) : Prop :=
  Accepts session.world session.world.now grant.userId grant.token

/-- A refresh with an unknown or used token, or a revocation. -/
def Session.Revokes (session : Session) (userId : UserId) :
    AuthEvent → Prop
  | .refresh user _ token _ =>
    user = userId ∧ ¬ Accepts session.world session.world.now userId token
  | .revokeAll user => user = userId
  | _ => False

/-- Only granted tokens are accepted, and they are in the list of their user;
of each login's chain at most one is accepted; and none that was granted to a
user before all were revoked. -/
structure Rotates (start : Session) (events : List AuthEvent) : Prop where
  granted : ∀ userId token,
    let session := run (authStep random) start events
    Accepts session.world session.world.now userId token →
      ∃ grant ∈ session.grants, grant.userId = userId ∧ grant.token = token
  listed : ∀ userId token,
    let session := run (authStep random) start events
    Accepts session.world session.world.now userId token →
      token ∈ tokensAt session.world session.world.now userId
  single :
    let session := run (authStep random) start events
    ∀ grant ∈ session.grants, ∀ other ∈ session.grants,
      grant.login = other.login → session.Accepted grant → session.Accepted other → grant = other
  revoked : ∀ front event back userId, events = front ++ event :: back →
    (run (authStep random) start front).Revokes userId event →
      ∀ grant ∈ (run (authStep random) start front).grants, grant.userId = userId →
          ¬ (run (authStep random) start events).Accepted grant

/-! ### What the calls return -/

inductive Issues (world : World) (userId : UserId) :
    Except HttpException Tokens → World → Prop where
  | unsigned {error : HttpException} :
      Issues world userId (.error error) world.withDraw
  | issued {accessToken : AccessToken} :
      Issues world userId (.ok ⟨accessToken, random world.drawn⟩)
        (world.withDraw.stored userId (random world.drawn))

theorem wp_getTokens (userId : UserId) (email : String) (world : World) :
    (auth random).wp (getTokens userId email) (Issues random world userId)
      world := by
  apply wp_await_bind ?_ nofun
  apply wp_await_bind ?_ fun _ _ => .unsigned
  rw [wp_bind]
  apply wp_store
  exact .issued

theorem wp_refreshTokens (userId : UserId) (email token : String) (world : World) :
    (auth random).wp (refreshTokens userId email token) (fun result after =>
        (¬ Accepts world world.now userId token ∧ (∃ error, result = .error error) ∧
              after = world.revoked userId) ∨ (Accepts world world.now userId token ∧
            Issues random (world.invalidated userId token) userId result after)) world := by
  unfold refreshTokens tokenExists
  rw [wp_bind]
  apply wp_await_bind ?_ nofun
  apply wp_branch
  · intro unknown
    rw [Bool.not_eq_true'] at unknown
    rw [wp_bind]
    apply wp_invalidateAllForUser
    exact .inl ⟨ne_true_of_eq_false unknown, ⟨_, rfl⟩, rfl⟩
  · intro known
    rw [Bool.not_eq_true', Bool.not_eq_false] at known
    have accepts : Accepts world world.now userId token := known
    rw [wp_bind]
    apply wp_invalidate
    exact wp_mono _ (wp_getTokens random userId email _) fun _ _ issues => .inr ⟨accepts, issues⟩

end

/-! ### What a step can do -/

/-- No token is accepted that was not before, and nothing is listed. -/
structure Shrinks (world after : World) : Prop where
  now : world.now ≤ after.now
  drawn : world.drawn ≤ after.drawn
  accepts : ∀ time userId token, Accepts after time userId token → Accepts world time userId token
  listed : ∀ userId token, Listed after userId token → Listed world userId token
  kept : Kept world (fun _ _ => False) → Kept after fun _ _ => False

section

variable {world : World} {userId : UserId} {token : String}

theorem shrinks_refl : Shrinks world world :=
  ⟨le_rfl, le_rfl, fun _ _ _ => id, fun _ _ => id, id⟩

theorem shrinks_draw : Shrinks world world.withDraw :=
  ⟨le_rfl, Nat.le_succ _, fun _ _ _ => id, fun _ _ => id, fun kept => ⟨kept.listed, kept.bounded⟩⟩

theorem shrinks_elapse {now : Date} (passed : world.now ≤ now) :
    Shrinks world { world with now } :=
  ⟨passed, le_rfl, fun _ _ _ => id, fun _ _ => id, fun kept => kept.elapsed passed⟩

theorem shrinks_invalidated :
    Shrinks world (world.invalidated userId token) :=
  ⟨now_invalidated.ge, drawn_invalidated.ge,
    fun _ _ _ accepts => (accepts_invalidated.mp accepts).2,
    fun _ _ => listed_invalidated, Kept.afterInvalidate⟩

theorem shrinks_revoked : Shrinks world (world.revoked userId) :=
  ⟨now_revoked.ge, drawn_revoked.ge, fun _ _ _ accepts => (accepts_revoked.mp accepts).2,
    fun _ _ => listed_revoked, Kept.afterRevoke⟩

theorem Shrinks.trans {world middle after : World}
    (first : Shrinks world middle) (second : Shrinks middle after) :
    Shrinks world after :=
  ⟨first.now.trans second.now, first.drawn.trans second.drawn,
    fun time userId token accepts => first.accepts time userId token
      (second.accepts time userId token accepts),
    fun userId token listed => first.listed userId token (second.listed userId token listed),
    fun kept => second.kept (first.kept kept)⟩

end

section

variable {random : ℕ → String} {session after : Session}

/-- A step accepts and lists nothing new, or it draws a token and grants it
to a chain none of which is accepted. -/
inductive Moved (random : ℕ → String) (session : Session) : Session → Prop
  where
  | shrinks {world : World} {logins : ℕ} (less : Shrinks session.world world)
      (more : session.logins ≤ logins) :
      Moved random session { session with world, logins }
  | issues {world : World} {userId : UserId} {login logins : ℕ} (less : Shrinks session.world world)
      (free : ∀ grant ∈ session.grants, grant.login = login →
        ¬ Accepts world world.now grant.userId grant.token)
      (here : login < logins) (more : session.logins ≤ logins) :
      Moved random session
        { world := world.withDraw.stored userId (random world.drawn)
          grants := ⟨userId, random world.drawn, login⟩ :: session.grants
          logins }

/-- What holds between the calls: tokens are accepted or listed only if they
were drawn, and the lists cover what is accepted. -/
structure Rotating (random : ℕ → String) (session : Session) : Prop where
  kept : Kept session.world fun _ _ => False
  granted : ∀ userId token time, Accepts session.world time userId token →
    ∃ grant ∈ session.grants, grant.userId = userId ∧ grant.token = token
  drawnGrants : ∀ grant ∈ session.grants, ∃ draw < session.world.drawn, grant.token = random draw
  drawnLists : ∀ userId token, Listed session.world userId token →
    ∃ draw < session.world.drawn, token = random draw
  distinct : session.grants.Pairwise fun grant other => grant.token ≠ other.token
  single : ∀ grant ∈ session.grants, ∀ other ∈ session.grants,
    grant.login = other.login → session.Accepted grant → session.Accepted other → grant = other
  logins : ∀ grant ∈ session.grants, grant.login < session.logins

theorem Rotating.moved (injective : Function.Injective random) (rotating : Rotating random session)
    (moved : Moved random session after) : Rotating random after := by
  cases moved with
  | @shrinks world logins less more =>
    have accepted : ∀ grant : Grant, Accepts world world.now grant.userId grant.token →
          session.Accepted grant :=
      fun grant accepts => (less.accepts _ _ _ accepts).of_le less.now
    constructor
    · exact less.kept rotating.kept
    · exact fun userId token time accepts =>
        rotating.granted userId token time (less.accepts _ _ _ accepts)
    · intro grant member
      obtain ⟨draw, before, same⟩ := rotating.drawnGrants grant member
      exact ⟨draw, before.trans_le less.drawn, same⟩
    · intro userId token listed
      obtain ⟨draw, before, same⟩ := rotating.drawnLists userId token (less.listed _ _ listed)
      exact ⟨draw, before.trans_le less.drawn, same⟩
    · exact rotating.distinct
    · exact fun grant member other listed same first second =>
        rotating.single grant member other listed same
          (accepted grant first) (accepted other second)
    · exact fun grant member =>
        (rotating.logins grant member).trans_le more
  | @issues world userId login logins less free here more =>
    have new : ∀ draw < session.world.drawn, random draw ≠ random world.drawn := by
      intro draw before same
      have bound := less.drawn
      have equal := injective same
      omega
    have unlisted : ¬ Listed world userId (random world.drawn) := by
      intro listed
      obtain ⟨draw, before, same⟩ := rotating.drawnLists _ _ (less.listed _ _ listed)
      exact new draw before same.symm
    have others : ∀ grant ∈ session.grants, grant.token ≠ random world.drawn := by
      intro grant member same
      obtain ⟨draw, before, drawn⟩ := rotating.drawnGrants grant member
      exact new draw before (drawn.symm.trans same)
    -- an older grant is accepted only if it was in the middle
    have older : ∀ grant ∈ session.grants,
        Accepts (world.withDraw.stored userId (random world.drawn))
          (world.withDraw.stored userId (random world.drawn)).now grant.userId grant.token →
        Accepts world world.now grant.userId grant.token := by
      intro grant member accepts
      rw [now_stored, accepts_stored, if_neg] at accepts
      · exact accepts
      · exact fun same => others grant member same.2
    have accepted : ∀ grant : Grant, Accepts world world.now grant.userId grant.token →
          session.Accepted grant :=
      fun grant accepts => (less.accepts _ _ _ accepts).of_le less.now
    constructor
    · apply (shrinks_draw.kept (less.kept rotating.kept)).afterStore
      exact fun listed => unlisted ⟨_, listed⟩
    · intro other old time accepts
      rw [accepts_stored] at accepts
      split at accepts
      next same => exact ⟨_, List.mem_cons_self, same.1.symm, same.2.symm⟩
      next =>
        obtain ⟨grant, member, about⟩ :=
          rotating.granted other old time (less.accepts _ _ _ accepts)
        exact ⟨grant, List.mem_cons_of_mem _ member, about⟩
    · intro grant member
      rw [drawn_stored]
      rcases List.mem_cons.mp member with rfl | member
      · exact ⟨world.drawn, Nat.lt_succ_self _, rfl⟩
      · obtain ⟨draw, before, same⟩ := rotating.drawnGrants grant member
        exact ⟨draw, before.trans_le (less.drawn.trans (Nat.le_succ _)), same⟩
    · intro other old listed
      rw [drawn_stored]
      rcases listed_stored listed with before | rfl
      · obtain ⟨draw, bound, same⟩ := rotating.drawnLists _ _ (less.listed _ _ before)
        exact ⟨draw, bound.trans_le (less.drawn.trans (Nat.le_succ _)), same⟩
      · exact ⟨world.drawn, Nat.lt_succ_self _, rfl⟩
    · refine List.pairwise_cons.mpr ⟨?_, rotating.distinct⟩
      exact fun grant member => (others grant member).symm
    · intro grant member other listed same first second
      rcases List.mem_cons.mp member with rfl | member
      · rcases List.mem_cons.mp listed with rfl | listed
        · rfl
        · exact absurd (older other listed second) (free other listed same.symm)
      · rcases List.mem_cons.mp listed with rfl | listed
        · exact absurd (older grant member first) (free grant member same)
        · exact rotating.single grant member other listed same
            (accepted grant (older grant member first)) (accepted other (older other listed second))
    · intro grant member
      rcases List.mem_cons.mp member with rfl | member
      · exact here
      · exact (rotating.logins grant member).trans_le more

theorem Rotating.gone_moved (injective : Function.Injective random)
    (rotating : Rotating random session) (moved : Moved random session after) {grant : Grant}
    (member : grant ∈ session.grants) (gone : ¬ session.Accepted grant) :
    grant ∈ after.grants ∧ ¬ after.Accepted grant := by
  cases moved with
  | shrinks less more =>
    exact ⟨member, fun accepts => gone ((less.accepts _ _ _ accepts).of_le less.now)⟩
  | @issues world userId login logins less free here more =>
    refine ⟨List.mem_cons_of_mem _ member, fun accepts => ?_⟩
    have accepts : Accepts (world.withDraw.stored userId
        (random world.drawn)) (world.withDraw.stored userId
          (random world.drawn)).now grant.userId grant.token := accepts
    rw [now_stored, accepts_stored] at accepts
    split at accepts
    next same =>
      obtain ⟨draw, before, drawn⟩ := rotating.drawnGrants grant member
      have bound := less.drawn
      have equal := injective (drawn.symm.trans same.2)
      omega
    next => exact gone ((less.accepts _ _ _ accepts).of_le less.now)

theorem Session.loginOf_accepted (rotating : Rotating random session)
    {userId : UserId} {token : String}
    (accepts : Accepts session.world session.world.now userId token) :
    ∃ grant ∈ session.grants, grant.userId = userId ∧ grant.token = token ∧
      session.loginOf userId token = grant.login := by
  obtain ⟨grant, member, about⟩ := rotating.granted userId token _ accepts
  obtain ⟨found, search⟩ : ∃ found, session.grants.find? (fun grant =>
      grant.userId = userId ∧ grant.token = token) = some found := Option.isSome_iff_exists.mp
      (List.find?_isSome.mpr ⟨grant, member, decide_eq_true about⟩)
  grind [loginOf]

theorem Rotating.step (rotating : Rotating random session) (event : AuthEvent) :
    Moved random session (authStep random session event) := by
  cases event with
  | elapse milliseconds =>
    exact .shrinks (shrinks_elapse (Int.le_add_of_nonneg_right (Int.natCast_nonneg _))) le_rfl
  | revokeAll userId =>
    have revoked : (auth random).wp (revokeAllUserTokens userId)
        (fun _ after => after = session.world.revoked userId)
        session.world := wp_invalidateAllForUser rfl
    simp only [authStep, wp_sound (auth random) revoked []]
    exact .shrinks shrinks_revoked le_rfl
  | login userId email faults =>
    have result := wp_sound (auth random) (wp_getTokens random userId email session.world) faults
    simp only [authStep]
    generalize (auth random).exec (getTokens userId email) faults
      session.world = outcome at result ⊢
    obtain ⟨returned, world⟩ := outcome
    cases result with
    | unsigned => exact .shrinks shrinks_draw (Nat.le_succ _)
    | issued =>
      refine .issues shrinks_refl ?_ (Nat.lt_succ_self _) (Nat.le_succ _)
      exact fun grant member same => absurd same (rotating.logins grant member).ne
  | refresh userId email token faults =>
    have result := wp_sound (auth random)
      (wp_refreshTokens random userId email token session.world) faults
    simp only [authStep]
    generalize (auth random).exec (refreshTokens userId email token) faults
      session.world = outcome at result ⊢
    obtain ⟨returned, world⟩ := outcome
    rcases result with ⟨-, ⟨error, rfl⟩, rfl⟩ | ⟨accepts, issues⟩
    · exact .shrinks shrinks_revoked le_rfl
    cases issues with
    | unsigned => exact .shrinks (shrinks_invalidated.trans shrinks_draw) le_rfl
    | issued =>
      obtain ⟨old, member, about, same, login⟩ := session.loginOf_accepted rotating accepts
      refine .issues shrinks_invalidated ?_ ?_ le_rfl
      · intro grant listed sameLogin accepted
        rw [now_invalidated, accepts_invalidated] at accepted
        have only := rotating.single grant listed old member (sameLogin.trans login) accepted.2
          (by rw [Session.Accepted, about, same]; exact accepts)
        rw [only] at accepted
        exact accepted.1 ⟨about, same⟩
      · rw [login]
        exact rotating.logins old member

end

/-! ### Whole runs -/

section

variable {random : ℕ → String}

/-- The service before the first login. -/
def openSession (now : Date) (drawn : ℕ) : Session where
  world := { cache := .empty, now, drawn }

theorem rotating_open (now : Date) (drawn : ℕ) :
    Rotating random (openSession now drawn) := by
  have nothing : ∀ time userId token, ¬ Accepts (openSession now drawn).world time userId token :=
    fun _ _ _ => nofun
  constructor
  · exact ⟨fun userId token time _ accepts =>
      absurd accepts (nothing time userId token),
      fun userId token time accepts => absurd accepts (nothing time userId token)⟩
  · exact fun userId token time accepts => absurd accepts (nothing time userId token)
  · exact nofun
  · rintro userId token ⟨time, member⟩
    cases member
  · exact .nil
  · exact nofun
  · exact nofun

theorem rotating_run (injective : Function.Injective random)
    {start : Session} (rotating : Rotating random start) (events : List AuthEvent) :
    Rotating random (run (authStep random) start events) := run_preserves (fun _ event rotating =>
    rotating.moved injective (rotating.step event)) rotating events

theorem gone_run (injective : Function.Injective random) {start : Session}
    (rotating : Rotating random start) {grant : Grant}
    (member : grant ∈ start.grants) (gone : ¬ start.Accepted grant) (events : List AuthEvent) :
    ¬ (run (authStep random) start events).Accepted grant := by
  have preserved : ∀ session event, (Rotating random session ∧ grant ∈ session.grants ∧
        ¬ session.Accepted grant) → Rotating random (authStep random session event) ∧
        grant ∈ (authStep random session event).grants ∧
          ¬ (authStep random session event).Accepted grant := by
    rintro session event ⟨rotating, member, gone⟩
    exact ⟨rotating.moved injective (rotating.step event),
      rotating.gone_moved injective (rotating.step event) member gone⟩
  exact (run_preserves preserved ⟨rotating, member, gone⟩ events).2.2

theorem Rotating.revokes {session : Session} (rotating : Rotating random session)
    {event : AuthEvent} {userId : UserId} (revokes : session.Revokes userId event) {grant : Grant}
    (member : grant ∈ session.grants) (about : grant.userId = userId) :
    grant ∈ (authStep random session event).grants ∧
      ¬ (authStep random session event).Accepted grant := by
  have gone : ¬ Accepts (session.world.revoked userId)
      (session.world.revoked userId).now userId grant.token := by
    rw [now_revoked]
    exact rotating.kept.not_accepts_revoked le_rfl
  cases event with
  | login | elapse => cases revokes
  | revokeAll user =>
    cases revokes
    have revoked : (auth random).wp (revokeAllUserTokens userId)
        (fun _ after => after = session.world.revoked userId)
        session.world := wp_invalidateAllForUser rfl
    simp only [authStep, wp_sound (auth random) revoked []]
    exact ⟨member, fun accepts => gone (about ▸ accepts)⟩
  | refresh user email token faults =>
    obtain ⟨rfl, unknown⟩ := revokes
    have result := wp_sound (auth random)
      (wp_refreshTokens random user email token session.world) faults
    simp only [authStep]
    generalize (auth random).exec (refreshTokens user email token) faults
      session.world = outcome at result ⊢
    obtain ⟨returned, world⟩ := outcome
    rcases result with ⟨-, ⟨error, rfl⟩, rfl⟩ | ⟨known, -⟩
    · exact ⟨member, fun accepts => gone (about ▸ accepts)⟩
    · exact absurd known unknown

/-- In every sequence of logins, refreshes with arbitrary strings,
revocations and times passing, whichever signatures fail: the tokens
rotate. -/
theorem tokens_rotate (injective : Function.Injective random) (now : Date)
    (drawn : ℕ) (events : List AuthEvent) :
    Rotates random (openSession now drawn) events := by
  have rotating := rotating_run injective (rotating_open now drawn)
  constructor
  · intro userId token session accepts
    exact (rotating events).granted userId token _ accepts
  · intro userId token session accepts
    exact ((rotating events).kept.listed userId token _ le_rfl accepts).resolve_right id
  · exact (rotating events).single
  · rintro front event back userId rfl revokes grant member about
    have before := rotating front
    obtain ⟨kept, gone⟩ := before.revokes revokes member about
    have after := before.moved injective (before.step event)
    rw [run, List.foldl_append]
    exact gone_run injective after kept gone back

/-- A string for every draw. -/
def sampleRandom (draw : ℕ) : String := String.ofList (List.replicate draw 'f')

theorem sampleRandom_injective : Function.Injective sampleRandom := by
  intro draw other same
  have lengths := congrArg (fun text => text.toList.length) same
  simpa [sampleRandom] using lengths

def sampleUser : UserId := ⟨"7", by decide⟩

/-- A login is refreshed twice with one token: the second time everything is
revoked. -/
theorem stolen_token_revoked :
    Rotates sampleRandom (openSession 0 1) [.login sampleUser "a@b.c" [],
        .refresh sampleUser "a@b.c" (sampleRandom 1) [], .elapse 1000,
        .refresh sampleUser "a@b.c" (sampleRandom 1) []] :=
  tokens_rotate sampleRandom_injective 0 1 _

end

end MarketX.Auth
