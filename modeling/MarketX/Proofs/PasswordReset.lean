/-
Module: MarketX.Proofs.PasswordReset
Purpose: Refresh tokens and reset tokens of the authentication module over
  whole histories of calls: which of them are accepted, and for how long.
Trusted boundary: human-reviewed definition of Session, sessionStep, Accepts,
  Revokes, Fresh and ResetsPassword
Main exports: Session, sessionStep, Accepts, refresh_tokens_revoked, mailed_token_resets
-/
import MarketX.Authentication.Rules
import MarketX.Effects.Credentials
import MarketX.Effects.Runs

namespace MarketX.Authentication

open Effects AuthService UsersService

variable {Token : Type}

/-! ### Histories -/

/-- The service; every refresh token that was given, with the id of its user;
and those that have been exchanged, or had been given to somebody who has
logged out since. -/
structure Session (Token : Type) where
  world : World Token
  given : List (ℤ × Token) := []
  retired : List Token := []

def Session.tokensOf (session : Session Token) (id : ℤ) : List Token :=
  (session.given.filter fun grant => grant.1 = id).map Prod.snd

def Session.give (session : Session Token) (userId : String) (token : Token) : Session Token :=
  match parseInt userId with
  | none => session
  | some id => { session with given := (id, token) :: session.given }

def Session.logOut (session : Session Token) (userId : String) :
    Session Token :=
  match parseInt userId with
  | none => session
  | some id =>
    { session with retired := session.tokensOf id ++ session.retired }

section

variable [DecidableEq Token] (jwt : Jwt Token) (secrets : Secrets)
  (bcrypt : String → String → String)

def sessionStep (session : Session Token) (timed : Timed Token) :
    Session Token :=
  match timed.call, authStep jwt secrets bcrypt session.world timed with
  | .login user, (world, .ok (.tokens response)) =>
    { session with world }.give user.id response.refreshToken
  | .refreshTokens userId token, (world, .ok (.tokens response)) =>
    { session with
      world
      retired := token :: session.retired }.give userId response.refreshToken
  | .logout userId, (world, .ok _) => { session with world }.logOut userId
  | _, (world, _) => { session with world }

/-! ### The property and the condition -/

/-- `refreshTokens` gives new tokens for this one. -/
def Accepts (world : World Token) (now : Date) (userId : String) (token : Token) : Prop :=
  (refreshTokens jwt secrets now userId token world).isOk = true

/-- At most one token of a user is accepted, and none that was exchanged, or
given to its user before they logged out. -/
structure Revokes (session : Session Token) : Prop where
  single : ∀ now later userId sameId token other, parseInt userId = parseInt sameId →
      Accepts jwt secrets session.world now userId token →
        Accepts jwt secrets session.world later sameId other → token = other
  retired : ∀ token ∈ session.retired, ∀ now userId,
    ¬ Accepts jwt secrets session.world now userId token

def acceptedUser (world : World Token) (userId : String) (token : Token) :
    Option (Users Token) :=
  ((parseInt userId).bind (rowAt world.users)).filter fun user =>
    user.deletedAt = none ∧ user.isActive = true ∧ user.refreshToken = some token

/-- What the refresh token that a call gives is made of, and the token that is
exchanged for it. -/
def issue (world : World Token) (timed : Timed Token) :
    Option (Claims × List Token) :=
  match timed.call with
  | .login user => some (refreshClaims secrets timed.now user.id user.email user.role, [])
  | .refreshTokens userId token =>
    (acceptedUser world userId token).map fun user =>
      (refreshClaims secrets timed.now user.id.repr user.email user.role, [token])
  | _ => none

/-- No refresh token is given that has the payload of a retired one and was
issued in the same second. -/
def Fresh (session : Session Token) (timed : Timed Token) : Prop :=
  ∀ issued ∈ issue secrets session.world timed,
    ∀ token ∈ issued.2 ++ session.retired, ∀ old ∈ jwt.read token,
      ¬ (old.payload = issued.1.payload ∧ old.iat = issued.1.iat)

instance (session : Session Token) (timed : Timed Token) :
    Decidable (Fresh jwt secrets session timed) := inferInstanceAs (Decidable (∀ _ ∈ _, _))

end

/-! ### Logging out -/

/-- The refresh tokens of a session are credentials of the users. -/
def Session.Kept (jwt : Jwt Token) (session : Session Token) : Prop :=
  Credentials (ownerOf jwt) (heldBy session.world.users) session.given session.retired

theorem Session.Kept.of_same {jwt : Jwt Token} {session : Session Token}
    {after : World Token} (kept : session.Kept jwt)
    (same : heldBy after.users = heldBy session.world.users) :
    ({ session with world := after } : Session Token).Kept jwt := by
  rw [Session.Kept, same]
  exact kept

theorem kept_logout {jwt : Jwt Token} {session : Session Token} {userId : String}
    {after : World Token} (kept : session.Kept jwt)
    (called : logout userId session.world = .ok ((), after)) :
    ({ session with world := after }.logOut userId).Kept jwt := by
  obtain ⟨id, parsed, placed⟩ := updateRefreshToken_ok called
  have theirs : ∀ token ∈ session.tokensOf id, (id, token) ∈ session.given := by
    intro token member
    obtain ⟨grant, listed, rfl⟩ := List.mem_map.mp member
    grind
  have dropped := kept.drop theirs
  simp only [Session.logOut, parsed, Session.Kept]
  rcases placed with ⟨same, missing⟩ | held
  · rw [same]
    have vacant : Function.update (heldBy session.world.users) id none =
        heldBy session.world.users := by
      rw [Function.update_eq_self_iff, heldBy, missing]
      rfl
    rwa [vacant] at dropped
  · rwa [held]

/-! ### Accepted tokens -/

section

variable [DecidableEq Token] {jwt : Jwt Token} {secrets : Secrets}
  {bcrypt : String → String → String} {world : World Token}

variable {userId : String} {token : Token} {now : Date} {session : Session Token}
  {timed : Timed Token} {response : AuthResponseDto Token} {after : World Token}

theorem acceptedUser_eq_some {user : Users Token} :
    acceptedUser world userId token = some user ↔
      Finds world (parseInt userId) user ∧ user.isActive = true ∧
        user.refreshToken = some token := by
  rw [acceptedUser, Option.filter_eq_some_iff, Option.bind_eq_some_iff]
  simp only [decide_eq_true_eq, rowAt_eq_some]
  constructor
  · rintro ⟨⟨id, parsed, rfl, stored⟩, alive, active, held⟩
    exact ⟨⟨parsed, stored, alive⟩, active, held⟩
  · rintro ⟨⟨parsed, stored, alive⟩, active, held⟩
    exact ⟨⟨_, parsed, rfl, stored⟩, alive, active, held⟩

theorem accepts_iff :
    Accepts jwt secrets world now userId token ↔
      ∃ user, Finds world (parseInt userId) user ∧ user.isActive = true ∧
        user.refreshToken = some token := by
  rw [Accepts]
  constructor
  · intro accepts
    cases called : refreshTokens jwt secrets now userId token world with
    | error error =>
      rw [called] at accepts
      cases accepts
    | ok done =>
      obtain ⟨user, finds, active, stored, _⟩ := refreshTokens_ok.mp called
      exact ⟨user, finds, active, stored⟩
  · rintro ⟨user, finds, active, stored⟩
    rw [refreshTokens_ok.mpr ⟨user, finds, active, stored, rfl, rfl⟩]
    rfl

theorem Accepts.held (accepts : Accepts jwt secrets world now userId token) :
    ∃ id, parseInt userId = some id ∧ heldBy world.users id = some token := by
  obtain ⟨user, finds, _, stored⟩ := accepts_iff.mp accepts
  refine ⟨user.id, finds.1, ?_⟩
  rw [heldBy, finds.row]
  exact stored

/-! ### One call -/

theorem Fresh.not_mem
    (fresh : Fresh jwt secrets session timed) {claims : Claims} {exchanged : List Token}
    (issued : issue secrets session.world timed = some (claims, exchanged)) :
    jwt.sign claims ∉ exchanged ++ session.retired := fun member =>
  fresh _ issued _ member claims (jwt.read_sign claims) ⟨rfl, rfl⟩

theorem kept_login {user : User} (kept : session.Kept jwt)
    (fresh : Fresh jwt secrets session ⟨now, .login user⟩)
    (called : login jwt secrets now user session.world = .ok (response, after)) :
    ({ session with world := after }.give user.id response.refreshToken).Kept jwt := by
  obtain ⟨token, updated⟩ := login_ok called
  obtain ⟨id, parsed, placed⟩ := updateRefreshToken_ok updated
  have made : ownerOf jwt response.refreshToken = some id := by
    rw [token, ownerOf_sign]
    exact parsed
  simp only [Session.give, parsed, Session.Kept]
  rcases placed with ⟨same, _⟩ | held
  · rw [same]
    exact kept.offer made
  · rw [held]
    refine kept.give made ?_
    rw [token]
    exact fresh.not_mem rfl

theorem kept_refresh (kept : session.Kept jwt)
    (fresh : Fresh jwt secrets session ⟨now, .refreshTokens userId token⟩)
    (called : refreshTokens jwt secrets now userId token session.world = .ok (response, after)) :
    ({ session with
        world := after
        retired := token :: session.retired }.give userId
      response.refreshToken).Kept jwt := by
  obtain ⟨user, finds, active, stored, rfl, rfl⟩ := refreshTokens_ok.mp called
  have held : heldBy session.world.users user.id = some token := by
    rw [heldBy, finds.row]
    exact stored
  have issued : issue secrets session.world ⟨now, .refreshTokens userId token⟩ =
      some (refreshClaims secrets now user.id.repr user.email user.role, [token]) := by
    simp only [issue, acceptedUser_eq_some.mpr ⟨finds, active, stored⟩, Option.map_some]
  simp only [Session.give, finds.1, Session.Kept, heldBy_withUser]
  refine kept.exchange held ?_ (fresh.not_mem issued)
  rw [ownerOf_sign]
  exact parseInt_repr user.id

theorem kept_step (kept : session.Kept jwt) (fresh : Fresh jwt secrets session timed) :
    (sessionStep jwt secrets bcrypt session timed).Kept jwt := by
  obtain ⟨now, call⟩ := timed
  rw [sessionStep, authStep]
  cases outcome : call.program jwt secrets bcrypt now session.world with
  | error error => simp_all
  | ok done =>
    obtain ⟨answer, after⟩ := done
    cases call with
    | login user =>
      obtain ⟨response, called, rfl⟩ := map_ok.mp outcome
      exact kept_login kept fresh called
    | refreshTokens userId token =>
      obtain ⟨response, called, rfl⟩ := map_ok.mp outcome
      exact kept_refresh kept fresh called
    | logout userId =>
      obtain ⟨_, _, called, answered⟩ := bind_ok.mp outcome
      cases answered
      exact kept_logout kept called
    | requestPasswordReset email =>
      obtain ⟨text, called, rfl⟩ := map_ok.mp outcome
      exact kept.of_same (congrArg heldBy (requestPasswordReset_ok called).1)
    | resetPassword token newPassword salt =>
      obtain ⟨text, called, rfl⟩ := map_ok.mp outcome
      exact kept.of_same (resetPassword_held called)

/-! ### Histories of calls -/

theorem Session.Kept.revokes (kept : session.Kept jwt) : Revokes jwt secrets session where
  single now later userId sameId token other same accepts also := by
    obtain ⟨id, parsed, held⟩ := accepts.held
    obtain ⟨id', parsed', held'⟩ := also.held
    simp_all
  retired token member now userId accepts := by
    obtain ⟨id, _, held⟩ := accepts.held
    exact kept.gone member held

/-- A service into which nobody has logged in yet. -/
def openService (users : Table (Users Token)) : Session Token where
  world := { users }

/-- In every history of calls in which no refresh token is given that has the
payload of a retired one and was issued in the same second, at most one token
of a user is accepted at any time, and none that is retired. -/
theorem refresh_tokens_revoked (jwt : Jwt Token) (secrets : Secrets)
    (bcrypt : String → String → String) (users : Table (Users Token))
    (vacant : ∀ id user, users.row id = some user → user.refreshToken = none)
    (calls : List (Timed Token)) (fresh : Along (sessionStep jwt secrets bcrypt) (Fresh jwt secrets)
      (openService users) calls) :
    Revokes jwt secrets (run (sessionStep jwt secrets bcrypt) (openService users) calls) := by
  have initially : (openService users).Kept jwt := by
    refine Credentials.empty fun id => ?_
    show (rowAt users id).bind Users.refreshToken = none
    cases found : rowAt users id with
    | none => rfl
    | some user => exact vacant _ _ (rowAt_eq_some.mp found).2
  have preserved : ∀ (session : Session Token) timed, session.Kept jwt →
      Fresh jwt secrets session timed → (sessionStep jwt secrets bcrypt session timed).Kept jwt :=
    fun _ _ => kept_step
  exact (run_invariant preserved initially fresh).revokes

end

/-- Signed tokens that show their claims, beside all other texts. -/
inductive PlainToken where
  | signed (claims : Claims)
  | other (text : String)
deriving DecidableEq

def plainJwt : Jwt PlainToken where
  sign := .signed
  read
    | .signed claims => some claims
    | .other _ => none
  read_sign _ := rfl
  sign_of_read {token claims} found := by
    cases token with
    | signed read => cases found; rfl
    | other text => cases found

/-- One user. -/
def ana : Users PlainToken where
  id := 7
  email := "ana@example.org"
  password := some "secret"
  name := "Ana"

/-- The user as the login knows them. -/
def anaSignedIn : User where
  id := "7"
  email := "ana@example.org"

def anaToken (second : ℤ) : PlainToken :=
  .signed (refreshClaims {} (second * 1000) "7" "ana@example.org" none)

/-- A login, a refresh, a logout and a login, each in its own second. -/
def separateSeconds : List (Timed PlainToken) :=
  [⟨1000, .login anaSignedIn⟩, ⟨2500, .refreshTokens "7" (anaToken 1)⟩,
    ⟨3000, .logout "7"⟩, ⟨4000, .login anaSignedIn⟩]

theorem vacant_ana : ∀ id user,
    (Table.empty.save ana).row id = some user → user.refreshToken = none := by
  intro id user found
  rw [Table.row_save] at found
  split at found
  next => cases found; rfl
  next => cases found

theorem separate_seconds_revoked :
    Revokes plainJwt {} (run (sessionStep plainJwt {} fun text _ => text)
      (openService (Table.empty.save ana)) separateSeconds) :=
  refresh_tokens_revoked plainJwt {} (fun text _ => text)
    (Table.empty.save ana) vacant_ana separateSeconds (by decide)

/-- A login, a logout and another login within one second: the token of the
first login is accepted again. -/
theorem token_revived :
    ¬ Revokes plainJwt {} (run (sessionStep plainJwt {} fun text _ => text)
      (openService (Table.empty.save ana)) [⟨1000, .login anaSignedIn⟩, ⟨1300, .logout "7"⟩,
        ⟨1600, .login anaSignedIn⟩]) := fun revokes =>
  revokes.retired (anaToken 1) (by decide) 2000 "7" (by unfold Accepts; decide)

end MarketX.Authentication

namespace MarketX.Authentication

open Effects AuthService UsersService

variable {Token : Type}

/-! ### Rows stay -/

def Persists (world after : World Token) : Prop := ∀ id user, world.users.row id = some user →
    ∃ later, after.users.row id = some later ∧ later.deletedAt = user.deletedAt

theorem Persists.refl (world : World Token) : Persists world world :=
  fun _ user found => ⟨user, found, rfl⟩

variable {world after : World Token}

theorem Persists.trans {middle : World Token}
    (first : Persists world middle) (second : Persists middle after) :
    Persists world after := by
  intro id user found
  obtain ⟨later, stored, same⟩ := first id user found
  obtain ⟨last, kept, again⟩ := second id later stored
  exact ⟨last, kept, again.trans same⟩

theorem persists_withUser {user changed : Users Token} (found : world.users.row user.id = some user)
    (key : changed.id = user.id) (same : changed.deletedAt = user.deletedAt) :
    Persists world (world.withUser changed) := by
  intro id row stored
  have keyed : Keyed.key changed = user.id := key
  grind [World.withUser, Table.row_save]

theorem persists_updateRefreshToken {id : Option ℤ} {token : Option Token}
    (updated : updateRefreshToken id token world = .ok ((), after)) :
    Persists world after := by
  obtain ⟨_, _, ⟨_, rfl⟩ | ⟨user, found, rfl⟩⟩ := update_cases updated
  · exact Persists.refl after
  · exact persists_withUser (rowAt_eq_some.mp found).2 rfl rfl

section

variable [DecidableEq Token] {jwt : Jwt Token} {secrets : Secrets}
  {bcrypt : String → String → String} {world after : World Token}

theorem persists_step (world : World Token) (timed : Timed Token) :
    Persists world (advance (authStep jwt secrets bcrypt) world timed) := by
  obtain ⟨now, call⟩ := timed
  rw [advance, authStep]
  cases outcome : call.program jwt secrets bcrypt now world with
  | error error => exact Persists.refl world
  | ok done =>
    obtain ⟨answer, after⟩ := done
    cases call with
    | login user =>
      obtain ⟨response, called, rfl⟩ := map_ok.mp outcome
      exact persists_updateRefreshToken (login_ok called).2
    | refreshTokens userId token =>
      obtain ⟨response, called, rfl⟩ := map_ok.mp outcome
      obtain ⟨user, finds, _, _, _, rfl⟩ := refreshTokens_ok.mp called
      exact persists_withUser finds.2.1 rfl rfl
    | logout userId =>
      obtain ⟨_, _, called, answered⟩ := bind_ok.mp outcome
      cases answered
      exact persists_updateRefreshToken called
    | requestPasswordReset email =>
      obtain ⟨text, called, rfl⟩ := map_ok.mp outcome
      intro id user found
      exact ⟨user, by rw [(requestPasswordReset_ok called).1]; exact found, rfl⟩
    | resetPassword token newPassword salt =>
      obtain ⟨text, called, rfl⟩ := map_ok.mp outcome
      obtain ⟨_, user, _, _, finds, _, rfl⟩ := resetPassword_ok.mp called
      exact persists_withUser finds.2.1 rfl rfl

/-! ### Refresh tokens -/

theorem accepts_withPassword {user : Users Token} {password : Option String}
    (found : world.users.row user.id = some user) {now : Date} {userId : String} {token : Token} :
    Accepts jwt secrets (world.withUser { user with password }) now userId token ↔
      Accepts jwt secrets world now userId token := by
  rw [accepts_iff, accepts_iff]
  have rows (id : Id) : (world.withUser { user with password }).users.row id =
      if id = user.id then some { user with password }
      else world.users.row id := Table.row_save _ _ _
  constructor
  · rintro ⟨row, ⟨parsed, stored, alive⟩, active, held⟩
    rw [rows] at stored
    split at stored
    next same =>
      cases stored
      exact ⟨user, ⟨parsed, found, alive⟩, active, held⟩
    next => exact ⟨row, ⟨parsed, stored, alive⟩, active, held⟩
  · rintro ⟨row, ⟨parsed, stored, alive⟩, active, held⟩
    by_cases same : row.id = user.id
    · rw [same, found] at stored
      cases stored
      exact ⟨{ user with password }, ⟨parsed, by rw [rows, if_pos rfl], alive⟩, active, held⟩
    · exact ⟨row, ⟨parsed, by rw [rows, if_neg same]; exact stored, alive⟩, active, held⟩

theorem accepts_resetPassword (world : World Token) (now later : Date)
    (reset : Token) (newPassword salt userId : String) (token : Token) :
    Accepts jwt secrets (advance (authStep jwt secrets bcrypt) world
        ⟨now, .resetPassword reset newPassword salt⟩) later userId token ↔
      Accepts jwt secrets world later userId token := by
  rw [advance, authStep]
  cases outcome : AuthCall.program jwt secrets bcrypt now
      (.resetPassword reset newPassword salt) world with
  | error error => rfl
  | ok done =>
    obtain ⟨answer, after⟩ := done
    obtain ⟨text, called, rfl⟩ := map_ok.mp outcome
    obtain ⟨_, user, _, _, finds, _, rfl⟩ := resetPassword_ok.mp called
    exact accepts_withPassword finds.2.1

/-! ### Mailed tokens -/

section

variable (jwt : Jwt Token) (secrets : Secrets) (bcrypt : String → String → String)

/-- What a reset token that was mailed at a time does to the service: before
its fifteen minutes are over it changes the password of the user it was mailed
to, and nothing else, and afterwards it is refused; and no reset changes which
refresh tokens are accepted. -/
structure ResetsPassword (world : World Token)
    (mail : PasswordResetEmail Token) (requested : Date) : Prop where
  accepted : ∃ user, user.id.repr = mail.userId ∧ world.users.row user.id = some user ∧
    ∀ now newPassword salt, seconds now < seconds requested + resetTokenExpiration →
        authStep jwt secrets bcrypt world ⟨now, .resetPassword mail.resetToken newPassword salt⟩ =
          (world.withUser { user with password := some (bcrypt newPassword salt) }, .ok (.message
              "Password successfully reset. You can now log in."))
  expired : ∀ now newPassword salt, seconds requested + resetTokenExpiration ≤ seconds now →
      authStep jwt secrets bcrypt world ⟨now, .resetPassword mail.resetToken newPassword salt⟩ =
        (world, .error (.badRequest "Invalid or expired reset token"))
  sessions : ∀ now reset newPassword salt later userId token,
    Accepts jwt secrets (advance (authStep jwt secrets bcrypt) world
        ⟨now, .resetPassword reset newPassword salt⟩) later userId token ↔
      Accepts jwt secrets world later userId token

end

theorem resetsPassword_of_row {user : Users Token} {requested : Date}
    {mail : PasswordResetEmail Token} (found : world.users.row user.id = some user)
    (alive : user.deletedAt = none) {asked : Users Token}
    (key : user.id = asked.id) (owner : mail.userId = asked.id.repr) (signed : mail.resetToken =
      jwt.sign (resetClaims secrets requested asked)) :
    ResetsPassword jwt secrets bcrypt world mail requested where
  accepted := by
    refine ⟨user, by rw [owner, key], found, ?_⟩
    intro now newPassword salt inTime
    have called : resetPassword jwt secrets bcrypt now mail.resetToken
        newPassword salt world = .ok (_, _) := resetPassword_ok.mpr ⟨_, user,
        by rw [signed, verifyAsync_resetClaims, if_pos inTime], rfl,
        ⟨by rw [key]; exact parseInt_repr asked.id, found, alive⟩, rfl, rfl⟩
    have outcome : AuthCall.program jwt secrets bcrypt now
        (.resetPassword mail.resetToken newPassword salt) world =
        .ok (_, _) := map_ok.mpr ⟨_, called, rfl⟩
    rw [authStep, outcome]
  expired := by
    intro now newPassword salt late
    have refused : resetPassword jwt secrets bcrypt now mail.resetToken newPassword salt world =
        .error (.badRequest "Invalid or expired reset token") := by
      rw [resetPassword, signed, verifyAsync_resetClaims, if_neg (not_lt.mpr late)]
      rfl
    have outcome : AuthCall.program jwt secrets bcrypt now
        (.resetPassword mail.resetToken newPassword salt) world =
        .error (.badRequest "Invalid or expired reset token") := by
      show resetPassword jwt secrets bcrypt now mail.resetToken newPassword salt world >>= _ = _
      rw [refused]
      rfl
    rw [authStep, outcome]
  sessions now reset newPassword salt later userId token :=
    accepts_resetPassword world now later reset newPassword salt userId token

/-! ### Histories -/

theorem persists_run (jwt : Jwt Token) (secrets : Secrets)
    (bcrypt : String → String → String) (start : World Token) (calls : List (Timed Token)) :
    Persists start (run (advance (authStep jwt secrets bcrypt)) start calls) := by
  have preserved : ∀ world timed, Persists start world →
      Persists start (advance (authStep jwt secrets bcrypt) world timed) :=
    fun world timed before => before.trans (persists_step world timed)
  exact run_preserves preserved (Persists.refl start) calls

/-- Whatever is called before and after a reset token is mailed, and however
often it has been used, it resets the password of its user for fifteen
minutes, and no reset changes which refresh tokens are accepted. -/
theorem mailed_token_resets (jwt : Jwt Token) (secrets : Secrets)
    (bcrypt : String → String → String) (start : World Token)
    (before after : List (Timed Token)) (requested : Date) (email : String)
    (mail : PasswordResetEmail Token) (mailed : (authStep jwt secrets bcrypt
        (run (advance (authStep jwt secrets bcrypt)) start before)
        ⟨requested, .requestPasswordReset email⟩).1.emails =
      mail :: (run (advance (authStep jwt secrets bcrypt)) start before).emails) :
    ResetsPassword jwt secrets bcrypt (run (advance (authStep jwt secrets bcrypt)) start
        (before ++ ⟨requested, .requestPasswordReset email⟩ :: after))
      mail requested := by
  set world := run (advance (authStep jwt secrets bcrypt)) start before with reached
  have split : run (advance (authStep jwt secrets bcrypt)) start
      (before ++ ⟨requested, .requestPasswordReset email⟩ :: after) =
      run (advance (authStep jwt secrets bcrypt)) world
        (⟨requested, .requestPasswordReset email⟩ :: after) := List.foldl_append
  have kept := persists_run jwt secrets bcrypt world
    (⟨requested, .requestPasswordReset email⟩ :: after)
  rw [split]
  rw [authStep] at mailed
  cases outcome : AuthCall.program jwt secrets bcrypt requested
      (.requestPasswordReset email) world with
  | error error =>
    rw [outcome] at mailed
    exact absurd mailed (List.cons_ne_self _ _).symm
  | ok done =>
    obtain ⟨answer, queued⟩ := done
    obtain ⟨text, called, rfl⟩ := map_ok.mp outcome
    rw [outcome] at mailed
    obtain ⟨_, same | ⟨asked, found, alive, emails⟩⟩ := requestPasswordReset_ok called
    · exact absurd (mailed.symm.trans same) (List.cons_ne_self _ _)
    · obtain ⟨rfl, _⟩ := List.cons.inj (mailed.symm.trans emails)
      obtain ⟨user, stored, same⟩ := kept asked.id asked found
      have key : user.id = asked.id := Table.keyed _ stored
      rw [← key] at stored
      exact resetsPassword_of_row stored (same.trans alive) key rfl rfl

end

/-- The service with a hash that shows the password. -/
def plainStep := authStep plainJwt {} fun password _ => password

/-- The mail with the reset token of the first second. -/
def anaMail : PasswordResetEmail PlainToken where
  userId := "7"
  toAddress := "ana@example.org"
  name := "Ana"
  resetToken := .signed (resetClaims {} 1000 ana)
  expiryTime := "15 minutes"

/-- A login, and a mailed reset token that is used. -/
def usedOnce : List (Timed PlainToken) :=
  [⟨0, .login anaSignedIn⟩, ⟨1000, .requestPasswordReset ana.email⟩,
    ⟨2000, .resetPassword anaMail.resetToken "first" ""⟩]

theorem used_token_resets :
    ResetsPassword plainJwt {} (fun password _ => password)
      (run (advance plainStep) ⟨Table.empty.save ana, []⟩ usedOnce)
      anaMail 1000 := mailed_token_resets plainJwt {} (fun password _ => password)
    ⟨Table.empty.save ana, []⟩ [⟨0, .login anaSignedIn⟩]
    [⟨2000, .resetPassword anaMail.resetToken "first" ""⟩] 1000 ana.email
    anaMail (by decide)

/-- A reset token that has changed the password changes it again, and the
refresh token from before both changes is still accepted. -/
theorem reset_token_reused :
    let used := run (advance plainStep) ⟨Table.empty.save ana, []⟩ usedOnce
    let again := advance plainStep used ⟨3000, .resetPassword anaMail.resetToken "second" ""⟩
    (used.users.row 7).bind Users.password = some "first" ∧
      (again.users.row 7).bind Users.password = some "second" ∧
      Accepts plainJwt {} again 4000 "7" (anaToken 0) := by
  unfold Accepts
  decide

end MarketX.Authentication
