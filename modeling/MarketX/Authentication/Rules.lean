/-
Module: MarketX.Authentication.Rules
Purpose: What a call of the auth service does: which refresh token is stored
  with whom before and after, and what it answers.
Trusted boundary: none
Main exports: heldBy, ownerOf, World.withUser, refreshTokens_ok_iff
-/
import MarketX.Authentication.AuthService

namespace MarketX.Authentication

open Effects AuthService UsersService

variable {Token : Type}

/-! ### Computations -/

variable {α β : Type} {world after : World Token} {id : Option ℤ} {user : Users Token}

theorem bind_ok {first : Service Token α} {rest : α → Service Token β} {result : β} :
    (first >>= rest) world = .ok (result, after) ↔
      ∃ value middle, first world = .ok (value, middle) ∧
        rest value middle = .ok (result, after) := by
  show first world >>= (fun done => rest done.1 done.2) = _ ↔ _
  cases first world with
  | error error => exact ⟨nofun, fun ⟨_, _, called, _⟩ => nomatch called⟩
  | ok done =>
    constructor
    · exact fun called => ⟨done.1, done.2, rfl, called⟩
    · rintro ⟨value, middle, ⟨⟩, called⟩
      exact called

theorem map_ok {first : Service Token α} {make : α → β} {result : β} :
    (make <$> first) world = .ok (result, after) ↔
      ∃ value, first world = .ok (value, after) ∧ make value = result := by
  show first world >>= (fun done => pure (make done.1, done.2)) = _ ↔ _
  cases first world with
  | error error => exact ⟨nofun, fun ⟨_, called, _⟩ => nomatch called⟩
  | ok done =>
    constructor
    · rintro ⟨⟩
      exact ⟨done.1, rfl, rfl⟩
    · rintro ⟨value, ⟨⟩, rfl⟩
      rfl

/-! ### Rows -/

/-- The refresh token that is stored in the row with an id. -/
def heldBy (users : Table (Users Token)) (id : ℤ) : Option Token :=
  (rowAt users id).bind Users.refreshToken

/-- The user whose id a token has as its subject. -/
def ownerOf (jwt : Jwt Token) (token : Token) : Option ℤ :=
  (jwt.read token).bind fun claims => parseInt claims.payload.sub

theorem ownerOf_sign (jwt : Jwt Token) (claims : Claims) :
    ownerOf jwt (jwt.sign claims) = parseInt claims.payload.sub := by
  rw [ownerOf, jwt.read_sign, Option.bind_some]

theorem rowAt_eq_some {users : Table (Users Token)} {id : ℤ} :
    rowAt users id = some user ↔ id = (user.id : ℤ) ∧ users.row user.id = some user := by
  rw [rowAt]
  constructor
  · intro found
    split at found
    next => cases found
    next natural =>
      have key : user.id = id.toNat := users.keyed found
      rw [key]
      exact ⟨by omega, found⟩
  · simp_all

theorem rowAt_save (users : Table (Users Token)) (user : Users Token) (id : ℤ) :
    rowAt (users.save user) id = if id = (user.id : ℤ) then some user else rowAt users id := by
  by_cases same : id = (user.id : ℤ)
  · rw [if_pos same, rowAt_eq_some]
    exact ⟨same, users.row_save_self user⟩
  · rw [if_neg same, rowAt, rowAt]
    split
    next => rfl
    next natural =>
      refine users.row_save_of_ne user fun key => same ?_
      have key : id.toNat = user.id := key
      omega

/-- A row that is written over a row. -/
def World.withUser (world : World Token) (user : Users Token) : World Token :=
  { world with users := world.users.save user }

theorem heldBy_withUser (world : World Token) :
    heldBy (world.withUser user).users = Function.update (heldBy world.users) (user.id : ℤ)
        user.refreshToken := by grind [heldBy, World.withUser, rowAt_save]

theorem heldBy_withUser_same {id : ℤ}
    {changed : Users Token} (found : rowAt world.users id = some user)
    (key : changed.id = user.id) (same : changed.refreshToken = user.refreshToken) :
    heldBy (world.withUser changed).users = heldBy world.users := by
  rw [heldBy_withUser, same, key]
  refine Function.update_eq_self_iff.mpr ?_
  have found : rowAt world.users (user.id : ℤ) = some user :=
    rowAt_eq_some.mpr ⟨rfl, (rowAt_eq_some.mp found).2⟩
  rw [heldBy, found, Option.bind_some]

/-! ### The users service -/

/-- The row a number finds: it is there, and not deleted. -/
def Finds (world : World Token) (id : Option ℤ) (user : Users Token) : Prop :=
  id = some (user.id : ℤ) ∧ world.users.row user.id = some user ∧ user.deletedAt = none

theorem findOne_some (id : ℤ) (world : World Token) :
    findOne (some id) world = (match (rowAt world.users id).filter (·.deletedAt.isNone) with
      | some user => pure user
      | none => throw (.notFound s!"User with ID {id} not found")
      : Service Token (Users Token)) world := rfl

theorem findOne_ok :
    findOne id world = .ok (user, after) ↔ Finds world id user ∧ after = world := by
  cases id with
  | none =>
    constructor
    · rintro ⟨⟩
    · rintro ⟨⟨⟨⟩, _⟩, _⟩
  | some id =>
    rw [findOne_some]
    constructor
    · cases looked : (rowAt world.users id).filter (·.deletedAt.isNone) with
      | none => rintro ⟨⟩
      | some row =>
        rintro ⟨⟩
        obtain ⟨found, alive⟩ := Option.filter_eq_some_iff.mp looked
        obtain ⟨key, found⟩ := rowAt_eq_some.mp found
        exact ⟨⟨by rw [key], found, Option.isNone_iff_eq_none.mp alive⟩, rfl⟩
    · rintro ⟨⟨key, found, alive⟩, rfl⟩
      cases key
      rw [rowAt_eq_some.mpr ⟨rfl, found⟩, Option.filter_some, alive]
      rfl

theorem Finds.unique {other : Users Token} (finds : Finds world id user)
    (also : Finds world id other) : other = user := by
  have keys := finds.1.symm.trans also.1
  have key : user.id = other.id := Int.natCast_inj.mp (Option.some.inj keys)
  have stored := also.2.1
  rw [← key, finds.2.1] at stored
  exact (Option.some.inj stored).symm

theorem Finds.row (finds : Finds world id user) :
    rowAt world.users (user.id : ℤ) = some user := rowAt_eq_some.mpr ⟨rfl, finds.2.1⟩

theorem validateRefreshToken_ok [DecidableEq Token] {userId : String} {token : Token}
    {isValid : Bool} :
    validateRefreshToken userId token world = .ok (isValid, after) ↔
      ∃ user, Finds world (parseInt userId) user ∧
        isValid = decide (user.refreshToken = some token) ∧ after = world := by
  simp only [validateRefreshToken, bind_ok, findOne_ok]
  constructor
  · rintro ⟨user, _, ⟨finds, rfl⟩, compared⟩
    cases compared
    exact ⟨user, finds, rfl, rfl⟩
  · rintro ⟨user, finds, rfl, rfl⟩
    exact ⟨user, after, ⟨finds, rfl⟩, rfl⟩

theorem update_some (id : ℤ) (change : Users Token → Users Token) (world : World Token) :
    update (some id) change world = .ok ((), match rowAt world.users id with
      | some user => { world with users := world.users.save (change user) }
      | none => world) := rfl

theorem update_row {id : ℤ}
    (found : rowAt world.users id = some user) (change : Users Token → Users Token) :
    update (some id) change world =
      .ok ((), world.withUser (change user)) := by
  rw [update_some, found]
  rfl

theorem update_missing {id : ℤ} (missing : rowAt world.users id = none)
    (change : Users Token → Users Token) :
    update (some id) change world = .ok ((), world) := by
  rw [update_some, missing]

theorem update_cases
    {change : Users Token → Users Token} (updated : update id change world = .ok ((), after)) :
    ∃ key, id = some key ∧ (rowAt world.users key = none ∧ after = world ∨
        ∃ user, rowAt world.users key = some user ∧ after = world.withUser (change user)) := by
  cases id with
  | none => cases updated
  | some key =>
    refine ⟨key, rfl, ?_⟩
    cases found : rowAt world.users key <;> grind [update_missing, update_row]

theorem updateRefreshToken_ok {token : Option Token}
    (updated : updateRefreshToken id token world = .ok ((), after)) :
    ∃ key, id = some key ∧ (heldBy after.users = heldBy world.users ∧ rowAt world.users key = none ∨
        heldBy after.users =
          Function.update (heldBy world.users) key token) := by
  obtain ⟨key, parsed, ⟨missing, rfl⟩ | ⟨user, found, rfl⟩⟩ := update_cases updated
  · exact ⟨key, parsed, .inl ⟨rfl, missing⟩⟩
  · refine ⟨key, parsed, .inr ?_⟩
    rw [heldBy_withUser, (rowAt_eq_some.mp found).1]

/-! ### The auth service -/

section

variable {jwt : Jwt Token} {secrets : Secrets} {bcrypt : String → String → String} {now : Date}
  {world after : World Token}

variable {response : AuthResponseDto Token} {token : Token} {answer newPassword salt : String}

theorem login_ok {user : User} (called : login jwt secrets now user world = .ok (response, after)) :
    response.refreshToken = jwt.sign (refreshClaims secrets now user.id user.email user.role) ∧
      updateRefreshToken (parseInt user.id) (some response.refreshToken)
        world = .ok ((), after) := by
  obtain ⟨_, middle, updated, answered⟩ := bind_ok.mp called
  cases answered
  exact ⟨rfl, updated⟩

/-- A refresh succeeds with the token that is stored with a user who is there
and active, and stores a new one. -/
theorem refreshTokens_ok [DecidableEq Token] {userId : String} :
    refreshTokens jwt secrets now userId token world = .ok (response, after) ↔
      ∃ user, Finds world (parseInt userId) user ∧ user.isActive = true ∧
        user.refreshToken = some token ∧
        response = {
          accessToken :=
            (generateTokens jwt secrets now user.id.repr user.email
              user.role).1
          refreshToken :=
            jwt.sign
              (refreshClaims secrets now user.id.repr user.email user.role)
          user := {
            id := user.id.repr
            email := user.email
            firstName := some user.name
            lastName := some ""
            role := some (roleOf user.role) } } ∧ after = world.withUser
          { user with refreshToken := some response.refreshToken } := by
  simp only [refreshTokens, bind_ok, findOne_ok]
  constructor
  · rintro ⟨user, _, ⟨finds, rfl⟩, called⟩
    split at called
    next => cases called
    next active =>
      simp only [bind_ok, validateRefreshToken_ok] at called
      obtain ⟨_, _, ⟨again, found, rfl, rfl⟩, called⟩ := called
      cases finds.unique found
      split at called
      next => cases called
      next valid =>
        obtain ⟨_, _, updated, answered⟩ := bind_ok.mp called
        rw [updateRefreshToken, update_row finds.row] at updated
        cases updated
        cases answered
        refine ⟨user, finds, ?_, ?_, rfl, rfl⟩
        · simpa using active
        · simpa using valid
  · rintro ⟨user, finds, active, stored, rfl, rfl⟩
    refine ⟨user, world, ⟨finds, rfl⟩, ?_⟩
    rw [if_neg (by simp [active])]
    refine bind_ok.mpr ⟨true, world, validateRefreshToken_ok.mpr
      ⟨user, finds, (decide_eq_true stored).symm, rfl⟩, ?_⟩
    exact bind_ok.mpr ⟨(), _, update_row finds.row _, rfl⟩

/-! ### Resetting a password -/

theorem requestPasswordReset_ok {email : String}
    (called : requestPasswordReset jwt secrets now email world = .ok (answer, after)) :
    after.users = world.users ∧ (after.emails = world.emails ∨
        ∃ user, world.users.row user.id = some user ∧ user.deletedAt = none ∧
          after.emails = {
            userId := user.id.repr
            toAddress := user.email
            name := user.name
            resetToken := jwt.sign (resetClaims secrets now user)
            expiryTime := "15 minutes" } :: world.emails) := by
  obtain ⟨found, middle, looked, called⟩ := bind_ok.mp called
  obtain ⟨rfl, rfl⟩ := Prod.mk.inj (Except.ok.inj looked)
  cases searched : world.users.rows.find? (fun user : Users Token =>
      user.email = email ∧ user.deletedAt.isNone) with
  | none =>
    rw [searched] at called
    cases called
    exact ⟨rfl, .inl rfl⟩
  | some user =>
    rw [searched] at called
    obtain ⟨_, _, queued, answered⟩ := bind_ok.mp called
    cases queued
    cases answered
    have member := List.mem_of_find?_eq_some searched
    have alive := List.find?_some searched
    simp only [decide_eq_true_eq, Option.isNone_iff_eq_none] at alive
    exact ⟨rfl, .inr ⟨user, Table.mem_rows.mp member, alive.2, rfl⟩⟩

theorem verifyAsync_resetClaims (now requested : Date) (user : Users Token) :
    jwt.verifyAsync now (jwt.sign (resetClaims secrets requested user)) secrets.accessTokenSecret =
      if seconds now < seconds requested + resetTokenExpiration then
        some (resetClaims secrets requested user).payload
      else none := by
  rw [Jwt.verifyAsync, jwt.read_sign]
  simp only [resetClaims, true_and]

/-- A reset succeeds with an unexpired reset token of a user who is there,
and changes their password. -/
theorem resetPassword_ok :
    resetPassword jwt secrets bcrypt now token newPassword salt world = .ok (answer, after) ↔
      ∃ payload user, jwt.verifyAsync now token secrets.accessTokenSecret = some payload ∧
        payload.type = .passwordReset ∧ Finds world (parseInt payload.sub) user ∧
        answer = "Password successfully reset. You can now log in." ∧ after = world.withUser
          { user with password := some (bcrypt newPassword salt) } := by
  rw [resetPassword]
  cases verified : jwt.verifyAsync now token secrets.accessTokenSecret with
  | none => exact ⟨nofun, fun ⟨_, _, called, _⟩ => nomatch called⟩
  | some payload =>
    constructor
    · intro called
      dsimp only at called
      split at called
      next => cases called
      next kind =>
        simp only [bind_ok, findOne_ok] at called
        obtain ⟨user, _, ⟨finds, rfl⟩, _, _, updated, answered⟩ := called
        rw [updatePassword, update_row finds.row] at updated
        cases updated
        cases answered
        exact ⟨payload, user, rfl, not_not.mp kind, finds, rfl, rfl⟩
    · rintro ⟨_, user, ⟨⟩, kind, finds, rfl, rfl⟩
      dsimp only
      rw [if_neg (not_not.mpr kind)]
      exact bind_ok.mpr ⟨user, world, findOne_ok.mpr ⟨finds, rfl⟩,
        bind_ok.mpr ⟨(), _, update_row finds.row _, rfl⟩⟩

theorem resetPassword_held (called : resetPassword jwt secrets bcrypt now token newPassword salt
      world = .ok (answer, after)) :
    heldBy after.users = heldBy world.users := by
  obtain ⟨_, user, _, _, finds, _, rfl⟩ := resetPassword_ok.mp called
  exact heldBy_withUser_same finds.row rfl rfl

end

end MarketX.Authentication
