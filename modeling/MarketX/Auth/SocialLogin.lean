/-
Module: MarketX.Auth.SocialLogin
Purpose: Logins through another provider (`auth/auth.service.ts`,
  `auth/types/oauth-profile.types.ts`, `users/users.service.ts`), and when
  every identity keeps its one user.
Trusted boundary: human-reviewed model of the source; the signature of a token
  is a parameter
Main exports: OAuthProfile, validateOAuthProfile, UsersTable, logins_lawful_iff
-/
import MarketX.Common.Service
import MarketX.Effects.Runs
import MarketX.Effects.Table

namespace MarketX.SocialLogin

open Effects

/-! ### Profiles -/

inductive OAuthProvider where
  | google
  | github
deriving DecidableEq

def OAuthProvider.text : OAuthProvider → String
  | .google => "google"
  | .github => "github"

/-- What a strategy hands on.  The strategies turn everything into text; an
email that the provider does not tell is empty. -/
structure OAuthProfile where
  provider : OAuthProvider
  providerId : String
  email : String
  name : String
  avatarUrl : Option String := none
deriving DecidableEq

def isValidOAuthProfile (profile : OAuthProfile) : Bool :=
  profile.providerId ≠ "" && profile.name ≠ ""

/-- The message lists which keys the profile has. -/
def validateOAuthProfile (profile : OAuthProfile) : Except String Unit :=
  if isValidOAuthProfile profile then .ok ()
  else
    .error ("Invalid OAuth profile: \x7b\"hasProvider\":true," ++
      "\"hasProviderId\":true,\"hasEmail\":true,\"hasName\":true," ++
        s!"\"hasAvatarUrl\":{profile.avatarUrl.isSome}\x7d")

/-! ### Users -/

/-- A row of the users table, as far as a login reads or writes it. -/
structure Users where
  id : Id
  email : String
  password : Option String
  name : String
  avatarUrl : Option String := none
  oauthProvider : Option String := none
  oauthProviderId : Option String := none
  deletedAt : Option Date := none
deriving DecidableEq

instance : Keyed Users := ⟨Users.id⟩

/-- The two rows may stand in one table: emails are unique, and so are the ids
of the providers where there is one. -/
def Users.Apart (user other : Users) : Prop := user.email ≠ other.email ∧
    (user.oauthProviderId = none ∨ user.oauthProviderId ≠ other.oauthProviderId)

instance (user other : Users) : Decidable (user.Apart other) := inferInstanceAs (Decidable (_ ∧ _))

/-- The table with the unique constraints of its columns.  They hold of
deleted rows as well. -/
structure UsersTable where
  table : Table Users
  unique : ∀ user ∈ table.rows, ∀ other ∈ table.rows, user ≠ other → user.Apart other

structure CreateUserDto where
  email : String
  name : String
  password : Option String
  avatarUrl : Option String
  oauthProvider : Option String
  oauthProviderId : Option String
deriving DecidableEq

/-- `userRepository.create` of a request, under the key the table gives. -/
def CreateUserDto.entity (dto : CreateUserDto) (id : Id) : Users where
  id
  email := dto.email
  password := dto.password
  name := dto.name
  avatarUrl := dto.avatarUrl
  oauthProvider := dto.oauthProvider
  oauthProviderId := dto.oauthProviderId

namespace UsersTable

theorem Apart.symm {user other : Users} (apart : user.Apart other) :
    other.Apart user := by
  refine ⟨apart.1.symm, ?_⟩
  rcases apart.2 with missing | differ <;> grind

/-- A new row that may stand beside all the others. -/
def inserted (users : UsersTable) (new : Users) (fresh : users.table.next ≤ new.id)
    (free : ∀ row ∈ users.table.rows, new.Apart row) : UsersTable where
  table := users.table.save new
  unique := by
    rw [Table.rows_save_of_next_le fresh]
    intro user member other memberOther differ
    rcases List.mem_append.mp member with old | isNew <;>
      rcases List.mem_append.mp memberOther with oldOther | isNewOther
    · exact users.unique user old other oldOther differ
    · cases List.mem_singleton.mp isNewOther
      exact Apart.symm (free user old)
    · cases List.mem_singleton.mp isNew
      exact free other oldOther
    · cases List.mem_singleton.mp isNew
      cases List.mem_singleton.mp isNewOther
      exact absurd rfl differ

end UsersTable

/-- The notification that greets a new user, a WELCOME by email. -/
structure WelcomeNotification where
  userId : String
  title : String
  message : String
  name : String
  email : String
deriving DecidableEq

/-- `user.created`. -/
structure UserCreatedEvent where
  id : String
  email : String
  name : String
  createdAt : Date
deriving DecidableEq

structure World where
  users : UsersTable
  now : Date := 0
  notifications : List WelcomeNotification := []
  events : List UserCreatedEvent := []

abbrev Service := StateT World (Except HttpException)

namespace UsersService

/-- Only rows that are not deleted are found. -/
def findByEmail (email : String) : Service (Option Users) := do
  pure ((← get).users.table.rows.find? fun user => user.email = email ∧ user.deletedAt = none)

/-- `name || other`. -/
def nameOr (name other : String) : String := if name = "" then other else name

/-- The mail and the event for a user that was just stored. -/
def welcomed (world : World) (user : Users) : World :=
  { world with
    notifications := world.notifications ++
      [{ userId := user.id.repr
         title := "Welcome to MarketX!"
         message := "Hi " ++ nameOr user.name "there" ++
           ", welcome to MarketX! " ++ "We're glad to have you here."
         name := nameOr user.name "User"
         email := user.email }]
    events := world.events ++
      [{ id := user.id.repr
         email := user.email
         name := user.name
         createdAt := world.now }] }

/-- The insertion throws where it would break a unique constraint. -/
def create (dto : CreateUserDto) : Service Users := do
  let world ← get
  let user := dto.entity world.users.table.next
  if free : ∀ row ∈ world.users.table.rows, user.Apart row then
    set (welcomed { world with users := world.users.inserted user (Nat.le_refl _) free } user)
    pure user
  else
    throw (.error "duplicate key value violates unique constraint")

end UsersService

/-! ### Logins -/

structure JwtPayload where
  sub : Id
  email : String
deriving DecidableEq

/-- Signing a token; whose it is can be read from it. -/
structure Jwt (Token : Type) where
  sign : JwtPayload → Token
  read : Token → Option JwtPayload
  read_sign : ∀ payload, read (sign payload) = some payload

namespace AuthService

variable {Token : Type} (jwt : Jwt Token)

/-- The user a new profile becomes. -/
def newUser (profile : OAuthProfile) : CreateUserDto where
  email := profile.email
  name := profile.name
  password := none
  avatarUrl := profile.avatarUrl
  oauthProvider := some profile.provider.text
  oauthProviderId := some profile.providerId

/-- The user is looked up by the email alone. -/
def findOrCreateOAuthUser (profile : OAuthProfile) : Service Token := do
  match validateOAuthProfile profile with
  | .error message => throw (.badRequest s!"Invalid OAuth profile: {message}")
  | .ok () =>
    let found ←
      if profile.email = "" then pure none
      else UsersService.findByEmail profile.email
    let user ← match found with
      | some user => pure user
      | none => UsersService.create (newUser profile)
    pure (jwt.sign { sub := user.id, email := user.email })

end AuthService

/-! ### Runs of logins -/

/-- A profile that `validateOAuthProfile` accepts. -/
abbrev Accepted := { profile : OAuthProfile // isValidOAuthProfile profile }

/-- Who logs in, as the provider knows them. -/
def OAuthProfile.identity (profile : OAuthProfile) : OAuthProvider × String :=
  (profile.provider, profile.providerId)

/-- A call of `findOrCreateOAuthUser`: whose token it returned, and whether
there is one more user now. -/
structure Login where
  profile : OAuthProfile
  user : Except HttpException (Option Id)
  created : Bool
deriving DecidableEq

/-- The users and so on, and the logins so far, oldest first. -/
structure Past where
  world : World
  logins : List Login := []

section

variable {Token : Type} (jwt : Jwt Token)

def login (past : Past) (profile : Accepted) : Past :=
  match AuthService.findOrCreateOAuthUser jwt profile past.world with
  | .error error =>
    { past with
      logins := past.logins ++
        [{ profile, user := .error error, created := false }] }
  | .ok (token, after) =>
    { world := after
      logins := past.logins ++
        [{ profile
           user := .ok ((jwt.read token).map JwtPayload.sub)
           created := past.world.users.table.rows.length <
             after.users.table.rows.length }] }

end

/-! ### The property -/

/-- The identity has presented the email. -/
def Presented (logins : List Login) (identity : OAuthProvider × String) (email : String) : Prop :=
  ∃ login ∈ logins, login.profile.identity = identity ∧ login.profile.email = email

/-- One user for each identity, a profile that comes again finds its user, and
identities that share no email share no user. -/
structure Lawful (logins : List Login) : Prop where
  same : ∀ first ∈ logins, ∀ second ∈ logins, first.profile.identity = second.profile.identity →
      ∀ user other, first.user = .ok user → second.user = .ok other → user = other
  again : logins.Pairwise fun first second =>
    first.profile = second.profile → second.user.isOk = true ∧ second.created = false
  apart : ∀ first ∈ logins, ∀ second ∈ logins, first.profile.identity ≠ second.profile.identity →
      ∀ user, first.user = .ok user → second.user = .ok user → ∃ email, email ≠ "" ∧
          Presented logins first.profile.identity email ∧
            Presented logins second.profile.identity email

/-! ### The condition -/

/-- The profile's email is there, and belongs to a user. -/
def known (world : World) (profile : OAuthProfile) : Bool :=
  profile.email ≠ "" && world.users.table.rows.any fun user =>
    user.email = profile.email ∧ user.deletedAt = none

/-- The email is of no user, and a new one would break a unique
constraint. -/
def refused (world : World) (profile : OAuthProfile) : Bool :=
  !known world profile && world.users.table.rows.any fun user =>
    user.email = profile.email ∨ user.oauthProviderId = some profile.providerId

/-- A profile comes again only with an email of a user; and an identity that
has logged in before presents the email of then, or one with which nobody can
log in. -/
structure Steady (past : Past) (profile : Accepted) : Prop where
  again : (∃ login ∈ past.logins, login.profile = profile) → known past.world profile = true
  same : ∀ login ∈ past.logins, login.user.isOk = true →
    login.profile.identity = profile.1.identity → login.profile.email = profile.1.email ∨
        refused past.world profile = true

/-! ### One login -/

/-- The three ways a login goes. -/
inductive LoggedIn (past : Past) (profile : Accepted) : Past → Prop where
  | found {user : Users} (named : profile.1.email ≠ "")
      (stored : past.world.users.table.row user.id = some user)
      (same : user.email = profile.1.email) (isKnown : known past.world profile = true) :
      LoggedIn past profile
        { past with
          logins := past.logins ++
            [{ profile, user := .ok (some user.id), created := false }] }
  | created {after : World} (isKnown : known past.world profile = false)
      (admitted : refused past.world profile = false)
      (table : after.users.table = past.world.users.table.save
        ((AuthService.newUser profile).entity past.world.users.table.next)) :
      LoggedIn past profile
        { world := after
          logins := past.logins ++
            [{ profile
               user := .ok (some past.world.users.table.next)
               created := true }] }
  | rejected {error : HttpException} (isRefused : refused past.world profile = true) :
      LoggedIn past profile
        { past with
          logins := past.logins ++
            [{ profile, user := .error error, created := false }] }

section

variable {Token : Type} {jwt : Jwt Token} {past : Past} {profile : Accepted}

variable {row : Users} {dto : CreateUserDto} {world : World} {after : Past} {logins : List Login}
  {last : Login}

theorem apart_newUser_iff {id : Id} {profile : OAuthProfile} :
    ((AuthService.newUser profile).entity id).Apart row ↔ ¬ (row.email = profile.email ∨
        row.oauthProviderId = some profile.providerId) := by
  simp [Users.Apart, CreateUserDto.entity, AuthService.newUser, ne_comm]

theorem validate_accepted (profile : Accepted) :
    validateOAuthProfile profile = .ok () := if_pos profile.2

/-- The user that is looked up. -/
def lookedUp (world : World) (profile : OAuthProfile) : Option Users :=
  if profile.email = "" then none
  else world.users.table.rows.find? fun user => user.email = profile.email ∧ user.deletedAt = none

theorem known_eq (world : World) (profile : OAuthProfile) :
    known world profile = (lookedUp world profile).isSome := by
  unfold known lookedUp
  grind

theorem signed_eq (found : Option Users) (dto : CreateUserDto) (world : World) :
    (do
      let user ← match found with
        | some user => pure user
        | none => UsersService.create dto
      pure (jwt.sign { sub := user.id, email := user.email }) :
        Service Token) world =
      match found with
      | some user => .ok (jwt.sign { sub := user.id, email := user.email }, world)
      | none =>
        (UsersService.create dto world).map fun stored =>
          (jwt.sign { sub := stored.1.id, email := stored.1.email }, stored.2) := by
  cases found <;> rfl

theorem findOrCreateOAuthUser_eq (world : World) (profile : Accepted) :
    AuthService.findOrCreateOAuthUser jwt profile world =
      match lookedUp world profile with
      | some user => .ok (jwt.sign { sub := user.id, email := user.email }, world)
      | none =>
        (UsersService.create (AuthService.newUser profile) world).map fun stored =>
            (jwt.sign { sub := stored.1.id, email := stored.1.email }, stored.2) := by
  rw [← signed_eq]
  unfold AuthService.findOrCreateOAuthUser lookedUp
  rw [validate_accepted]
  by_cases unnamed : profile.1.email = ""
  · rw [if_pos unnamed]
    simp only [unnamed, if_true]
    rfl
  · rw [if_neg unnamed]
    simp only [unnamed, if_false]
    rfl

theorem create_of_free (free : ∀ row ∈ world.users.table.rows,
      (dto.entity world.users.table.next).Apart row) :
    UsersService.create dto world = .ok (dto.entity world.users.table.next, UsersService.welcomed
        { world with
          users := world.users.inserted _ (Nat.le_refl _) free }
        (dto.entity world.users.table.next)) := by
  show (if free : _ then _ else _ : Service Users) world = _
  rw [dif_pos free]
  rfl

theorem create_of_not_free
    (taken : ¬ ∀ row ∈ world.users.table.rows, (dto.entity world.users.table.next).Apart row) :
    UsersService.create dto world =
      .error (.error "duplicate key value violates unique constraint") := by
  show (if free : _ then _ else _ : Service Users) world = _
  rw [dif_neg taken]
  rfl

theorem loggedIn (past : Past) (profile : Accepted) :
    LoggedIn past profile (login jwt past profile) := by
  unfold login
  rw [findOrCreateOAuthUser_eq]
  cases found : lookedUp past.world profile with
  | some user =>
    have isKnown : known past.world profile = true := by
      rw [known_eq, found]
      rfl
    unfold lookedUp at found
    split at found
    next => cases found
    next named =>
      have listed := List.mem_of_find?_eq_some found
      have tested : user.email = profile.1.email ∧ user.deletedAt = none :=
        by simpa using List.find?_some found
      simp only [jwt.read_sign, Option.map_some, Nat.lt_irrefl, decide_false]
      exact .found named (Table.mem_rows.mp listed) tested.1 isKnown
  | none =>
    have isKnown : known past.world profile = false := by
      rw [known_eq, found]
      rfl
    have admits : refused past.world profile = false ↔ ∀ row ∈ past.world.users.table.rows,
          ((AuthService.newUser profile).entity past.world.users.table.next).Apart row := by
      simp only [refused, isKnown, apart_newUser_iff]
      simp
    by_cases free : ∀ row ∈ past.world.users.table.rows, ((AuthService.newUser profile).entity
          past.world.users.table.next).Apart row
    · rw [create_of_free free]
      simp only [Except.map, jwt.read_sign, Option.map_some]
      have table : (UsersService.welcomed
          { past.world with
            users := past.world.users.inserted _ (Nat.le_refl _) free }
          ((AuthService.newUser profile).entity past.world.users.table.next)).users.table =
          past.world.users.table.save ((AuthService.newUser profile).entity
            past.world.users.table.next) := rfl
      generalize UsersService.welcomed _ _ = after at table ⊢
      have more : past.world.users.table.rows.length <
          after.users.table.rows.length := by
        rw [table, Table.rows_save_of_next_le (Nat.le_refl _), List.length_append]
        exact Nat.lt_succ_self _
      rw [decide_eq_true more]
      exact .created isKnown (admits.mpr free) table
    · rw [create_of_not_free free]
      have isRefused : refused past.world profile = true := by simp_all
      exact .rejected isRefused

/-! ### Every run -/

/-- A login that returned a token was for a user with that email. -/
def Recorded (past : Past) : Prop := ∀ login ∈ past.logins, ∀ user, login.user = .ok user →
    ∃ row, user = some row.id ∧ past.world.users.table.row row.id = some row ∧
        row.email = login.profile.email

theorem LoggedIn.recorded (step : LoggedIn past profile after) (recorded : Recorded past) :
    Recorded after := by
  cases step with
  | @found row named stored same =>
    intro login member user returned
    rcases List.mem_append.mp member with old | new
    · exact recorded login old user returned
    · grind
  | @created after isKnown admitted table =>
    intro login member user returned
    rw [table]
    rcases List.mem_append.mp member with old | new
    · obtain ⟨row, about, stored, same⟩ := recorded login old user returned
      refine ⟨row, about, ?_, same⟩
      rw [Table.row_save_of_ne]
      · exact stored
      · exact (past.world.users.table.bounded stored).ne
    · cases List.mem_singleton.mp new
      cases returned
      exact ⟨_, rfl, Table.row_save_self _ ((AuthService.newUser
        profile.1).entity past.world.users.table.next), rfl⟩
  | rejected =>
    intro login member user returned
    rcases List.mem_append.mp member with old | new
    · exact recorded login old user returned
    · cases List.mem_singleton.mp new
      cases returned

theorem UsersTable.eq_of_email {users : UsersTable} {user other : Users}
    (stored : users.table.row user.id = some user)
    (storedOther : users.table.row other.id = some other)
    (same : user.email = other.email) : user = other := by
  by_contra differ
  exact (users.unique user (Table.mem_rows.mpr stored) other
    (Table.mem_rows.mpr storedOther) differ).1 same

theorem not_refused_of_known {profile : OAuthProfile} (isKnown : known world profile = true) :
    refused world profile = false := by
  rw [refused, isKnown]
  rfl

theorem email_free {profile : OAuthProfile}
    (isKnown : known world profile = false) (admitted : refused world profile = false)
    (stored : world.users.table.row row.id = some row) :
    row.email ≠ profile.email := by
  intro same
  have taken : refused world profile = true := by
    rw [refused, isKnown]
    exact List.any_eq_true.mpr ⟨row, Table.mem_rows.mpr stored, decide_eq_true (.inl same)⟩
  rw [admitted] at taken
  cases taken

theorem forall_concat {related : Login → Login → Prop}
    (symmetric : ∀ {first second}, related first second → related second first)
    (among : ∀ first ∈ logins, ∀ second ∈ logins, related first second)
    (with_last : ∀ first ∈ logins, related first last) (itself : related last last) :
    ∀ first ∈ logins ++ [last], ∀ second ∈ logins ++ [last],
      related first second := by grind

theorem Presented.append {later : List Login} {identity : OAuthProvider × String} {email : String}
    (presented : Presented logins identity email) :
    Presented (logins ++ later) identity email := by
  obtain ⟨login, member, about⟩ := presented
  exact ⟨login, List.mem_append_left _ member, about⟩

theorem Lawful.concat (lawful : Lawful logins)
    (same : ∀ first ∈ logins, first.profile.identity = last.profile.identity →
      ∀ user other, first.user = .ok user → last.user = .ok other → user = other)
    (again : ∀ first ∈ logins, first.profile = last.profile →
      last.user.isOk = true ∧ last.created = false)
    (apart : ∀ first ∈ logins, ∀ user, first.user = .ok user → last.user = .ok user →
        first.profile.email ≠ "" ∧ first.profile.email = last.profile.email) :
    Lawful (logins ++ [last]) where
  same := by
    refine forall_concat ?_ lawful.same same ?_
    · simp_all
    · simp_all
  again := by grind [again]
  apart := by
    refine forall_concat ?_ ?_ ?_ ?_
    · grind
    · intro first member second memberSecond differ user returned other
      obtain ⟨email, named, one, two⟩ := lawful.apart first member second
        memberSecond differ user returned other
      exact ⟨email, named, one.append, two.append⟩
    · intro first member _ user returned returnedLast
      obtain ⟨named, shared⟩ := apart first member user returned returnedLast
      refine ⟨first.profile.email, named, ⟨first, List.mem_append_left _ member, rfl, rfl⟩, ?_⟩
      exact ⟨last, List.mem_append_right _ (List.mem_singleton_self _), rfl, shared.symm⟩
    · exact fun differ => absurd rfl differ

theorem LoggedIn.lawful (step : LoggedIn past profile after)
    (recorded : Recorded past) (lawful : Lawful past.logins)
    (steady : Steady past profile) : Lawful after.logins := by
  cases step with
  | @found row named stored sameEmail isKnown =>
    refine lawful.concat ?_ (fun _ _ _ => ⟨rfl, rfl⟩) ?_
    · intro first member identical user other returned returnedLast
      cases returnedLast
      obtain ⟨old, rfl, storedOld, email⟩ := recorded first member user returned
      rcases steady.same first member (by rw [returned]; rfl) identical with
        kept | isRefused
      · grind [UsersTable.eq_of_email]
      · simp_all [not_refused_of_known]
    · intro first member user returned returnedLast
      cases returnedLast
      obtain ⟨old, about, storedOld, email⟩ := recorded first member _ returned
      simp_all
  | @created world isKnown admitted table =>
    refine lawful.concat ?_ ?_ ?_
    · intro first member identical user other returned returnedLast
      obtain ⟨old, rfl, storedOld, email⟩ := recorded first member user returned
      rcases steady.same first member (by rw [returned]; rfl) identical with
        kept | isRefused
      · grind [email_free]
      · rw [admitted] at isRefused
        cases isRefused
    · intro first member repeated
      have again := steady.again ⟨first, member, repeated⟩
      rw [isKnown] at again
      cases again
    · intro first member user returned returnedLast
      cases returnedLast
      obtain ⟨old, about, storedOld, email⟩ := recorded first member _ returned
      grind [Table.row_next]
  | rejected isRefused =>
    refine lawful.concat (fun _ _ _ _ _ _ throws => nomatch throws) ?_
      (fun _ _ _ _ throws => nomatch throws)
    intro first member repeated
    have again := steady.again ⟨first, member, repeated⟩
    rw [not_refused_of_known again] at isRefused
    cases isRefused

theorem LoggedIn.steady (step : LoggedIn past profile after)
    (recorded : Recorded past) (lawful : Lawful after.logins) :
    Steady past profile := by
  have pairs : ∀ {last : Login}, after.logins = past.logins ++ [last] → ∀ first ∈ past.logins,
        (first.profile = last.profile → last.user.isOk = true ∧ last.created = false) ∧
        (first.profile.identity = last.profile.identity →
          ∀ user other, first.user = .ok user → last.user = .ok other → user = other) := by
    intro last split first member
    obtain ⟨same, again, -⟩ := lawful
    grind
  have returns : ∀ first ∈ past.logins, first.user.isOk = true →
      ∃ row, first.user = .ok (some row.id) ∧ past.world.users.table.row row.id = some row ∧
          row.email = first.profile.email := by
    intro first member ok
    cases returned : first.user with
    | error error =>
      rw [returned] at ok
      cases ok
    | ok user =>
      obtain ⟨row, rfl, stored, email⟩ := recorded first member user returned
      exact ⟨row, rfl, stored, email⟩
  cases step with
  | @found row named stored sameEmail isKnown =>
    refine ⟨fun _ => isKnown, fun first member ok identical => .inl ?_⟩
    grind
  | created isKnown admitted table =>
    constructor
    · simp_all
    · grind [Table.row_next]
  | rejected isRefused =>
    refine ⟨?_, fun first member ok identical => .inr isRefused⟩
    rintro ⟨first, member, repeated⟩
    cases ((pairs rfl first member).1 repeated).1

end

/-- Every history of logins is lawful, iff a profile comes again only with an
email of a user, and no identity comes with another email that lets it in. -/
theorem logins_lawful_iff {Token : Type} (jwt : Jwt Token) (world : World)
    (profiles : List Accepted) :
    (∀ front back, profiles = front ++ back → Lawful (run (login jwt) { world } front).logins) ↔
      Along (login jwt) Steady { world } profiles := by
  have start : Recorded { world } ∧ Lawful ({ world } : Past).logins :=
    ⟨List.forall_mem_nil _, List.forall_mem_nil _, .nil, List.forall_mem_nil _⟩
  have implies : ∀ past : Past, Recorded past ∧ Lawful past.logins →
      Lawful past.logins := fun _ => And.right
  refine reached_iff_along_of_invariant implies ?_ ?_ start
  · intro past profile invariant lawful
    exact (loggedIn past profile).steady invariant.1 lawful
  · intro past profile invariant steady
    have step : LoggedIn past profile (login jwt past profile) := loggedIn past profile
    exact ⟨step.recorded invariant.1, step.lawful invariant.1 invariant.2 steady⟩

/-! ### Two people -/

/-- A token that is its payload. -/
def plainJwt : Jwt JwtPayload := ⟨id, some, fun _ => rfl⟩

/-- Nobody has an account. -/
def newShop : World where
  users := { table := .empty, unique := List.forall_mem_nil _ }

/-- Ada has registered with a password. -/
def adaRegistered : World where
  users := newShop.users.inserted
    { id := 0, email := "ada@work.test", password := some "hash"
      name := "Ada" } (Nat.le_refl _) (List.forall_mem_nil _)

/-- Bob does not show his email. -/
def bob : Accepted :=
  ⟨{ provider := .github, providerId := "7", email := "", name := "Bob" }, by decide⟩

def ada (email : String) : Accepted :=
  ⟨{ provider := .google, providerId := "1", email, name := "Ada" }, rfl⟩

/-- Bob cannot log in again; and Ada, who first came in through her account,
gets a second one when she changes her email. -/
theorem social_login_unlawful :
    ¬ Lawful (run (login plainJwt) { world := newShop } [bob, bob]).logins ∧
      ¬ Lawful (run (login plainJwt) { world := adaRegistered }
        [ada "ada@work.test", ada "ada@home.test"]).logins := by
  constructor
  · intro lawful
    have refused : (run (login plainJwt) { world := newShop } [bob, bob]).logins =
      [⟨bob, .ok (some 0), true⟩, ⟨bob, .error (.error
          "duplicate key value violates unique constraint"), false⟩] := by decide
    rw [refused] at lawful
    have again := List.pairwise_pair.mp lawful.again rfl
    cases again.1
  · intro lawful
    have moved : (run (login plainJwt) { world := adaRegistered }
        [ada "ada@work.test", ada "ada@home.test"]).logins =
      [⟨ada "ada@work.test", .ok (some 0), false⟩,
        ⟨ada "ada@home.test", .ok (some 1), true⟩] := by decide
    rw [moved] at lawful
    have one := lawful.same _ List.mem_cons_self _
      (List.mem_cons_of_mem _ List.mem_cons_self) rfl _ _ rfl rfl
    cases one

end MarketX.SocialLogin
