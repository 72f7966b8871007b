/-
Module: MarketX.Proofs.RateLimitIsolation
Purpose: Which of the values that are given for a rate limit are used, and for
  which clients and endpoints the requests of one do not count for the other.
Trusted boundary: human-reviewed definition of Setting, mostSpecific, used,
  FollowsOrder, Target, Isolated and Distinct
Main exports: Setting, mostSpecific, used, settings_in_order_iff, isolated_iff_distinct
-/
import MarketX.RateLimiting.Requests
import MarketX.RateLimiting.RateLimitGuard

namespace MarketX.RateLimiting

open Numerals RateLimitGuard

/-! ### The property -/

/-- The members of a configuration. -/
inductive Setting where
  | windowMs
  | maxRequests
  | burstAllowance
deriving DecidableEq

def TierLimits.get (limits : TierLimits) : Setting → Option Number
  | .windowMs => limits.windowMs
  | .maxRequests => limits.maxRequests
  | .burstAllowance => limits.burstAllowance

def Settings.get (settings : Settings) : Setting → Property
  | .windowMs => settings.windowMs
  | .maxRequests => settings.maxRequests
  | .burstAllowance => settings.burstAllowance

section

variable (service : RateLimitService) (options : RateLimitOptions)
  (userTier : UserTier) (endpoint : Option String) (setting : Setting)

/-- What the options say for the tier. -/
def tierValue : Option Number :=
  (options.tierLimits userTier).bind fun limits => limits.get setting

/-- What the options say. -/
def optionValue : Option Number := options.toTierLimits.get setting

/-- What the tables say: for the endpoint, else for the tier. -/
def tableValue : Option Number :=
  ((service.settingsOf userTier endpoint none).get setting).read

/-- The most specific value that is given. -/
def mostSpecific : Option Number :=
  tierValue options userTier setting <|> optionValue options setting <|>
    tableValue service userTier endpoint setting

/-- The value that is used. -/
def used : Option Number :=
  ((service.settingsOf userTier endpoint
    (some (.ofEffective (getEffectiveConfig options userTier)))).get setting).read

/-- The value that is used is the most specific one, and there is one. -/
def FollowsOrder : Prop := used service options userTier endpoint setting =
      mostSpecific service options userTier endpoint setting ∧
    (used service options userTier endpoint setting).isSome

instance : Decidable (FollowsOrder service options userTier endpoint setting) :=
  inferInstanceAs (Decidable (_ ∧ _))

end

/-! ### What is used -/

section

variable {service : RateLimitService} {options : RateLimitOptions}
  {userTier : UserTier} {endpoint : Option String} {setting : Setting}

theorem read_spread_ofRead (property : Property) (number : Option Number) :
    (property.spread (.ofRead number)).read = number := by
  cases number <;> rfl

theorem used_eq : used service options userTier endpoint setting =
    orNumber (tierValue options userTier setting) (optionValue options setting) := by
  have handed : used service options userTier endpoint setting =
      (getEffectiveConfig options userTier).get setting := by
    cases setting <;> exact read_spread_ofRead _ _
  rw [handed]
  unfold getEffectiveConfig tierValue
  cases options.tierLimits userTier with
  | none => cases setting <;> rfl
  | some limits => cases setting <;> rfl

/-- A setting follows the order iff the tier gives a value that counts as
true, or the very value of the options, or nothing while the options give
one. -/
theorem followsOrder_iff :
    FollowsOrder service options userTier endpoint setting ↔
      match tierValue options userTier setting with
      | some value => truthyNumber value = true ∨ optionValue options setting = some value
      | none => (optionValue options setting).isSome := by
  unfold FollowsOrder mostSpecific
  rw [used_eq]
  cases tierValue options userTier setting with
  | none => cases optionValue options setting <;> simp [orNumber]
  | some value => by_cases counts : truthyNumber value = true <;> simp_all [orNumber]

variable (service options userTier endpoint) in
/-- All three values are defined and the most specific ones iff the decorator
gives each of them. -/
theorem settings_in_order_iff :
    (∀ setting, FollowsOrder service options userTier endpoint setting) ↔
      ∀ setting, match tierValue options userTier setting with
        | some value => truthyNumber value = true ∨ optionValue options setting = some value
        | none => (optionValue options setting).isSome :=
  forall_congr' fun _ => followsOrder_iff

end

/-! ### An option that is left out -/

/-- Five requests are allowed; the window is left out. -/
def fiveRequests : RateLimitOptions where
  maxRequests := some (.finite 5)

/-- The window of the tier, a minute, is lost. -/
theorem lost_window :
    ¬ ∀ setting, FollowsOrder .initial fiveRequests .free none setting := by
  intro follows
  exact absurd (follows .windowMs) (by decide)

/-- A limit of zero for a tier gives way to the option. -/
def zeroForFree : RateLimitOptions where
  windowMs := some (.finite 60000)
  maxRequests := some (.finite 5)
  burstAllowance := some (.finite 0)
  tierLimits := fun _ => some { maxRequests := some (.finite 0) }

example : used .initial zeroForFree .free none .maxRequests =
    some (.finite 5) := by decide

open Effects Handler Caching RateLimitService

/-! ### The property -/

/-- Whom and what a request is counted for. -/
structure Target where
  identifier : String
  endpoint : Option String
deriving DecidableEq

def Target.key (target : Target) : String := generateKey target.identifier target.endpoint

def RateLimitCall.target (call : RateLimitCall) : Target :=
  ⟨call.identifier, call.endpoint⟩

def checksFor (target : Target) : Inquiry → Bool
  | .check call _ => call.target = target
  | .status .. => false

def answersFor (target : Target) (answers : List Answer) : List Answer :=
  answers.filter fun answer => answer.1.target = target

/-- Whatever has been asked, the answers for one target are those that it would
get if nothing had been asked for the other. -/
def Isolated (service : RateLimitService) (other target : Target) : Prop := ∀ world history,
    answersFor target (answers service world history) = answersFor target (answers service world
        (history.map (Moment.without (checksFor other))))

/-- Where both have an endpoint, the identifiers or the alphanumeric skeletons
of the endpoints differ; where one has none, its identifier is not the other
one's with the skeleton behind it; where none has one, the identifiers
differ. -/
def Distinct (target other : Target) : Prop :=
  match target.endpoint.filter (· ≠ ""), other.endpoint.filter (· ≠ "") with
  | some endpoint, some endpoint' =>
    target.identifier ≠ other.identifier ∨ sanitized endpoint ≠ sanitized endpoint'
  | some endpoint, none => other.identifier ≠ target.identifier ++ ":" ++ sanitized endpoint
  | none, some endpoint => target.identifier ≠ other.identifier ++ ":" ++ sanitized endpoint
  | none, none => target.identifier ≠ other.identifier

instance (target other : Target) : Decidable (Distinct target other) := by
  unfold Distinct
  split <;> infer_instance

/-! ### Keys -/

theorem append_separator_inj {α : Type} {separator : α}
    {front back front' back' : List α} (last : separator ∉ back) (last' : separator ∉ back') :
    front ++ separator :: back = front' ++ separator :: back' ↔ front = front' ∧ back = back' := by
  constructor
  · intro same
    rcases List.append_eq_append_iff.mp same with
      ⟨more, split, rest⟩ | ⟨more, split, rest⟩
    · cases more <;> simp_all
    · cases more <;> simp_all
  · rintro ⟨rfl, rfl⟩
    rfl

theorem colon_not_mem_sanitized (endpoint : String) :
    ':' ∉ (sanitized endpoint).toList := by
  intro found
  rw [sanitized, String.toList_ofList] at found
  obtain ⟨c, -, replaced⟩ := List.mem_flatMap.mp found
  split at replaced
  next alphanumeric =>
    rw [← List.mem_singleton.mp replaced] at alphanumeric
    exact absurd alphanumeric (by decide)
  next => grind

theorem append_inj_left (front : String) {a b : String} :
    front ++ a = front ++ b ↔ a = b := by simp

theorem key_ne_iff (target other : Target) :
    target.key ≠ other.key ↔ Distinct target other := by
  unfold Target.key generateKey Distinct
  cases target.endpoint.filter (· ≠ "") with
  | none => grind [append_inj_left, String.append_assoc]
  | some endpoint =>
    cases other.endpoint.filter (· ≠ "") with
    | none => simp [String.append_assoc, ne_comm]
    | some endpoint' =>
      have split : target.identifier ++ (":" ++ sanitized endpoint) =
          other.identifier ++ (":" ++ sanitized endpoint') ↔ target.identifier = other.identifier ∧
              sanitized endpoint = sanitized endpoint' := by
        rw [← String.toList_inj, ← String.toList_inj, ← String.toList_inj,
          String.toList_append, String.toList_append, String.toList_append, String.toList_append]
        exact append_separator_inj (colon_not_mem_sanitized _) (colon_not_mem_sanitized _)
      simp only [String.append_assoc]
      rw [← not_and_or, ← split]
      exact (append_inj_left _).not

/-! ### What one target sees of another -/

structure Apart (key : String) (world other : World) : Prop where
  sets : ∀ target, target ≠ key → world.sets target = other.sets target
  now : world.now = other.now

section

variable (random : ℕ → String) {key target : String} {world other : World}
  {α : Type} {program : Service α}

theorem Apart.later (apart : Apart key world other) (elapsed : ℕ) :
    Apart key (world.later elapsed) (other.later elapsed) :=
  ⟨apart.sets, congrArg (· + (elapsed : ℤ)) apart.now⟩

/-- What goes on under the one key leaves the worlds as they are under the
others. -/
theorem Apart.frame_left (apart : Apart key world other) {after : World}
    (frame : Frame key world after) : Apart key after other :=
  ⟨fun target distinct => (frame.sets target distinct).trans
    (apart.sets target distinct), frame.now.trans apart.now⟩

theorem Apart.frame_right (apart : Apart key world other) {after : World}
    (frame : Frame key other after) : Apart key world after :=
  ⟨fun target distinct => (apart.sets target distinct).trans
    (frame.sets target distinct).symm, apart.now.trans frame.now.symm⟩

/-- The same inquiry in both worlds keeps them so, and ends in one way unless
it is on the one key. -/
theorem Apart.exec (apart : Apart key world other) (drawn : world.drawn = other.drawn)
    (uses : program.Uses (OnKey target)) (faults : List Fault) :
    Apart key ((rateLimits random).exec program faults world).2
        ((rateLimits random).exec program faults other).2 ∧ (target ≠ key →
        ((rateLimits random).exec program faults world).1 =
          ((rateLimits random).exec program faults other).1) := by
  have left := exec_frame random uses faults world
  have right := exec_frame random uses faults other
  by_cases same : target = key
  · rw [same] at left right
    exact ⟨(apart.frame_left left).frame_right right, fun distinct => absurd same distinct⟩
  · have alike := exec_sameOn random uses faults
      (⟨apart.sets target same, apart.now, drawn⟩ : SameOn target world other)
    refine ⟨⟨fun further distinct => ?_, alike.2.now⟩, fun _ => alike.1⟩
    by_cases here : further = target
    · rw [here]
      exact alike.2.sets
    · rw [left.sets further here, right.sets further here, apart.sets further distinct]

end

/-! ### Isolation -/

section

variable (service : RateLimitService) {target other : Target}

theorem asked_apart (distinct : target.key ≠ other.key) {world world' : World}
    (apart : Apart other.key world world') (moment : Moment) :
    Apart other.key (world.asked service moment).2
        (world'.asked service (moment.without (checksFor other))).2 ∧
      answersFor target (world.asked service moment).1.toList = answersFor target
          (world'.asked service (moment.without (checksFor other))).1.toList := by
  obtain ⟨elapsed, inquiry, faults⟩ := moment
  have later := apart.later elapsed
  cases inquiry with
  | none => exact ⟨later, rfl⟩
  | some inquiry =>
    cases inquiry with
    | status identifier endpoint =>
      exact ⟨(later.exec _ rfl (getRateLimitStatus_uses identifier endpoint) faults).1, rfl⟩
    | check call draws =>
      have uses := checkRateLimit_uses service call
      by_cases dropped : call.target = other
      · have without : Moment.without (checksFor other)
            ⟨elapsed, some (.check call draws), faults⟩ = ⟨elapsed, none, faults⟩ := by
          simp [Moment.without, checksFor, dropped]
        have foreign : call.target ≠ target := by grind
        rw [without]
        subst dropped
        refine ⟨later.frame_left (exec_frame draws uses faults _), ?_⟩
        exact List.filter_cons_of_neg (by simpa using foreign)
      · have without : Moment.without (checksFor other)
            ⟨elapsed, some (.check call draws), faults⟩ =
              ⟨elapsed, some (.check call draws), faults⟩ := by
          simp [Moment.without, checksFor, dropped]
        rw [without]
        obtain ⟨after, same⟩ := later.exec draws rfl uses faults
        refine ⟨after, ?_⟩
        by_cases own : call.target = target
        · have key : call.key = target.key := congrArg Target.key own
          exact congrArg (fun result => answersFor target [(call, result)]) (same (key ▸ distinct))
        · exact (List.filter_cons_of_neg (by simpa using own)).trans
            (List.filter_cons_of_neg (by simpa using own)).symm

theorem isolated_of_key_ne (distinct : target.key ≠ other.key) :
    Isolated service other target := by
  intro world history
  have apart : Apart other.key world world := ⟨fun _ _ => rfl, rfl⟩
  suffices related : ∀ world' : World, Apart other.key world world' →
      answersFor target (answers service world history) = answersFor target (answers service world'
          (history.map (Moment.without (checksFor other)))) from
    related world apart
  induction history generalizing world with
  | nil => exact fun _ _ => rfl
  | cons moment history ih =>
    intro world' apart
    obtain ⟨later, same⟩ := asked_apart service distinct apart moment
    rw [List.map_cons, answers, answers, answersFor, List.filter_append,
      answersFor, List.filter_append]
    exact congrArg₂ (· ++ ·) same (ih _ ⟨fun _ _ => rfl, rfl⟩ _ later)

/-! ### One key for two targets -/

/-- A check of the target with a limit of one request a minute. -/
def limitedCheck (target : Target) : RateLimitCall where
  identifier := target.identifier
  endpoint := target.endpoint
  customConfig := some ⟨some 60000, some 1, some 0⟩

theorem limitedCheck_config (service : RateLimitService) (target : Target) :
    (limitedCheck target).config service = ⟨60000, 1, some 0⟩ := by
  show service.getRateLimitConfig .free target.endpoint _ = _
  cases (target.endpoint.filter (· ≠ "")).bind service.endpointConfigs <;> rfl

def limitedMoment (target : Target) : Moment :=
  ⟨0, some (.check (limitedCheck target) toString), []⟩

def limitedCount (world : World) (target : Target) : ℕ :=
  (purged (world.later 0) target.key ⟨60000, 1, some 0⟩ (world.later 0).now).card

theorem asked_limited (world : World) (target : Target) :
    ∃ result : RateLimitResult, (world.asked service (limitedMoment target)).1 =
          some (limitedCheck target, .ok result) ∧
        result.totalHits = limitedCount world target + 1 := by
  have checked := exec_checkRateLimit service (limitedCheck target) toString
    (rfl : served [] = true) (world.later 0)
  obtain ⟨result, after, concludes, hits⟩ := concluded_totalHits service
    (limitedCheck target) toString (world.later 0).now
    (limitedCount world target + 1) (rfl : (List.tail []).headD none = none) _
  exact ⟨result, congrArg (fun done => some (limitedCheck target, Prod.fst done))
    (checked.trans concludes), hits⟩

theorem limitedCount_second (first second : Target) (same : second.key = first.key) :
    limitedCount (emptyRedis 0) second = 0 ∧
      limitedCount ((emptyRedis 0).asked service (limitedMoment first)).2 second = 1 := by
  refine ⟨rfl, ?_⟩
  have checked := exec_checkRateLimit service (limitedCheck first) toString
    (rfl : served [] = true) ((emptyRedis 0).later 0)
  have left : ((emptyRedis 0).asked service (limitedMoment first)).2 = _ :=
    (congrArg Prod.snd checked).trans (concluded_accepted service _ toString (by
      rw [limitedCheck_config]
      exact Nat.le_refl 1) _)
  rw [left, limitedCount, same]
  -- the member of the first check is a minute from its deadline
  let entry := renewed ((emptyRedis 0).later 0) first.key ⟨60000, 1, some 0⟩ 0 (toString 0)
  have there : World.zset ((((emptyRedis 0).later 0).withDraw.later 0).write
      first.key (some entry)) first.key = entry.value := by
    rw [World.zset_eq, World.entry_write]
    · rfl
    · intro expiresAt found
      cases Option.some.inj (found : some _ = some expiresAt)
      decide
  show (SortedSet.removeRange (World.zset ((((emptyRedis 0).later
    0).withDraw.later 0).write first.key (some entry)) first.key) 0 _).card = 1
  rw [there]
  rfl

/-- One request for the first target, then one for the second. -/
def twoRequests (first second : Target) : List Moment := [limitedMoment first, limitedMoment second]

theorem key_ne_of_isolated (different : target ≠ other)
    (isolated : Isolated service other target) : target.key ≠ other.key := by
  intro same
  have both := isolated (emptyRedis 0) (twoRequests other target)
  obtain ⟨first, answeredFirst, -⟩ := asked_limited service (emptyRedis 0) other
  obtain ⟨second, answeredSecond, hits⟩ := asked_limited service
    ((emptyRedis 0).asked service (limitedMoment other)).2 target
  obtain ⟨alone, answeredAlone, hitsAlone⟩ := asked_limited service (emptyRedis 0) target
  obtain ⟨missing, one⟩ := limitedCount_second service other target same
  have dropped : (limitedMoment other).without (checksFor other) = ⟨0, none, []⟩ := by
    have own : (limitedCheck other).target = other := rfl
    simp [Moment.without, limitedMoment, checksFor, own]
  have kept : (limitedMoment target).without (checksFor other) =
      limitedMoment target := by
    have own : (limitedCheck target).target ≠ other := different
    simp [Moment.without, limitedMoment, checksFor, own]
  have foreign : (limitedCheck other).target ≠ target := different.symm
  have paused : ((emptyRedis 0).asked service ⟨0, none, []⟩).2 = emptyRedis 0 := rfl
  have silent : ((emptyRedis 0).asked service ⟨0, none, []⟩).1 = none := rfl
  simp only [twoRequests, List.map_cons, List.map_nil, dropped, kept, answers,
    answeredFirst, answeredSecond, paused, silent, answeredAlone, answersFor,
    Option.toList_some, Option.toList_none, List.nil_append, List.append_nil,
    List.singleton_append, List.filter_cons, List.filter_nil, foreign] at both
  have own : (limitedCheck target).target = target := rfl
  simp_all

variable (target other) in
/-- Two targets are isolated from one another iff they are distinct; that is
when their keys differ. -/
theorem isolated_iff_distinct (different : target ≠ other) :
    (target.key ≠ other.key ↔ Distinct target other) ∧
      (Isolated service other target ↔ Distinct target other) := by
  refine ⟨key_ne_iff target other, ?_⟩
  rw [← key_ne_iff]
  exact ⟨key_ne_of_isolated service different, isolated_of_key_ne service⟩

end

/-! ### Requests at the guard -/

/-- What the guard counts a request for. -/
def RateLimitGuard.target (options : RateLimitOptions) (request : Request) :
    Target where
  identifier := generateIdentifier request options
  endpoint := some (getEndpointPath request)

theorem RateLimitGuard.getEndpointPath_ne (request : Request) :
    getEndpointPath request ≠ "" := by
  unfold getEndpointPath truthyText
  cases route : request.route.filter (· ≠ "") with
  | some path => simp_all
  | none => grind

/-- Two requests at guards are isolated iff their identifiers differ or the
skeletons of their endpoints do. -/
theorem RateLimitGuard.distinct_iff (options options' : RateLimitOptions)
    (request request' : Request) :
    Distinct (target options request) (target options' request') ↔
      generateIdentifier request options ≠ generateIdentifier request' options' ∨
        sanitized (getEndpointPath request) ≠
          sanitized (getEndpointPath request') := by grind [getEndpointPath_ne, Distinct, target]

/-! ### Two endpoints -/

def usersList : Target := ⟨"user:1", some "/api/users/list"⟩

def usersSearch : Target := ⟨"user:1", some "/api/users/search"⟩

theorem usersList_isolated :
    (usersList.key ≠ usersSearch.key ↔ Distinct usersList usersSearch) ∧
      (Isolated .initial usersSearch usersList ↔
        Distinct usersList usersSearch) :=
  isolated_iff_distinct .initial usersList usersSearch (by decide)

/-- An endpoint that differs in its punctuation. -/
def usersDashList : Target := ⟨"user:1", some "/api/users-list"⟩

/-- Requests to the one endpoint count for the other. -/
theorem punctuation_shared : usersList ≠ usersDashList ∧ ¬ (usersList.key ≠ usersDashList.key ∧
      Isolated .initial usersDashList usersList) := by
  refine ⟨by decide, fun both => both.1 ?_⟩
  decide

end MarketX.RateLimiting
