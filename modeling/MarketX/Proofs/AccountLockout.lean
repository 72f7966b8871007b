/-
Module: MarketX.Proofs.AccountLockout
Purpose: Whose requests change whose account, and when the analysis of a
  request locks it.
Trusted boundary: human-reviewed definition of Arrival, monitorStep,
  authenticatedAs, attributedTo, Analysis, Watched, watchStep, flaggedAt and
  Locks
Main exports: Arrival, monitorStep, account_follows_attribution, lockout_follows_flags
-/
import MarketX.Caching.Windows
import MarketX.Commerce.Runs

namespace MarketX.Commerce

open Effects Handler Numerals Security RequestMonitorMiddleware

/-! ### Histories -/

/-- A request, the failures of what it awaits, and the clock. -/
structure Arrival where
  request : Request
  now : Date
  faults : List Fault := []

section

variable (idOf : String → Id) (foldAddress : String → String)

def monitorStep (world : World) (arrival : Arrival) : World :=
  (commerce.exec (use idOf foldAddress arrival.request) arrival.faults
    { world with now := arrival.now }).2

/-- The request has been authenticated as this user. -/
def authenticatedAs (userId : Id) (arrival : Arrival) : Bool :=
  (nonEmpty arrival.request.user).map idOf = some userId

/-- The request has been authenticated as this user, or not at all and names
them. -/
def attributedTo (userId : Id) (arrival : Arrival) : Bool :=
  (userIdOf arrival.request).map idOf = some userId

end

/-! ### What concerns a user -/

/-- The counter of a user's alerts. -/
def flagsOf (userId : Id) : String := s!"fraud_flags:{userId}"

theorem flagsOf_injective : Function.Injective flagsOf := by
  intro userId other same
  grind [flagsOf, String.toList_append, List.append_cancel_left, parseIntOf?_repr]

/-- The row of a user, the counter of their alerts, and the map of the
world. -/
structure AboutSame (userId : Id) (world other : World) : Prop where
  row : world.db.users.row userId = other.db.users.row userId
  flags : world.counters (flagsOf userId) = other.counters (flagsOf userId)
  geoDistance : world.geoDistance = other.geoDistance

instance (userId : Id) : IsPreorder World (AboutSame userId) where
  refl _ := ⟨rfl, rfl, rfl⟩
  trans _ _ _ first second :=
    ⟨first.row.trans second.row, first.flags.trans second.flags,
      first.geoDistance.trans second.geoDistance⟩

/-- What the analysis of a request that names no order awaits. -/
def Monitors (userId : Option Id) : Op → Prop
  | .locate _ _ | .insertAlert _ | .emit _ | .saveUser _
  | .sendAccountLocked _ _ _ => True
  | .incr key | .expire key _ => ∃ id, userId = some id ∧ key = flagsOf id
  | .findUser id => userId = some id
  | _ => False

theorem alike_act {userId : Id} (op : Op) (world other : World)
    (monitors : Monitors (some userId) op)
    (same : AboutSame userId world other ∧ world.now = other.now) :
    (act op world).1 = (act op other).1 ∧ AboutSame userId (act op world).2 (act op other).2 ∧
        (act op world).2.now = (act op other).2.now := by
  obtain ⟨⟨row, flags, geo⟩, now⟩ := same
  cases op with
  | locate ip shippingAddress =>
    exact ⟨congrFun (congrFun geo ip) shippingAddress, ⟨row, flags, geo⟩, now⟩
  | insertAlert alert => exact ⟨rfl, ⟨row, flags, geo⟩, now⟩
  | emit event => exact ⟨rfl, ⟨row, flags, geo⟩, now⟩
  | sendAccountLocked id address name => exact ⟨rfl, ⟨row, flags, geo⟩, now⟩
  | findUser id =>
    cases monitors
    exact ⟨row, ⟨row, flags, geo⟩, now⟩
  | saveUser user =>
    refine ⟨rfl, ⟨?_, flags, geo⟩, now⟩
    show (world.db.users.save user).row userId = (other.db.users.save user).row userId
    rw [Table.row_save, Table.row_save, row]
  | incr key =>
    obtain ⟨_, ⟨⟩, rfl⟩ := monitors
    have counter : world.counter (flagsOf userId) =
        other.counter (flagsOf userId) := by rw [World.counter, World.counter, flags, now]
    refine ⟨congrArg (· + 1) counter, ⟨row, ?_, geo⟩, now⟩
    simp only [act, World.counted, Function.update_self, counter, flags, now]
  | expire key seconds =>
    obtain ⟨_, ⟨⟩, rfl⟩ := monitors
    refine ⟨rfl, ⟨row, ?_, geo⟩, now⟩
    simp only [act, World.expiring, Function.update_self, flags, now]
  | _ => exact monitors.elim

/-! ### What the analysis awaits -/

section

variable {foldAddress : String → String}

theorem monitors_enrich (input : FraudInput) :
    (FraudService.enrich input).Uses (Monitors input.userId) := by
  unfold FraudService.enrich
  split
  · trivial
  · split
    · refine .bind (Program.uses_perform trivial).attempt fun outcome => ?_
      split <;> trivial
    · trivial

theorem monitors_lockAccount {userId : Id} (result : ScoreResult) :
    (FraudService.lockAccount userId result).Uses (Monitors (some userId)) := by
  refine .bind (.bind (.attempt (.bind (Program.uses_perform ⟨_, rfl, rfl⟩)
    fun count => ?_)) fun outcome => ?_) fun flagCount => ?_
  · refine .branch _ ?_ trivial
    exact .bind (Program.uses_perform ⟨_, rfl, rfl⟩) fun _ => trivial
  · cases outcome <;> trivial
  · refine .branch _ (.bind (.attempt (.bind (Program.uses_perform rfl)
      fun user? => ?_)) fun _ => trivial) trivial
    cases user? with
    | none => trivial
    | some user =>
      exact .branch _ (.bind (Program.uses_perform trivial) fun _ =>
        .bind (Program.uses_perform trivial) fun _ => Program.uses_perform trivial) trivial

theorem enrich_ends {request : Request} {idOf : String → Id} {considered : FraudInput}
    (ends : (FraudService.enrich (inputOf idOf request)).Ends (.ok considered)) :
    ∃ distance, considered =
      { inputOf idOf request with
        metadata := some
          { shippingAddress := shippingAddressOf request
            geoDistanceMiles := distance } } := by
  unfold FraudService.enrich at ends
  simp only [inputOf] at ends ⊢
  split at ends
  · obtain ⟨outcome, _, ends⟩ := Program.Ends.of_bind_ok ends
    rcases outcome with error | _ | distance
    · exact ⟨none, Except.ok.inj ends⟩
    · exact ⟨none, Except.ok.inj ends⟩
    · exact ⟨some distance, Except.ok.inj ends⟩
  · exact ⟨none, Except.ok.inj ends⟩

theorem riskScore_le {userId orderId : Option Id}
    {ip deviceFingerprint shippingAddress : Option String} {distance : Option Amount} :
    (FraudService.evaluateAllRules foldAddress
      { userId, orderId, ip, deviceFingerprint
        metadata := some
          { shippingAddress, geoDistanceMiles := distance } }).riskScore ≤
      50 := by
  have young : ¬ (999 : ℚ) < 24 := by norm_num
  by_cases far : distance.getD 0 > 1000 <;> simp [FraudService.evaluateAllRules, FraudService.rules,
      FraudService.given, far, young]

theorem monitors_raiseAlert {userId : Option Id} {considered : FraudInput}
    {result : ScoreResult} (user : considered.userId = userId) (low : result.riskScore ≤ 50) :
    (FraudService.raiseAlert considered result).Uses (Monitors userId) := by
  subst user
  have notSevere : ¬ result.riskScore ≥ 90 := by omega
  have notHigh : ¬ result.riskScore ≥ 75 := by omega
  unfold FraudService.raiseAlert FraudService.notifyAdmin
    FraudService.reviewOrder FraudService.suspendUser
  rw [if_neg notSevere, if_neg notHigh, if_neg notSevere]
  refine .bind (Program.uses_perform trivial) fun _ =>
    .bind (Program.uses_perform trivial) fun _ => .bind ?_ fun _ => trivial
  unfold FraudService.flagUser
  cases considered.userId with
  | none => trivial
  | some userId => exact monitors_lockAccount result

/-- Of a monitored request nothing but this is awaited: no order is held, and
nobody is suspended. -/
theorem monitors_use (idOf : String → Id) (request : Request) :
    (use idOf foldAddress request).Uses (Monitors ((userIdOf request).map idOf)) := by
  refine .bind (.bind_ends (monitors_enrich (inputOf idOf request)) fun considered ends => ?_)
    fun answer => ?_
  · obtain ⟨distance, rfl⟩ := enrich_ends ends
    exact .branch _ (.bind (monitors_raiseAlert rfl riskScore_le) fun _ => trivial) trivial
  · obtain ⟨flagged, result⟩ := answer
    exact .branch _ trivial trivial

end

/-! ### Requests about somebody else -/

section

variable {spared : Spared} {relation : World → World → Prop} [IsPreorder World relation]

/-- What an account's alerts can touch: its counter, its row, and the
events. -/
theorem respects_counting {userId : Id}
    (counts : ∀ world, relation world (world.counted (flagsOf userId)))
    (lapses : ∀ world, relation world (world.expiring (flagsOf userId) 3600))
    (saves : ∀ world user, user.id = userId → relation world (world.withUser user))
    (emits : ∀ world event, relation world (world.emitted event)) (result : ScoreResult) :
    (commerce.shield spared).Respects relation (FraudService.lockAccount userId result) := by
  refine .bind (.bind (.attempt (.bind (.perform _ counts) fun count =>
    .ite _ (.bind (.perform _ lapses) fun _ => .pure _) (.pure _)))
      fun outcome => ?_) fun flagCount => ?_
  · cases outcome <;> exact .pure _
  · refine .ite _ (.bind (.attempt (.bind_wp fun world => ?_)) fun _ => .pure _) (.pure _)
    rw [wp_await]
    refine ⟨⟨refl_of relation world, ?_⟩, fun _ _ error =>
      ⟨refl_of relation world, nofun⟩⟩
    rintro user? ⟨⟩
    simp only [act]
    cases found : world.db.users.row userId with
    | none => exact .pure _
    | some user =>
      have key : user.id = userId := world.db.users.keyed found
      exact .ite _ (.bind (.perform _ fun before => saves before _ key)
        fun _ => .bind (.perform _ fun before => emits before _) fun _ =>
          .perform _ fun before => refl_of relation before) (.pure _)

theorem respects_locating (input : FraudInput) :
    (commerce.shield spared).Respects relation (FraudService.enrich input) := by
  unfold FraudService.enrich
  split
  · exact .pure _
  · split
    · refine .bind (Respects.perform _ fun before =>
        refl_of relation before).attempt fun outcome => ?_
      rcases outcome with error | _ | distance <;> exact .pure _
    · exact .pure _

end

section

variable {foldAddress : String → String} {userId : Id}

theorem respects_lockAccount_other {other : Id} (distinct : other ≠ userId) (result : ScoreResult) :
    (commerce.shield noneSpared).Respects (AboutSame userId)
      (FraudService.lockAccount other result) := by
  have apart : flagsOf userId ≠ flagsOf other :=
    fun same => distinct (flagsOf_injective same).symm
  apply respects_counting
  · exact fun world => ⟨rfl, (Function.update_of_ne apart _ _).symm, rfl⟩
  · exact fun world => ⟨rfl, (Function.update_of_ne apart _ _).symm, rfl⟩
  · intro world user key
    refine ⟨(Table.row_save_of_ne _ _ fun same => distinct ?_).symm, rfl, rfl⟩
    rw [← key]
    exact same.symm
  · exact fun world event => ⟨rfl, rfl, rfl⟩

theorem respects_raiseAlert {considered : FraudInput} {result : ScoreResult}
    (others : considered.userId ≠ some userId) (low : result.riskScore ≤ 50) :
    (commerce.shield noneSpared).Respects (AboutSame userId)
      (FraudService.raiseAlert considered result) := by
  have notSevere : ¬ result.riskScore ≥ 90 := by omega
  have notHigh : ¬ result.riskScore ≥ 75 := by omega
  unfold FraudService.raiseAlert FraudService.notifyAdmin
    FraudService.reviewOrder FraudService.suspendUser
  rw [if_neg notSevere, if_neg notHigh, if_neg notSevere]
  refine .bind (.perform _ fun _ => ⟨rfl, rfl, rfl⟩) fun _ =>
    .bind (.perform _ fun _ => ⟨rfl, rfl, rfl⟩) fun _ =>
      .bind ?_ fun _ => .bind (.pure _) fun _ => .bind (.pure _) fun _ => .pure _
  unfold FraudService.flagUser
  cases user : considered.userId with
  | none => exact .pure _
  | some other => grind [respects_lockAccount_other]

theorem respects_use {idOf : String → Id} {request : Request}
    (others : (userIdOf request).map idOf ≠ some userId) :
    (commerce.shield noneSpared).Respects (AboutSame userId) (use idOf foldAddress request) := by
  have locating : (commerce.shield noneSpared).Respects (AboutSame userId)
      (FraudService.enrich (inputOf idOf request)) := respects_locating _
  refine .bind (.bind_wp fun world => ?_) fun answer => .ite _ (.throw _) (.pure _)
  apply Handler.wp_mono _ (Program.Ends.wp (locating world))
  rintro outcome after ⟨same, ends⟩
  refine ⟨same, fun considered returned => ?_⟩
  subst returned
  obtain ⟨distance, rfl⟩ := enrich_ends ends
  exact .ite _ (.bind (respects_raiseAlert others riskScore_le) fun _ => .pure _) (.pure _)

end

/-! ### Histories of requests -/

section

variable {idOf : String → Id} {foldAddress : String → String} {userId : Id}

theorem monitorStep_kept {world other : World} {arrival : Arrival}
    (theirs : attributedTo idOf userId arrival = true) (same : AboutSame userId world other) :
    AboutSame userId (monitorStep idOf foldAddress world arrival)
      (monitorStep idOf foldAddress other arrival) := by
  have uses : (use idOf foldAddress arrival.request).Uses
      (Monitors ((userIdOf arrival.request).map idOf)) := monitors_use idOf arrival.request
  rw [of_decide_eq_true theirs] at uses
  have started : AboutSame userId { world with now := arrival.now }
        { other with now := arrival.now } ∧ ({ world with now := arrival.now } : World).now =
        ({ other with now := arrival.now } : World).now :=
    ⟨⟨same.row, same.flags, same.geoDistance⟩, rfl⟩
  exact (commerce.exec_related alike_act uses arrival.faults started).2.1

theorem monitorStep_dropped {world other : World} {arrival : Arrival}
    (others : attributedTo idOf userId arrival = false) (same : AboutSame userId world other) :
    AboutSame userId (monitorStep idOf foldAddress world arrival) other := by
  have moved : (commerce.shield noneSpared).Respects (AboutSame userId)
      (use idOf foldAddress arrival.request) := respects_use (of_decide_eq_false others)
  rw [commerce.shield_none] at moved
  have after := moved.exec arrival.faults { world with now := arrival.now }
  exact ⟨after.row.symm.trans same.row, after.flags.symm.trans same.flags,
    after.geoDistance.symm.trans same.geoDistance⟩

theorem run_attributed (idOf : String → Id) (foldAddress : String → String)
    (userId : Id) (start : World) (history : List Arrival) :
    AboutSame userId (run (monitorStep idOf foldAddress) start history)
      (run (monitorStep idOf foldAddress) start (history.filter (attributedTo idOf userId))) :=
  run_filter (fun _ _ _ => monitorStep_kept) (fun _ _ _ => monitorStep_dropped)
    (refl_of (AboutSame userId) start) history

/-- Two histories in which the same requests are attributed to a user leave
that user the same, and no request suspends anybody. -/
theorem account_follows_attribution (idOf : String → Id)
    (foldAddress : String → String) (userId : Id) (start : World) (history other : List Arrival)
    (same : history.filter (attributedTo idOf userId) = other.filter (attributedTo idOf userId)) :
    (run (monitorStep idOf foldAddress) start history).db.users.row userId =
        (run (monitorStep idOf foldAddress) start other).db.users.row userId ∧ ∀ arrival ∈ history,
        (use idOf foldAddress arrival.request).Uses
          fun (op : Op) => ∀ suspended, op ≠ .suspendUser suspended := by
  constructor
  · have one := run_attributed idOf foldAddress userId start history
    have two := run_attributed idOf foldAddress userId start other
    rw [one.row, same, two.row]
  · intro arrival _
    refine (monitors_use idOf arrival.request).mono ?_
    rintro op monitors suspended rfl
    exact monitors

end

/-! ### A victim -/

/-- A request that names a user without being authenticated, to an address far
from where it comes from. -/
def namingRequest (name : String) : Request where
  path := "/products"
  headers header :=
    if header = "x-user-id" then some (.text name) else none
  ip := some "203.0.113.9"
  body := some (.members (some "Lhasa") none none)

/-- User 7, and every address is far away. -/
def farShop : World :=
  { openShop with
    db := { openShop.db with
      users := .save .empty
        { id := 7, email := "ana@example.org", firstName := "Ana" } }
    geoDistance := fun _ _ => some 7000 }

def idOfText (text : String) : Id := (parseIntOf? text.toList).getD 0 |>.toNat

theorem others_request_changes_nothing :
    let history : List Arrival := [⟨namingRequest "8", 1000, []⟩]
    (run (monitorStep idOfText id) farShop history).db.users.row (7 : Id) =
        (run (monitorStep idOfText id) farShop []).db.users.row (7 : Id) ∧ ∀ arrival ∈ history,
        (use idOfText id arrival.request).Uses
          fun (op : Op) => ∀ suspended, op ≠ .suspendUser suspended := by
  intro history
  have others :
      attributedTo idOfText 7 ⟨namingRequest "8", 1000, []⟩ = false := by decide
  have same : history.filter (attributedTo idOfText 7) = [].filter (attributedTo idOfText 7) := by
    rw [List.filter_cons, others]
    rfl
  exact account_follows_attribution idOfText id 7 farShop history [] same

/-- Three requests that nobody has been authenticated for lock the account
they name. -/
theorem named_victim_locked :
    let history : List Arrival := [⟨namingRequest "7", 1000, []⟩, ⟨namingRequest "7", 2000, []⟩,
        ⟨namingRequest "7", 3000, []⟩]
    history.all (fun arrival => !authenticatedAs idOfText 7 arrival) = true ∧
      ((run (monitorStep idOfText id) farShop history).db.users.row 7).map
        User.status = some .locked ∧ ((run (monitorStep idOfText id) farShop []).db.users.row 7).map
        User.status = some .active := by decide

open Caching Effects Handler FraudService

/-! ### Histories of analyses -/

/-- A request to be analysed, when, the failures of what is awaited, and what
others have done to the tables since the previous analysis. -/
structure Analysis where
  input : FraudInput
  now : Date
  faults : List Fault := []
  meanwhile : Database → Database := id

/-- The world an analysis begins in. -/
def Analysis.found (call : Analysis) (world : World) : World :=
  { world with db := call.meanwhile world.db, now := call.now }

def alertsOf (userId : Id) (world : World) : ℕ := world.db.alerts.countP (·.userId = some userId)

section

variable (foldAddress : String → String) (userId : Id)

def analysed (world : World) (call : Analysis) : World :=
  (commerce.exec (analyzeRequest foldAddress call.input) call.faults (call.found world)).2

/-- The call has raised an alert for the user. -/
def flaggedAt (world : World) (call : Analysis) : Bool := alertsOf userId (call.found world) <
    alertsOf userId (analysed foldAddress world call)

/-- The world, and when the user was flagged, the latest time first. -/
structure Watched where
  world : World
  flags : List Date := []

def watchStep (state : Watched) (call : Analysis) : Watched where
  world := analysed foldAddress state.world call
  flags :=
    if flaggedAt foldAddress userId state.world call then
      call.now :: state.flags
    else state.flags

/-- The account exists and is not locked. -/
def openAccount (world : World) : Prop :=
  (world.db.users.row userId).any (·.status ≠ .locked) = true

def lockedAccount (world : World) : Prop :=
  (world.db.users.row userId).any (·.status = .locked) = true

/-- The call moves the user to LOCKED. -/
def Locks (world : World) (call : Analysis) : Prop := openAccount userId (call.found world) ∧
    lockedAccount userId (analysed foldAddress world call)

/-- The deadline of the user's counter is never lost. -/
def keepsDeadline : Op → Bool
  | .expire key _ => key = flagsOf userId
  | _ => false

end

abbrev everySpared : Spared := fun _ => true

/-- The times that lie within the hour that ends at one of them. -/
def withinHour (now : Date) (flags : List Date) : ℕ :=
  flags.countP fun time => now - 3600000 < time ∧ time ≤ now

/-! ### What one analysis does about a user -/

def lockedRow (user : User) : User := { user with status := .locked }

def tallied (userId : Id) (world : World) : Counter where
  value := world.counter (flagsOf userId) + 1
  expiresAt :=
    if world.counter (flagsOf userId) = 0 then some (world.now + 3600000)
    else (world.counters (flagsOf userId)).bind Counter.expiresAt

/-- All that concerns a user. -/
structure Untouched (userId : Id) (world other : World) : Prop where
  row : world.db.users.row userId = other.db.users.row userId
  counter : world.counters (flagsOf userId) = other.counters (flagsOf userId)
  alerts : alertsOf userId world = alertsOf userId other
  now : world.now = other.now

instance (userId : Id) : IsPreorder World (Untouched userId) where
  refl _ := ⟨rfl, rfl, rfl, rfl⟩
  trans _ _ _ first second :=
    ⟨first.row.trans second.row, first.counter.trans second.counter,
      first.alerts.trans second.alerts, first.now.trans second.now⟩

/-- What counting an alert does: nothing, if something fails, or one more and
from the third on the lock, unless something fails. -/
inductive AlertCounted (userId : Id) (complete : Prop) (found after : World) : Prop
  | uncounted (untouched : Untouched userId found after) (incomplete : ¬ complete)
  | counted (counter : after.counters (flagsOf userId) = some (tallied userId found))
      (row : after.db.users.row userId = found.db.users.row userId ∨
        3 ≤ (tallied userId found).value) (locks : complete → after.db.users.row userId =
        if 3 ≤ (tallied userId found).value then
          (found.db.users.row userId).map lockedRow
        else found.db.users.row userId)
      (alerts : alertsOf userId found = alertsOf userId after) (now : found.now = after.now)

inductive Screens (userId : Id) (complete : Prop) (found after : World) :
    Prop
  | unflagged (untouched : Untouched userId found after)
  | flagged (raised : World) (row : raised.db.users.row userId = found.db.users.row userId)
      (counters : raised.counters = found.counters)
      (alerts : alertsOf userId raised = alertsOf userId found + 1) (now : raised.now = found.now)
      (counts : AlertCounted userId complete raised after)

theorem AlertCounted.trans {userId : Id} {complete : Prop} {found middle after : World}
    (counts : AlertCounted userId complete found middle)
    (untouched : Untouched userId middle after) :
    AlertCounted userId complete found after := by
  obtain ⟨sameRow, sameCounter, sameAlerts, sameNow⟩ := untouched
  cases counts with
  | uncounted same incomplete =>
    exact .uncounted (trans_of (Untouched userId) same
      ⟨sameRow, sameCounter, sameAlerts, sameNow⟩) incomplete
  | counted counter row locks alerts now =>
    rw [sameRow] at row locks
    exact .counted (sameCounter ▸ counter) row locks (alerts.trans sameAlerts) (now.trans sameNow)

section

variable {foldAddress : String → String} {userId : Id} {spared : Spared}

/-! ### The counter -/

/-- The world after the counter of a key has been increased. -/
def World.tallied (world : World) (key : String) (ttl : ℕ) : World :=
  if world.counter key = 0 then (world.counted key).expiring key ttl
  else world.counted key

theorem wp_increment {key : String} {ttl : ℕ}
    (kept : spared (.expire key ttl) = true) (world : World) :
    (commerce.shield spared).wp (increment key ttl) (fun outcome after =>
      (outcome = .ok 0 ∧ after = world ∧ spared (.incr key) = false) ∨
        (outcome = .ok (world.counter key + 1) ∧ after = world.tallied key ttl)) world := by
  unfold increment
  rw [wp_bind, wp_attempt]
  apply wp_await_bind
  · show (commerce.shield spared).wp (if world.counter key + 1 = 1 then _ else _) _ _
    split
    next first =>
      have none : world.counter key = 0 := by omega
      rw [wp_bind, wp_await]
      refine ⟨.inr ⟨rfl, ?_⟩, fun _ exposed => ?_⟩
      · rw [World.tallied, if_pos none]
        rfl
      · rw [kept] at exposed
        cases exposed
    next further =>
      have some : world.counter key ≠ 0 := by omega
      refine .inr ⟨rfl, ?_⟩
      rw [World.tallied, if_neg some]
      rfl
  · exact fun exposed error => .inl ⟨rfl, rfl, exposed⟩

theorem tallied_db (world : World) (key : String) (ttl : ℕ) :
    (world.tallied key ttl).db = world.db := by
  unfold World.tallied
  split <;> rfl

theorem tallied_now (world : World) (key : String) (ttl : ℕ) :
    (world.tallied key ttl).now = world.now := by
  unfold World.tallied
  split <;> rfl

theorem counters_tallied (world : World) :
    (world.tallied (flagsOf userId) 3600).counters (flagsOf userId) =
      some (tallied userId world) := by
  unfold World.tallied Commerce.tallied
  split
  next none => simp [World.expiring, World.counted]
  next some =>
    have live : ∀ counter, world.counters (flagsOf userId) = .some counter →
        counter.expiresAt.any (· ≤ world.now) = false := by grind [World.counter]
    simp only [World.counted, Function.update_self, Option.some.injEq, Counter.mk.injEq, true_and]
    cases stored : world.counters (flagsOf userId) <;> simp_all

/-! ### The lock -/

theorem AlertCounted.of_tallied {complete : Prop} {world after : World} (counters : after.counters =
      (world.tallied (flagsOf userId) 3600).counters)
    (alerts : after.db.alerts = world.db.alerts) (now : after.now = world.now)
    (row : after.db.users.row userId = world.db.users.row userId ∨ 3 ≤ (tallied userId world).value)
    (locks : complete → after.db.users.row userId = if 3 ≤ (tallied userId world).value then
        (world.db.users.row userId).map lockedRow
      else world.db.users.row userId) : AlertCounted userId complete world after := by
  refine .counted ?_ row locks ?_ now.symm
  · rw [counters]
    exact counters_tallied world
  · unfold alertsOf
    rw [alerts]

theorem counts_lockAccount (kept : spared (.expire (flagsOf userId) 3600) = true)
    (result : ScoreResult) (world : World) :
    (commerce.shield spared).wp (lockAccount userId result) (fun _ after =>
      AlertCounted userId (∀ op, spared op = true) world after) world := by
  unfold lockAccount
  rw [wp_bind]
  apply Handler.wp_mono _ (wp_increment kept world)
  rintro outcome counted (⟨rfl, rfl, exposed⟩ | ⟨rfl, rfl⟩)
  · refine AlertCounted.uncounted (refl_of (Untouched userId) _) fun complete => ?_
    rw [complete] at exposed
    cases exposed
  · have db := tallied_db world (flagsOf userId) 3600
    have now := tallied_now world (flagsOf userId) 3600
    generalize same : world.tallied (flagsOf userId) 3600 = counted at db now ⊢
    have counters := congrArg World.counters same.symm
    have alerts : counted.db.alerts = world.db.alerts := by rw [db]
    refine wp_branch _ _ (fun third => ?_) fun few => ?_
    · have third : 3 ≤ (tallied userId world).value := third
      rw [wp_bind, wp_attempt]
      -- a failure leaves the row as it was
      have stays : ∀ {op}, spared op = false →
          AlertCounted userId (∀ op, spared op = true) world counted := by
        intro op exposed
        refine .of_tallied counters alerts now (.inr third) fun complete => ?_
        rw [complete] at exposed
        cases exposed
      apply wp_await_bind _ _ fun exposed _ => stays exposed
      simp only [act]
      cases found : counted.db.users.row userId with
      | none =>
        refine .of_tallied counters alerts now (.inr third) fun _ => ?_
        rw [if_pos third, ← db, found, Option.map_none]
      | some user =>
        refine wp_branch _ _ (fun isOpen => ?_) fun closed => ?_
        · apply wp_await_bind _ _ fun exposed _ => stays exposed
          have locked : AlertCounted userId (∀ op, spared op = true) world
              (counted.withUser (lockedRow user)) := by
            refine .of_tallied counters alerts now (.inr third) fun _ => ?_
            have key : user.id = userId := Table.keyed _ found
            rw [if_pos third, ← db, found, Option.map_some, ← key]
            exact Table.row_save_self _ (lockedRow user)
          have announced (event : CommerceEvent) :
              AlertCounted userId (∀ op, spared op = true) world
                ((counted.withUser (lockedRow user)).emitted event) :=
            locked.trans ⟨rfl, rfl, rfl, rfl⟩
          apply wp_await_bind _ _ fun _ _ => locked
          rw [wp_await]
          exact ⟨announced _, fun _ _ _ => announced _⟩
        · have already : user.status = .locked := not_not.mp closed
          refine .of_tallied counters alerts now (.inr third) fun _ => ?_
          rw [if_pos third, ← db, found, Option.map_some, lockedRow, ← already]
    · show AlertCounted userId _ world counted
      have few : ¬ 3 ≤ (tallied userId world).value := few
      have row : counted.db.users.row userId = world.db.users.row userId := by rw [db]
      refine .of_tallied counters alerts now (.inl row) fun _ => ?_
      rw [if_neg few, row]

/-! ### The analysis -/

theorem untouched_lockAccount {other : Id} (distinct : other ≠ userId) (result : ScoreResult) :
    (commerce.shield spared).Respects (Untouched userId) (lockAccount other result) := by
  have apart : flagsOf userId ≠ flagsOf other :=
    fun same => distinct (flagsOf_injective same).symm
  apply respects_counting
  · exact fun world =>
      ⟨rfl, (Function.update_of_ne apart _ _).symm, rfl, rfl⟩
  · exact fun world =>
      ⟨rfl, (Function.update_of_ne apart _ _).symm, rfl, rfl⟩
  · intro world user key
    refine ⟨(Table.row_save_of_ne _ _ fun same => distinct ?_).symm, rfl, rfl, rfl⟩
    rw [← key]
    exact same.symm
  · exact fun world event => ⟨rfl, rfl, rfl, rfl⟩

theorem untouched_follow (input : FraudInput) (result : ScoreResult) :
    (commerce.shield spared).Respects (Untouched userId) (do
      notifyAdmin input result
      reviewOrder input result
      suspendUser input result) := by
  refine .bind (.ite _ (.perform _ fun _ => ⟨rfl, rfl, rfl, rfl⟩) (.pure _))
    fun _ => .bind (.ite _ ?_ (.pure _)) fun _ => .ite _ ?_ (.pure _)
  · cases input.orderId with
    | none => exact .pure _
    | some orderId =>
      refine .bind (.perform _ fun world => refl_of (Untouched userId) world) fun order? => ?_
      cases order? with
      | none => exact .pure _
      | some order => exact .ite _ (.perform _ fun _ => ⟨rfl, rfl, rfl, rfl⟩) (.pure _)
  · cases input.userId with
    | none => exact .pure _
    | some suspended =>
      exact .bind (.attempt (.perform _ fun world =>
        refl_of (Untouched userId) world)) fun _ => .pure _

theorem screens_raiseAlert (kept : spared (.expire (flagsOf userId) 3600) = true)
    (input : FraudInput) (result : ScoreResult) (world : World) :
    (commerce.shield spared).wp (raiseAlert input result) (fun _ after =>
      Screens userId (∀ op, spared op = true) world after) world := by
  apply wp_await_bind _ _ fun _ _ => Screens.unflagged (refl_of (Untouched userId) world)
  generalize alerted : FraudAlert.mk _ _ _ _ _ _ _ _ = alert
  have named : alert.userId = input.userId := by rw [← alerted]
  apply wp_total_bind _ rfl
  generalize event : CommerceEvent.fraudAlertCreated alert _ = created
  by_cases theirs : input.userId = some userId
  · have last : alert.userId = some userId := named.trans theirs
    rw [wp_bind]
    unfold flagUser
    rw [theirs]
    apply Handler.wp_mono _ (counts_lockAccount kept result _)
    rintro outcome counted counts
    have flagged {after} (moved : Untouched userId counted after) :
        Screens userId (∀ op, spared op = true) world after := by
      refine .flagged ((world.withAlert alert).emitted created) rfl rfl ?_ rfl (counts.trans moved)
      simp [alertsOf, World.withAlert, World.emitted, last]
    cases outcome with
    | error error => exact flagged (refl_of (Untouched userId) counted)
    | ok value =>
      exact Handler.wp_mono _ (untouched_follow input result counted) fun _ _ moved => flagged moved
  · have others : alert.userId ≠ some userId := fun same => theirs (named.symm.trans same)
    have raised : Untouched userId world ((world.withAlert alert).emitted created) := by
      refine ⟨rfl, rfl, ?_, rfl⟩
      simp [alertsOf, World.withAlert, World.emitted, others]
    have alone : (commerce.shield spared).Respects (Untouched userId) (flagUser input result) := by
      unfold flagUser
      cases user : input.userId with
      | none => exact .pure _
      | some other => simp_all [untouched_lockAccount]
    exact Handler.wp_mono _ ((alone.bind fun _ => untouched_follow input result).wp raised)
      fun _ _ moved => .unflagged moved

variable (foldAddress) in
theorem screens_analyzeRequest (kept : spared (.expire (flagsOf userId) 3600) = true)
    (input : FraudInput) (world : World) :
    (commerce.shield spared).wp (analyzeRequest foldAddress input)
      (fun _ after => Screens userId (∀ op, spared op = true) world after)
      world := by
  unfold analyzeRequest
  rw [wp_bind]
  apply wp_enrich
  intro considered _
  refine wp_branch _ _ (fun high => ?_) fun low => ?_
  · rw [wp_bind]
    apply Handler.wp_mono _ (screens_raiseAlert kept considered _ world)
    rintro outcome after screens
    cases outcome <;> exact screens
  · exact Screens.unflagged (refl_of (Untouched userId) world)

end

/-! ### Every history -/

section

variable {foldAddress : String → String} {userId : Id} {state : Watched}
  {call : Analysis} {complete : Prop}

theorem counter_live {world : World} (live : world.counter (flagsOf userId) ≠ 0) :
    ∃ counter, world.counters (flagsOf userId) = some counter ∧
      world.counter (flagsOf userId) = counter.value ∧
        ∀ deadline, counter.expiresAt = some deadline → world.now < deadline := by
  grind [World.counter]

/-- The counter is not higher than the number of times in the hour before its
deadline. -/
structure Timed (userId : Id) (state : Watched) : Prop where
  past : ∀ time ∈ state.flags, time ≤ state.world.now
  deadline : ∀ counter, state.world.counters (flagsOf userId) = some counter →
      ∃ deadline, counter.expiresAt = some deadline ∧ deadline ≤ state.world.now + 3600000 ∧
          counter.value ≤ state.flags.countP (deadline ≤ · + 3600000)

theorem Timed.tallied (timed : Timed userId state) (world : World)
    (counters : world.counters = state.world.counters) (later : state.world.now ≤ world.now) :
    ∃ deadline, (tallied userId world).expiresAt = some deadline ∧
      world.now < deadline ∧ deadline ≤ world.now + 3600000 ∧
        (Commerce.tallied userId world).value ≤
          (world.now :: state.flags).countP (deadline ≤ · + 3600000) := by
  unfold Commerce.tallied
  by_cases live : world.counter (flagsOf userId) = 0
  · simp_all
  · obtain ⟨counter, stored, value, running⟩ := counter_live live
    rw [counters] at stored
    obtain ⟨deadline, ends, soon, counted⟩ := timed.deadline counter stored
    grind

theorem Timed.within (timed : Timed userId state) {now deadline : Date}
    (later : state.world.now ≤ now) (running : now < deadline) :
    (now :: state.flags).countP (deadline ≤ · + 3600000) ≤ withinHour now (now :: state.flags) := by
  apply List.countP_mono_left
  intro time member soon
  have past : time ≤ now := by
    rcases List.mem_cons.mp member with rfl | member
    · exact le_rfl
    · exact (timed.past time member).trans later
  exact decide_eq_true ⟨by lia, past⟩

theorem flaggedAt_of_untouched (untouched : Untouched userId (call.found state.world)
      (analysed foldAddress state.world call)) :
    flaggedAt foldAddress userId state.world call = false := by
  rw [flaggedAt, untouched.alerts]
  simp

theorem flaggedAt_of_raised {raised : World} (alerts : alertsOf userId raised =
      alertsOf userId (call.found state.world) + 1) (counts : AlertCounted userId complete raised
      (analysed foldAddress state.world call)) :
    flaggedAt foldAddress userId state.world call = true := by
  have kept : alertsOf userId raised =
      alertsOf userId (analysed foldAddress state.world call) := by
    cases counts with
    | uncounted untouched incomplete => exact untouched.alerts
    | counted counter row locks alerts now => exact alerts
  rw [flaggedAt, ← kept, alerts]
  simp

theorem not_locks_of_row (row : (analysed foldAddress state.world call).db.users.row userId =
      (call.found state.world).db.users.row userId) :
    ¬ Locks foldAddress userId state.world call := by
  rintro ⟨isOpen, locked⟩
  rw [lockedAccount, row] at locked
  rw [openAccount] at isOpen
  cases found : (call.found state.world).db.users.row userId <;> simp_all

/-- One call, whatever else fails: what the counter says stays true of the
times, and the account is locked only for three of them. -/
theorem Timed.step (timed : Timed userId state) (later : state.world.now ≤ call.now)
    (screens : Screens userId complete (call.found state.world)
      (analysed foldAddress state.world call)) :
    Timed userId (watchStep foldAddress userId state call) ∧
      (Locks foldAddress userId state.world call →
        flaggedAt foldAddress userId state.world call = true ∧ 3 ≤ withinHour call.now
            (watchStep foldAddress userId state call).flags) := by
  unfold watchStep
  cases screens with
  | unflagged untouched =>
    rw [flaggedAt_of_untouched untouched]
    refine ⟨⟨fun time member => ?_, fun counter stored => ?_⟩,
      fun locks => absurd locks (not_locks_of_row untouched.row.symm)⟩
    · rw [← untouched.now]
      exact (timed.past time member).trans later
    · rw [← untouched.counter] at stored
      obtain ⟨deadline, ends, soon, counted⟩ := timed.deadline counter stored
      rw [← untouched.now]
      exact ⟨deadline, ends, soon.trans (by simpa [Analysis.found] using later), counted⟩
  | flagged raised row counters alerts now counts =>
    rw [flaggedAt_of_raised alerts counts, if_pos rfl]
    have past : ∀ time ∈ call.now :: state.flags, time ≤ call.now :=
      List.forall_mem_cons.mpr ⟨le_rfl, fun time member =>
        (timed.past time member).trans later⟩
    cases counts with
    | uncounted untouched incomplete =>
      have same : (analysed foldAddress state.world call).now = call.now :=
        untouched.now.symm.trans now
      refine ⟨⟨?_, fun counter stored => ?_⟩, fun locks =>
        absurd locks (not_locks_of_row (untouched.row.symm.trans row))⟩
      · rw [same]
        exact past
      · rw [← untouched.counter, counters] at stored
        obtain ⟨deadline, ends, soon, counted⟩ := timed.deadline counter stored
        grind
    | counted counter locked locks kept sameNow =>
      have same : (analysed foldAddress state.world call).now = call.now := sameNow.symm.trans now
      obtain ⟨deadline, ends, running, soon, counted⟩ :=
        timed.tallied raised counters (by rw [now]; exact later)
      rw [now] at running soon counted
      refine ⟨⟨?_, fun stored found => ?_⟩, fun locks => ⟨rfl, ?_⟩⟩
      · rw [same]
        exact past
      · simp_all
      · rcases locked with stays | third
        · exact absurd locks (not_locks_of_row (stays.trans row))
        · exact third.trans (counted.trans (timed.within later running))

/-- The counter is the window that the times have opened. -/
structure InStep (userId : Id) (state : Watched) : Prop where
  counter : state.world.counters (flagsOf userId) = (windowOf 3600000 state.flags).map fun window =>
      { value := window.count, expiresAt := some (window.since + 3600000) }

theorem InStep.tallied (inStep : InStep userId state) (world : World)
    (counters : world.counters = state.world.counters) :
    ∃ window, windowOf 3600000 (world.now :: state.flags) = some window ∧ tallied userId world =
        { value := window.count
          expiresAt := some (window.since + 3600000) } := by
  have stored := inStep.counter
  rw [← counters] at stored
  unfold Commerce.tallied
  cases before : windowOf 3600000 state.flags with
  | none => simp_all [World.counter, windowOf_lapsed]
  | some window =>
    rw [before, Option.map_some] at stored
    by_cases running : world.now < window.since + 3600000 <;> grind [World.counter, windowOf_pos,
      windowOf_running, windowOf_lapsed]

theorem InStep.step (inStep : InStep userId state) (holds : complete)
    (screens : Screens userId complete (call.found state.world)
      (analysed foldAddress state.world call)) :
    InStep userId (watchStep foldAddress userId state call) ∧
      (Locks foldAddress userId state.world call ↔ openAccount userId (call.found state.world) ∧
          flaggedAt foldAddress userId state.world call = true ∧ ∃ window, windowOf 3600000
                (watchStep foldAddress userId state call).flags = some window ∧
              3 ≤ window.count) := by
  unfold watchStep
  cases screens with
  | unflagged untouched =>
    rw [flaggedAt_of_untouched untouched]
    refine ⟨⟨?_⟩, ?_⟩
    · rw [← untouched.counter]
      exact inStep.counter
    · refine iff_of_false (not_locks_of_row untouched.row.symm) ?_
      rintro ⟨_, ⟨⟩, _⟩
  | flagged raised row counters alerts now counts =>
    rw [flaggedAt_of_raised alerts counts, if_pos rfl]
    cases counts with
    | uncounted untouched incomplete => exact absurd holds incomplete
    | counted counter locked locks kept sameNow =>
      obtain ⟨window, ofTimes, value⟩ := inStep.tallied raised counters
      have sameTime : raised.now = call.now := now
      rw [sameTime] at ofTimes
      have locks := locks holds
      rw [value] at counter locks
      refine ⟨⟨?_⟩, ?_⟩
      · rw [counter, ofTimes, Option.map_some]
      · rw [ofTimes]
        by_cases third : 3 ≤ window.count
        · rw [if_pos third, row] at locks
          constructor
          · exact fun moved => ⟨moved.1, rfl, window, rfl, third⟩
          · rintro ⟨isOpen, -⟩
            refine ⟨isOpen, ?_⟩
            rw [lockedAccount, locks]
            rw [openAccount] at isOpen
            cases found : (call.found state.world).db.users.row userId with
            | none => simp_all
            | some user => rfl
        · simp_all [not_locks_of_row]

end

/-- Whatever fails, as long as the deadline of the user's counter is not lost,
a call that locks the user is flagged and is at least the third within the
hour.  Where nothing fails, a call locks an open account iff it is flagged
and is at least the third of its window. -/
theorem lockout_follows_flags (foldAddress : String → String) (userId : Id)
    (start : World) (unseen : start.counters (flagsOf userId) = none) (history : List Analysis) :
    (Along (watchStep foldAddress userId) (fun state call =>
          state.world.now ≤ call.now ∧ commerce.Spares (keepsDeadline userId)
              (analyzeRequest foldAddress call.input) call.faults
              (call.found state.world)) ⟨start, []⟩ history →
        Along (watchStep foldAddress userId) (fun state call =>
          Locks foldAddress userId state.world call →
            flaggedAt foldAddress userId state.world call = true ∧ 3 ≤ withinHour call.now
                (watchStep foldAddress userId state call).flags)
          ⟨start, []⟩ history) ∧
      (Along (watchStep foldAddress userId) (fun state call =>
          state.world.now ≤ call.now ∧ call.faults = []) ⟨start, []⟩ history →
        Along (watchStep foldAddress userId) (fun state call =>
          Locks foldAddress userId state.world call ↔ openAccount userId (call.found state.world) ∧
              flaggedAt foldAddress userId state.world call = true ∧ ∃ window, windowOf 3600000
                    (watchStep foldAddress userId state call).flags = some window ∧
                  3 ≤ window.count) ⟨start, []⟩ history) := by
  constructor
  · intro along
    have initially : Timed userId ⟨start, []⟩ := by
      refine ⟨List.forall_mem_nil _, fun counter stored => ?_⟩
      rw [unseen] at stored
      cases stored
    have step (state : Watched) (call : Analysis) (timed : Timed userId state)
        (spares : state.world.now ≤ call.now ∧ commerce.Spares (keepsDeadline userId)
            (analyzeRequest foldAddress call.input) call.faults (call.found state.world)) :=
      timed.step spares.1 (commerce.wp_sound_spared (screens_analyzeRequest foldAddress
          (by simp [keepsDeadline]) call.input (call.found state.world)) spares.2)
    exact along_of_invariant (fun state call timed spares => (step state call timed spares).1)
      (fun state call timed spares => (step state call timed spares).2) initially along
  · intro along
    have initially : InStep userId ⟨start, []⟩ := ⟨unseen⟩
    have step (state : Watched) (call : Analysis) (inStep : InStep userId state)
        (succeeds : state.world.now ≤ call.now ∧ call.faults = []) :=
      have screens (world : World) :=
        screens_analyzeRequest foldAddress (rfl : everySpared _ = true) call.input world
      inStep.step (fun _ => rfl) (commerce.wp_sound_spared (screens (call.found state.world))
        (by rw [succeeds.2]; exact commerce.spares_nil _ _ _))
    exact along_of_invariant (fun state call inStep succeeds => (step state call inStep succeeds).1)
      (fun state call inStep succeeds => (step state call inStep succeeds).2) initially along

/-! ### An account under watch -/

/-- A request of user 7 to an address far from where it comes from. -/
def farRequest (now : Date) : Analysis where
  input :=
    { userId := some 7
      ip := some "203.0.113.9"
      metadata := some { shippingAddress := some "Lhasa" } }
  now := now

/-- Three alerts in a minute, and then a fourth. -/
def burst : List Analysis := [farRequest 1000, farRequest 21000, farRequest 41000, farRequest 61000]

theorem burst_locks_third :
    Locks id 7 (run (watchStep id 7) ⟨farShop, []⟩ (burst.take 2)).world (farRequest 41000) ∧
    Along (watchStep id 7) (fun state call =>
        Locks id 7 state.world call → flaggedAt id 7 state.world call = true ∧
            3 ≤ withinHour call.now (watchStep id 7 state call).flags)
      ⟨farShop, []⟩ burst ∧ Along (watchStep id 7) (fun state call =>
        Locks id 7 state.world call ↔ openAccount 7 (call.found state.world) ∧
            flaggedAt id 7 state.world call = true ∧
              ∃ window, windowOf 3600000 (watchStep id 7 state call).flags = some window ∧
                3 ≤ window.count)
      ⟨farShop, []⟩ burst := by
  have law := lockout_follows_flags id 7 farShop rfl burst
  refine ⟨?_, ?_, ?_⟩
  · unfold Locks openAccount lockedAccount
    decide
  · exact law.1 (by decide)
  · exact law.2 (by decide)

/-- Alerts after 0, 50, 65 and 70 minutes: the last three lie within the
hour, but in a window that has opened with the third. -/
theorem unlocked_after_three_flags :
    let state := run (watchStep id 7) ⟨farShop, []⟩
      [farRequest 0, farRequest 3000000, farRequest 3900000]
    let call := farRequest 4200000
    openAccount 7 (call.found state.world) ∧ flaggedAt id 7 state.world call = true ∧
      3 ≤ withinHour call.now (watchStep id 7 state call).flags ∧
      ¬ Locks id 7 state.world call := by
  unfold Locks openAccount lockedAccount
  decide

end MarketX.Commerce
