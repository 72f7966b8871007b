/-
Module: MarketX.Proofs.ThrottleWindows
Purpose: The guard in front of every route over whole runs: how many requests
  of a client to an endpoint it accepts, and what requests to other endpoints
  have to do with it.
Trusted boundary: human-reviewed definition of TwiceBounded, SolelyCharged
  and Exclusive
Main exports: TwiceBounded, SolelyCharged, Exclusive, throttled_exclusive
-/
import MarketX.Caching.Windows
import MarketX.Security.ThrottleGuard

namespace MarketX.Security

open Effects Caching ThrottleGuard

/-! ### The property -/

/-- When requests of a client to an endpoint were accepted. -/
def acceptedTimes (clientId : String) (endpoint : Option Endpoint)
    (rulings : List Ruling) : List Date := rulings.filterMap fun ruling =>
    if ruling.clientId = clientId ∧ ruling.endpoint = endpoint ∧
        ruling.accepted = true then some ruling.time
    else none

/-- No interval as long as the window of an endpoint has more than twice as
many accepted requests to it as are allowed. -/
def TwiceBounded (setting : Settings) (clientId : String) (gate : Gate) :
    Prop := ∀ endpoint start, (acceptedTimes clientId endpoint gate.rulings).countP (fun time =>
        start ≤ time ∧ time < start + ((limitsOf setting endpoint).windowMs : ℤ)) ≤
          2 * (limitsOf setting endpoint).limit ∧
      (acceptedTimes clientId endpoint gate.rulings).countP (fun time =>
        start < time ∧ time ≤ start + ((limitsOf setting endpoint).windowMs : ℤ)) ≤
          2 * (limitsOf setting endpoint).limit

/-- A request of the client to the endpoint. -/
def asks (clientId : String) (endpoint : Option Endpoint) : GateEvent → Bool
  | .request request => getClientId request = clientId && endpointOf request.path = endpoint
  | _ => false

/-- Anything but a request of the client to another endpoint. -/
def spares (clientId : String) (endpoint : Option Endpoint) :
    GateEvent → Bool
  | .request request => getClientId request ≠ clientId || endpointOf request.path = endpoint
  | _ => true

/-- The requests of a client to an endpoint are answered as if it had made no
requests to others. -/
def SolelyCharged (setting : Settings) (clientId : String) (start : Gate)
    (events : List GateEvent) : Prop := ∀ endpoint,
    outputs (gateStep setting) (asks clientId endpoint) start events =
      outputs (gateStep setting) (asks clientId endpoint) start
        (events.filter (spares clientId endpoint))

/-! ### The condition -/

def Gate.lastEndpoint (gate : Gate) (clientId : String) :
    Option (Option Endpoint) :=
  (gate.rulings.find? fun ruling => ruling.clientId = clientId).map Ruling.endpoint

/-- A request that comes while the record of the client is running goes to the
same endpoint as the one before. -/
def Exclusive (clientId : String) (gate : Gate) : GateEvent → Prop
  | .request request =>
    getClientId request = clientId → (gate.running clientId).isSome = true →
        gate.lastEndpoint clientId = some (endpointOf request.path)
  | _ => True

instance (clientId : String) (gate : Gate) :
    ∀ event, Decidable (Exclusive clientId gate event)
  | .request _ => inferInstanceAs (Decidable (_ → _ → _))
  | .cleanup | .elapse _ => inferInstanceAs (Decidable True)

/-! ### One request -/

section

variable {setting : Settings} {gate : Gate} {request : Request} {clientId : String}

theorem lastEndpoint_request :
    (throttle setting gate (.request request)).lastEndpoint clientId =
      if getClientId request = clientId then some (endpointOf request.path)
      else gate.lastEndpoint clientId := by
  simp only [throttle, advance, gateStep, Gate.lastEndpoint]
  grind

theorem acceptedTimes_request {endpoint : Option Endpoint} :
    acceptedTimes clientId endpoint (throttle setting gate (.request request)).rulings =
      if getClientId request = clientId ∧ endpointOf request.path = endpoint ∧
          (gate.chargedBy setting request).count ≤
            (getEndpointConfig setting request.path).limit then
        gate.now :: acceptedTimes clientId endpoint gate.rulings
      else acceptedTimes clientId endpoint gate.rulings := by
  simp only [throttle, advance, gateStep, canActivate_eq, acceptedTimes,
    answer_isOk, List.filterMap_cons, Gate.chargedBy]
  split
  next none => grind
  next time some => grind

end

/-! ### The bound -/

section

variable {setting : Settings} {gate : Gate} {request : Request}
  {clientId : String} {endpoint : Option Endpoint}

/-- The window of an endpoint: where the record of the client is running for
the endpoint, it counts the window that was opened last; else that one is
over. -/
structure Windowed (setting : Settings) (clientId : String)
    (endpoint : Option Endpoint) (gate : Gate) (opened : Date) (used : ℕ) :
    Prop where
  tumbling : Tumbling ((limitsOf setting endpoint).windowMs : ℤ)
    (limitsOf setting endpoint).limit opened used (acceptedTimes clientId endpoint gate.rulings)
  counted : ∀ record, gate.running clientId = some record →
    gate.lastEndpoint clientId = some endpoint → opened ≤ gate.now ∧
        record.resetTime = opened + (limitsOf setting endpoint).windowMs ∧
          used = min record.count (limitsOf setting endpoint).limit
  finished : gate.running clientId = none ∨ gate.lastEndpoint clientId ≠ some endpoint →
    opened + (limitsOf setting endpoint).windowMs ≤ gate.now

theorem Windowed.asked {opened : Date} {used : ℕ} (windowed : Windowed setting (getClientId request)
      (endpointOf request.path) gate opened used)
    (positive : 0 < (getEndpointConfig setting request.path).windowMs)
    (exclusive : Exclusive (getClientId request) gate (.request request)) :
    ∃ opened used, Windowed setting (getClientId request)
      (endpointOf request.path) (throttle setting gate (.request request))
        opened used := by
  have charges := charged_eq gate (getClientId request) (getEndpointConfig setting request.path)
  -- the window the request is counted in, before it is counted
  obtain ⟨since, before, tumbling, started, ends, counts, alive⟩ :
      ∃ since before, Tumbling ((getEndpointConfig setting request.path).windowMs : ℤ)
          (getEndpointConfig setting request.path).limit since
          (min before (getEndpointConfig setting request.path).limit)
          (acceptedTimes (getClientId request) (endpointOf request.path)
            gate.rulings) ∧ since ≤ gate.now ∧ (gate.chargedBy setting request).resetTime =
            since + (getEndpointConfig setting request.path).windowMs ∧
          (gate.chargedBy setting request).count = before + 1 ∧ gate.now <
              since + (getEndpointConfig setting request.path).windowMs := by
    cases running : gate.running (getClientId request) with
    | none =>
      rw [running] at charges
      have fresh := windowed.tumbling.reopen (by exact_mod_cast positive)
        (windowed.finished (.inl running))
      refine ⟨gate.now, 0, ?_, le_rfl, ?_, ?_, ?_⟩
      · rw [Nat.zero_min]
        exact fresh
      · exact congrArg ClientRecord.resetTime charges
      · exact congrArg ClientRecord.count charges
      · lia
    | some record =>
      rw [running] at charges
      have same := exclusive rfl (by rw [running]; rfl)
      obtain ⟨started, ends, counts⟩ := windowed.counted record running same
      have live : gate.now < record.resetTime :=
        of_decide_eq_true (Option.filter_eq_some_iff.mp running).2
      refine ⟨opened, record.count, ?_, started, ?_, ?_, ?_⟩
      · subst counts
        exact windowed.tumbling
      · exact (congrArg ClientRecord.resetTime charges).trans ends
      · exact congrArg ClientRecord.count charges
      · exact live.trans_eq ends
  have running : (throttle setting gate (.request request)).running
      (getClientId request) = some (gate.chargedBy setting request) := by simp_all [running_request]
  have last : (throttle setting gate (.request request)).lastEndpoint
      (getClientId request) = some (endpointOf request.path) := by
    rw [lastEndpoint_request, if_pos rfl]
  refine ⟨since, min (before + 1) (getEndpointConfig setting request.path).limit, ?_, ?_, ?_⟩
  · rw [acceptedTimes_request, counts]
    by_cases room : before < (getEndpointConfig setting request.path).limit
    · rw [if_pos ⟨rfl, rfl, room⟩, Nat.min_eq_left room]
      rw [Nat.min_eq_left room.le] at tumbling
      exact tumbling.lets_in started alive room
    · rw [if_neg fun holds => room holds.2.2, Nat.min_eq_right (by omega)]
      rw [Nat.min_eq_right (by omega)] at tumbling
      exact tumbling
  · intro record found _
    cases running.symm.trans found
    exact ⟨started, ends, by rw [counts]; rfl⟩
  · simp_all

theorem Windowed.step {event : GateEvent} (windowed : ∃ opened used,
      Windowed setting clientId endpoint gate opened used)
    (positive : 0 < (limitsOf setting endpoint).windowMs)
    (exclusive : Exclusive clientId gate event) :
    ∃ opened used, Windowed setting clientId endpoint
      (throttle setting gate event) opened used := by
  obtain ⟨opened, used, windowed⟩ := windowed
  cases event with
  | cleanup =>
    refine ⟨opened, used, windowed.tumbling, ?_, ?_⟩
    · rw [running_cleanup]
      exact windowed.counted
    · rw [running_cleanup]
      exact windowed.finished
  | elapse milliseconds =>
    have later : gate.now ≤ gate.now + milliseconds := by lia
    refine ⟨opened, used, windowed.tumbling, ?_, ?_⟩
    · intro record running same
      rw [running_elapse] at running
      obtain ⟨before, live⟩ := Option.filter_eq_some_iff.mp running
      obtain ⟨started, ends, counts⟩ := windowed.counted record before same
      exact ⟨started.trans later, ends, counts⟩
    · intro gone
      show opened + _ ≤ gate.now + milliseconds
      rw [running_elapse] at gone
      cases before : gate.running clientId with
      | none => exact (windowed.finished (.inl before)).trans later
      | some record =>
        by_cases same : gate.lastEndpoint clientId = some endpoint
        · obtain ⟨-, ends, -⟩ := windowed.counted record before same
          rcases gone with gone | elsewhere
          · simp_all
          · exact absurd same elsewhere
        · exact (windowed.finished (.inr same)).trans later
  | request request =>
    by_cases ours : getClientId request = clientId
    · subst ours
      by_cases same : endpointOf request.path = endpoint
      · subst same
        exact windowed.asked positive exclusive
      · -- the request opens a window of another endpoint
        have ended : opened + (limitsOf setting endpoint).windowMs ≤
            gate.now := by
          apply windowed.finished
          cases before : gate.running (getClientId request) with
          | none => exact .inl rfl
          | some record =>
            right
            rw [exclusive rfl (by rw [before]; rfl)]
            exact fun equal => same (Option.some.inj equal)
        refine ⟨opened, used, ?_, ?_, fun _ => ended⟩
        · rw [acceptedTimes_request, if_neg fun holds => same holds.2.1]
          exact windowed.tumbling
        · intro record _ about
          rw [lastEndpoint_request, if_pos rfl] at about
          exact absurd (Option.some.inj about) same
    · refine ⟨opened, used, ?_, ?_, ?_⟩
      · rw [acceptedTimes_request, if_neg fun holds => ours holds.1]
        exact windowed.tumbling
      · rw [running_request, lastEndpoint_request, if_neg ours, if_neg ours]
        exact windowed.counted
      · rw [running_request, lastEndpoint_request, if_neg ours, if_neg ours]
        exact windowed.finished

end

/-! ### The run without the requests to other endpoints -/

section

variable {setting : Settings} {gate alone : Gate} {event : GateEvent}
  {clientId : String} {endpoint : Option Endpoint}

/-- How the run is related to the one in which the client makes only its
requests to the endpoint. -/
structure Alone (clientId : String) (endpoint : Option Endpoint)
    (gate alone : Gate) : Prop where
  now : alone.now = gate.now
  others : ∀ other, other ≠ clientId → alone.running other = gate.running other
  own : alone.running clientId =
    if gate.lastEndpoint clientId = some endpoint then gate.running clientId
    else none

/-- An exclusive request of the client to the endpoint meets its own
record. -/
theorem Alone.met {request : Request}
    (related : Alone (getClientId request) (endpointOf request.path) gate alone)
    (exclusive : Exclusive (getClientId request) gate (.request request)) :
    alone.running (getClientId request) =
      gate.running (getClientId request) := by
  rw [related.own]
  split
  next => rfl
  next elsewhere =>
    cases running : gate.running (getClientId request) with
    | none => rfl
    | some record => exact absurd (exclusive rfl (by rw [running]; rfl)) elsewhere

theorem Alone.kept (related : Alone clientId endpoint gate alone)
    (exclusive : Exclusive clientId gate event) (spared : spares clientId endpoint event = true) :
    Alone clientId endpoint (throttle setting gate event) (throttle setting alone event) ∧
      (gateStep setting gate event).2 = (gateStep setting alone event).2 := by
  cases event with
  | cleanup =>
    refine ⟨⟨related.now, fun other distinct => ?_, ?_⟩, rfl⟩
    · rw [running_cleanup, running_cleanup, related.others other distinct]
    · rw [running_cleanup, running_cleanup]
      exact related.own
  | elapse milliseconds =>
    refine ⟨⟨?_, fun other distinct => ?_, ?_⟩, rfl⟩
    · exact congrArg (· + (milliseconds : ℤ)) related.now
    · rw [running_elapse, running_elapse, related.others other distinct, related.now]
    · rw [running_elapse, running_elapse, related.own, related.now]
      show Option.filter _ _ = if gate.lastEndpoint clientId = some endpoint then _ else _
      split <;> rfl
  | request request =>
    have met : alone.running (getClientId request) =
        gate.running (getClientId request) := by
      by_cases ours : getClientId request = clientId
      · rcases Bool.or_eq_true_iff.mp spared with distinct | same
        · exact absurd ours (of_decide_eq_true distinct)
        · have same : endpointOf request.path = endpoint := of_decide_eq_true same
          subst ours same
          exact related.met exclusive
      · exact related.others _ ours
    have charges : alone.chargedBy setting request =
        gate.chargedBy setting request := chargedBy_congr related.now met
    refine ⟨⟨related.now, fun other distinct => ?_, ?_⟩, ?_⟩
    · rw [running_request, running_request, charges, related.now, related.others other distinct]
    · rw [running_request, running_request, lastEndpoint_request, charges, related.now]
      split
      next ours => rcases Bool.or_eq_true_iff.mp spared with distinct | same <;> simp_all
      next => exact related.own
    · rw [answered_request, answered_request, charges, related.now]

theorem Alone.dropped (related : Alone clientId endpoint gate alone)
    (exclusive : Exclusive clientId gate event)
    (elsewhere : spares clientId endpoint event = false) :
    Alone clientId endpoint (throttle setting gate event) alone := by
  cases event with
  | cleanup | elapse => cases elsewhere
  | request request =>
    obtain ⟨ours, distinct⟩ := Bool.or_eq_false_iff.mp elsewhere
    have ours : getClientId request = clientId := by simpa using ours
    have distinct := of_decide_eq_false distinct
    subst ours
    refine ⟨related.now, fun other apart => ?_, ?_⟩
    · rw [running_request, if_neg apart.symm]
      exact related.others other apart
    · rw [lastEndpoint_request, if_pos rfl,
        if_neg fun same => distinct (Option.some.inj same), related.own]
      split
      next last =>
        cases running : gate.running (getClientId request) with
        | none => rfl
        | some record =>
          have same := exclusive rfl (by rw [running]; rfl)
          simp_all
      next => rfl

end

/-! ### Whole runs -/

/-- Where a client keeps to one endpoint as long as a window is running, no
interval as long as the window of an endpoint has more than twice as many of
its accepted requests as are allowed, and no endpoint is charged for requests
to others. -/
theorem throttled_exclusive (setting : Settings) (clientId : String)
    (now : Date) {events : List GateEvent}
    (exclusive : Along (throttle setting) (Exclusive clientId) (.start now) events) :
    TwiceBounded setting clientId (run (throttle setting) (.start now) events) ∧
      SolelyCharged setting clientId (.start now) events := by
  constructor
  · intro endpoint start
    rcases Nat.eq_zero_or_pos (limitsOf setting endpoint).windowMs with
      empty | positive
    · have none : ∀ test : Date → Bool, (∀ time, test time = false) →
          (acceptedTimes clientId endpoint (run (throttle setting)
            (.start now) events).rulings).countP test = 0 := by
        intro test never
        rw [List.countP_eq_zero]
        intro time _ counted
        cases (never time).symm.trans counted
      rw [empty, none, none]
      · exact ⟨Nat.zero_le _, Nat.zero_le _⟩
      · intro time
        apply decide_eq_false
        lia
      · intro time
        apply decide_eq_false
        lia
    · have initially : ∃ opened used, Windowed setting clientId endpoint
          (.start now) opened used := by
        refine ⟨now - (limitsOf setting endpoint).windowMs, 0, ?_, ?_, ?_⟩
        · exact Tumbling.nil _ _ _
        · exact fun _ => nofun
        · exact fun _ => (sub_add_cancel _ _).le
      have preserved : ∀ gate event, (∃ opened used,
          Windowed setting clientId endpoint gate opened used) → Exclusive clientId gate event →
              ∃ opened used, Windowed setting clientId endpoint
                (throttle setting gate event) opened used :=
        fun _ _ windowed exclusive => Windowed.step windowed positive exclusive
      obtain ⟨opened, used, windowed⟩ := run_invariant preserved initially exclusive
      exact ⟨windowed.tumbling.openRight start, windowed.tumbling.openLeft start⟩
  · intro endpoint
    refine outputs_filter (Alone clientId endpoint) ?_ ?_ ?_ ?_ exclusive
    · intro event asked
      cases event with
      | request request =>
        obtain ⟨-, same⟩ := Bool.and_eq_true_iff.mp asked
        exact Bool.or_eq_true_iff.mpr (.inr same)
      | cleanup | elapse => rfl
    · intro gate alone event related exclusive spared
      obtain ⟨later, same⟩ := related.kept exclusive spared
      exact ⟨later, fun _ => same⟩
    · intro gate alone event related exclusive elsewhere
      exact related.dropped exclusive elsewhere
    · exact ⟨rfl, fun _ _ => rfl, rfl⟩

/-- A request of a client without an account. -/
def visit (path : String) : GateEvent :=
  .request { path, headers := fun _ => none, ip := some "10.0.0.1" }

/-- Six logins, and searches in the next window. -/
theorem logins_then_searches :
    TwiceBounded defaultSettings "ip:10.0.0.1" (run (throttle defaultSettings) (.start 0)
          (List.replicate 6 (visit "/auth/login") ++ [.elapse 900000] ++
            List.replicate 4 (visit "/search") ++ [.cleanup])) ∧
      SolelyCharged defaultSettings "ip:10.0.0.1" (.start 0)
        (List.replicate 6 (visit "/auth/login") ++ [.elapse 900000] ++
          List.replicate 4 (visit "/search") ++ [.cleanup]) :=
  throttled_exclusive defaultSettings "ip:10.0.0.1" 0 (by decide)

/-- Each minute a transaction, and two registrations. -/
def mixedVisits : List GateEvent :=
  (List.replicate 4 [visit "/transactions", visit "/register",
    visit "/register", .elapse 60000]).flatten

/-- The transactions open windows of a minute, in which eight registrations
are accepted within four minutes; and after five searches the first login is
refused. -/
theorem shared_record_overruns :
    ¬ TwiceBounded defaultSettings "ip:10.0.0.1"
        (run (throttle defaultSettings) (.start 0) mixedVisits) ∧
      ¬ SolelyCharged defaultSettings "ip:10.0.0.1" (.start 0)
        (List.replicate 5 (visit "/search") ++ [visit "/auth/login"]) := by
  constructor
  · intro bounded
    have overrun := (bounded (some ("register", .REGISTER)) 0).1
    revert overrun
    decide
  · intro charged
    have same := charged (some ("login", .LOGIN))
    have accepted := congrArg (List.map fun answer => answer.map fun answer => answer.isOk) same
    revert accepted
    decide

end MarketX.Security
