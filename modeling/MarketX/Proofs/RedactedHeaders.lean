/-
Module: MarketX.Proofs.RedactedHeaders
Purpose: The middleware in front of the guard: which requests it passes on
  with the headers they were sent with, and when the guard tells their clients
  apart.
Trusted boundary: human-reviewed definition of frontStep, KeepsHeaders,
  Independent and Unredacted
Main exports: frontStep, KeepsHeaders, Independent, redacted_iff
-/
import MarketX.Security.ThrottleGuard
import MarketX.Security.SecurityMiddleware

namespace MarketX.Security

open Effects ThrottleGuard SecurityMiddleware

/-! ### The property -/

section

variable (setting : Settings) (security : SecurityMiddleware)

/-- The middleware with the guard behind it. -/
def frontStep (gate : Gate) : GateEvent → Gate × Option Answer
  | .request request =>
    match security.use request with
    | .passed request _ => gateStep setting gate (.request request)
    | .refused _ | .failed _ => (gate, none)
  | event => gateStep setting gate event

/-- Whatever is passed on has the headers it was sent with. -/
def KeepsHeaders (events : List GateEvent) : Prop :=
  ∀ request, .request request ∈ events → ∀ passed responseHeaders,
    security.use request = .passed passed responseHeaders → passed.headers = request.headers

def sentBy (clientId : String) : GateEvent → Bool
  | .request request => getClientId request = clientId
  | _ => false

/-- The requests of a client are decided on as if another one had made
none. -/
def Independent (start : Gate) (events : List GateEvent) : Prop :=
  ∀ clientId other, clientId ≠ other →
    outputs (frontStep setting security) (sentBy clientId) start events =
      outputs (frontStep setting security) (sentBy clientId) start
        (events.filter fun event => !sentBy other event)

end

/-! ### The condition -/

/-- Each sensitive header is missing, or empty, or reads as it would after
the redaction. -/
def Unredacted (request : Request) : Prop :=
  ∀ header ∈ sensitiveHeaders, ∀ value ∈ request.headers header,
    value.truthy = true → value = redacted

/-! ### One request -/

section

variable {security : SecurityMiddleware} {request passed : Request}
  {responseHeaders : List (String × String)}

theorem redact_headers (request : Request) (header name : String) :
    (redact request header).headers name =
      if name = header ∧ (request.headers name).any Header.truthy = true then
        some redacted
      else request.headers name := by
  unfold redact
  split <;> grind

theorem redactAll_headers (headers : List String) (request : Request) (name : String) :
    (headers.foldl redact request).headers name =
      if name ∈ headers ∧ (request.headers name).any Header.truthy = true then
        some redacted
      else request.headers name := by
  induction headers generalizing request <;> grind [redact_headers]

theorem redactAll_eq (headers : List String) (request : Request) :
    headers.foldl redact request =
      { request with headers := (headers.foldl redact request).headers } := by
  induction headers generalizing request with
  | nil => rfl
  | cons head tail ih => grind [redact]

theorem passed_eq (passes : security.use request = .passed passed responseHeaders) :
    passed = sensitiveHeaders.foldl redact request := by
  unfold SecurityMiddleware.use at passes
  split at passes
  next sanitized same =>
    cases passes
    simp only [SecurityMiddleware.sanitized, bind, Except.bind, sanitizeRequest] at same
    split at same
    · cases same
    split at same
    · cases same
    split at same
    · cases same
    · cases same
      rfl
  · cases passes
  · cases passes

theorem headers_kept_iff (passes : security.use request = .passed passed responseHeaders) :
    passed.headers = request.headers ↔ Unredacted request := by
  rw [passed_eq passes]
  constructor
  · intro kept header sensitive value found given
    have same := congrFun kept header
    rw [redactAll_headers, if_pos ⟨sensitive, by rw [found]; exact given⟩, found] at same
    exact (Option.some.inj same).symm
  · intro unredacted
    funext name
    rw [redactAll_headers]
    split
    next holds =>
      obtain ⟨value, found, given⟩ := Option.any_eq_true _ _ |>.mp holds.2
      rw [found, unredacted name holds.1 value found given]
    next => rfl

theorem passed_eq_self (passes : security.use request = .passed passed responseHeaders)
    (unredacted : Unredacted request) : passed = request := by
  have kept := (headers_kept_iff passes).mpr unredacted
  have same := (passed_eq passes).trans (redactAll_eq _ _)
  rw [← passed_eq passes, kept] at same
  exact same

end

/-! ### Whole runs -/

section

variable {setting : Settings} {security : SecurityMiddleware}
  {gate alone : Gate} {event : GateEvent} {other : String}

/-- If the event is a request that is passed on, it has nothing that is
redacted. -/
def PassesUnredacted (security : SecurityMiddleware) (event : GateEvent) :
    Prop := ∀ request, event = .request request → ∀ passed responseHeaders,
    security.use request = .passed passed responseHeaders → Unredacted request

theorem frontStep_cases (unredacted : PassesUnredacted security event) :
    (∀ gate, frontStep setting security gate event = gateStep setting gate event) ∨
      ∀ gate, frontStep setting security gate event = (gate, none) := by
  cases event with
  | cleanup | elapse => exact .inl fun _ => rfl
  | request request =>
    cases passes : security.use request with
    | passed passed responseHeaders =>
      have same := passed_eq_self passes (unredacted request rfl passed responseHeaders passes)
      left
      intro gate
      rw [frontStep, passes, same]
    | refused | failed =>
      right
      intro gate
      rw [frontStep, passes]

/-- The run without the requests of another client: the records of the others
are the same. -/
structure Without (other : String) (gate alone : Gate) : Prop where
  now : alone.now = gate.now
  running : ∀ clientId, clientId ≠ other → alone.running clientId = gate.running clientId

theorem Without.kept (related : Without other gate alone) (spared : sentBy other event = false) :
    Without other (throttle setting gate event) (throttle setting alone event) ∧
      (gateStep setting gate event).2 = (gateStep setting alone event).2 := by
  cases event with
  | cleanup =>
    refine ⟨⟨related.now, fun clientId distinct => ?_⟩, rfl⟩
    rw [running_cleanup, running_cleanup]
    exact related.running clientId distinct
  | elapse milliseconds =>
    refine ⟨⟨?_, fun clientId distinct => ?_⟩, rfl⟩
    · exact congrArg (· + (milliseconds : ℤ)) related.now
    · rw [running_elapse, running_elapse, related.now, related.running clientId distinct]
  | request request =>
    have distinct : getClientId request ≠ other := of_decide_eq_false spared
    have charges : alone.chargedBy setting request =
        gate.chargedBy setting request := chargedBy_congr related.now (related.running _ distinct)
    refine ⟨⟨related.now, fun clientId apart => ?_⟩, ?_⟩
    · rw [running_request, running_request, charges, related.now, related.running clientId apart]
    · rw [answered_request, answered_request, charges, related.now]

theorem Without.dropped (related : Without other gate alone) (sent : sentBy other event = true) :
    Without other (throttle setting gate event) alone := by
  cases event with
  | cleanup | elapse => cases sent
  | request request =>
    have same : getClientId request = other := of_decide_eq_true sent
    refine ⟨related.now, fun clientId distinct => ?_⟩
    subst same
    rw [running_request, if_neg distinct.symm]
    exact related.running clientId distinct

theorem independent_of_unredacted {start : Gate} {events : List GateEvent}
    (unredacted : ∀ event ∈ events, PassesUnredacted security event) :
    Independent setting security start events := by
  intro clientId other distinct
  refine outputs_filter (Without other) ?_ ?_ ?_ ?_ (along_of_forall unredacted)
  · intro event sent
    cases event <;> simp_all [sentBy]
  · intro gate alone event related unredacted spared
    have cases := @frontStep_cases setting security event unredacted
    rcases cases with seen | unseen
    · have kept := @Without.kept setting _ _ _ _ related (by simpa using spared)
      simp_all [advance]
    · simp_all [advance]
  · intro gate alone event related unredacted sent
    have cases := @frontStep_cases setting security event unredacted
    rcases cases with seen | unseen
    · rw [advance, seen]
      exact related.dropped (by simpa using sent)
    · rw [advance, unseen]
      exact related
  · exact ⟨rfl, fun _ _ => rfl⟩

end

/-- The middleware passes every request on with its headers, and the guard
tells the clients apart, exactly in the runs in which no request that is passed
on has something to redact. -/
theorem redacted_iff (setting : Settings) (security : SecurityMiddleware)
    (start : Gate) (events : List GateEvent) :
    (KeepsHeaders security events ∧ Independent setting security start events) ↔
      ∀ event ∈ events, PassesUnredacted security event := by
  constructor
  · rintro ⟨kept, -⟩ event member request rfl passed responseHeaders passes
    exact (headers_kept_iff passes).mp (kept request member passed responseHeaders passes)
  · intro unredacted
    refine ⟨?_, independent_of_unredacted unredacted⟩
    intro request member passed responseHeaders passes
    exact (headers_kept_iff passes).mpr
      (unredacted _ member request rfl passed responseHeaders passes)

/-- No address is configured, so that no regular expression is used. -/
def plainSecurity : SecurityMiddleware where
  regExpTest _ _ := .ok true

/-- A login of a client behind a proxy. -/
def forwardedLogin (address : String) : GateEvent := .request
    { path := "/auth/login"
      headers := fun name =>
        if name = "x-forwarded-for" then some (.text address) else none
      ip := some "10.0.0.1" }

/-- Five logins of one client take those of another one. -/
theorem forwarded_clients_confused :
    ¬ KeepsHeaders plainSecurity (List.replicate 5 (forwardedLogin "1.1.1.1") ++
          [forwardedLogin "2.2.2.2"]) ∧ ¬ Independent defaultSettings plainSecurity (.start 0)
        (List.replicate 5 (forwardedLogin "1.1.1.1") ++ [forwardedLogin "2.2.2.2"]) := by
  constructor
  · intro kept
    have same := kept _ List.mem_cons_self _ _ rfl
    have forwarded := congrFun same "x-forwarded-for"
    revert forwarded
    decide
  · intro independent
    have same := independent "ip:2.2.2.2" "ip:1.1.1.1" (by decide)
    have accepted := congrArg (List.map fun answer => answer.map fun answer => answer.isOk) same
    revert accepted
    decide

end MarketX.Security
