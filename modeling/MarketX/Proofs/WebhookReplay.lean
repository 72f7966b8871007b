/-
Module: MarketX.Proofs.WebhookReplay
Purpose: Requests at the guard of the webhooks, effect by effect in any order:
  when a body and a signature get through to a handler once.
Trusted boundary: human-reviewed definition of webhookRace, AcceptedOnce and
  Fresh
Main exports: webhookRace, AcceptedOnce, Fresh, accepted_once_fresh
-/
import MarketX.Effects.Dialogues
import MarketX.Proofs.WebhookAuthenticity

namespace MarketX.Webhooks

open Effects Handler Caching Numerals WebhookVerificationGuard

/-! ### The race -/

abbrev WebhookPool := Pool signature World VerificationError WebhookCall

/-- Besides, so many milliseconds may pass. -/
abbrev WebhookTurn := Turn VerificationError WebhookCall ℕ

def elapse (milliseconds : ℕ) (world : World) : World :=
  { world with now := world.now + milliseconds }

def webhookRace (guard : WebhookVerificationGuard) :
    WebhookPool → WebhookTurn → WebhookPool := Pool.step webhooks (WebhookCall.program guard) elapse

/-! ### The property -/

namespace WebhookCall

variable (call : WebhookCall)

/-- The body and the signature of a request to a handler with the
decorator. -/
def signed : Option (String × String) := do
  let options ← call.options
  let signature ← (call.request.get options.signatureHeader).toOption.join
  let body ← call.request.body
  pure (body, signature)

/-- The nonce the guard reads. -/
def nonce : Option String := do
  let options ← call.options
  truthy (call.request.get options.nonceHeader).toOption.join

end WebhookCall

def handled (past : Past signature World) : Bool := past.any fun entry => entry.1 = .handle

/-- The guard lets a body and a signature through once. -/
def AcceptedOnce (pool : WebhookPool) : Prop := ∀ pair, (pool.threads.countP fun thread =>
    thread.name.signed = some pair && handled thread.past) ≤ 1

/-! ### The condition -/

/-- Where a request stores its nonce, nobody has stored it yet, neither since
the request looked nor so long ago that it has been dropped, and all requests
with the body and the signature of this one have its nonce. -/
def fresh (pool : WebhookPool) (call : WebhookCall) : Op → Bool
  | .cacheSet key _ _ =>
    (pool.state.cache key).isNone && pool.threads.all fun other =>
        other.name.signed ≠ call.signed || other.name.nonce = call.nonce
  | _ => true

theorem fresh_cacheSet {pool : WebhookPool} {call : WebhookCall} {key value : String} {ttl : ℤ} :
    fresh pool call (.cacheSet key value ttl) = true ↔
      pool.state.cache key = none ∧ ∀ other ∈ pool.threads,
        other.name.signed = call.signed → other.name.nonce = call.nonce := by
  simp [fresh, Classical.or_iff_not_imp_left]

def Fresh (pool : WebhookPool) (turn : WebhookTurn) : Prop :=
  ∀ moves ∈ pool.mover? turn, fresh pool moves.1.name moves.2 = true

instance (pool : WebhookPool) (turn : WebhookTurn) :
    Decidable (Fresh pool turn) := inferInstanceAs (Decidable (∀ moves ∈ pool.mover? turn, _))

/-! ### The dialogue of a request -/

inductive ReplayPhase where
  | checking
  | stored
deriving DecidableEq

inductive ReplayAllows (call : WebhookCall) : ReplayPhase → Op → Prop where
  | dates {phase : ReplayPhase} : ReplayAllows call phase .dateNow
  | looks {phase : ReplayPhase} {key : String} :
      ReplayAllows call phase (.cacheGet key)
  | stores {nonce : String} (named : call.nonce = some nonce) :
      ReplayAllows call .checking (.cacheSet (nonceKey nonce) "1" 86400)
  | records {phase : ReplayPhase} {success : Bool} {duration : ℤ} :
      ReplayAllows call phase (.recordVerification success duration)
  | handles : ReplayAllows call .stored .handle
  | passes (unguarded : call.options = none) :
      ReplayAllows call .checking .handle

def ReplayPhase.acted (phase : ReplayPhase) : Op → ReplayPhase
  | .cacheSet .. => .stored
  | _ => phase

def replayDialogue (call : WebhookCall) :
    Dialogue signature World ReplayPhase where
  start := .checking
  allows := fun _ => ReplayAllows call
  acted := fun phase op _ => phase.acted op
  failed := fun phase _ _ => phase
  ends := fun _ => True

section

variable {guard : WebhookVerificationGuard} {call : WebhookCall} {α : Type}
  {past : Past signature World} {phase : ReplayPhase}

theorem speaks_await_bind {op : Op} {rest : Reply op → Service α}
    {post : Except VerificationError α → Past signature World →
      ReplayPhase → Prop} (allowed : ReplayAllows call phase op)
    (acted : ∀ met, (rest (act op met).1).Speaks webhooks
      (replayDialogue call) post ((op, met) :: past) (phase.acted op))
    (failed : mayFail op = true → ∀ error later, post (.error error) later phase) :
    (await op >>= rest).Speaks webhooks (replayDialogue call) post past
      phase := speaks_perform_bind allowed acted fun fails _ error => failed fails error _

theorem speaks_decided {outcome : Except VerificationError α}
    {post : Except VerificationError α → Past signature World →
      ReplayPhase → Prop} (reached : post outcome past phase) :
    (decided outcome).Speaks webhooks (replayDialogue call) post past
      phase := by
  cases outcome <;> exact reached

theorem speaks_verifyTimestamp {options : WebhookVerifiedOptions}
    {post : Except VerificationError Unit → Past signature World →
      ReplayPhase → Prop} (reached : ∀ outcome later, post outcome later .checking) :
    (verifyTimestamp call.request options).Speaks webhooks
      (replayDialogue call) post past .checking := by
  apply speaks_bind
  apply speaks_decided
  cases call.request.get options.timestampHeader with
  | error error => exact reached _ _
  | ok timestampHeader =>
    dsimp only [thenSpeaks]
    split
    next => exact reached _ _
    next text _ =>
      split
      next => exact reached _ _
      next timestamp _ =>
        apply speaks_await_bind .dates
        · intro dated
          apply speaks_branch
          · exact fun _ => reached _ _
          · exact fun _ => reached _ _
        · exact nofun

theorem speaks_verifyNonce {options : WebhookVerifiedOptions}
    (guarded : call.options = some options)
    {post : Except VerificationError Unit → Past signature World →
      ReplayPhase → Prop} (passed : ∀ later, post (.ok ()) later .stored)
    (thrown : ∀ error later, post (.error error) later .checking) :
    (verifyNonce call.request options).Speaks webhooks
      (replayDialogue call) post past .checking := by
  apply speaks_bind
  apply speaks_decided
  cases found : call.request.get options.nonceHeader with
  | error error => exact thrown _ _
  | ok nonce =>
    dsimp only [thenSpeaks]
    split
    next => exact thrown _ _
    next text isText =>
      have named : call.nonce = some text := by
        rw [WebhookCall.nonce, guarded]
        show truthy (call.request.get options.nonceHeader).toOption.join = _
        rw [found]
        exact isText
      apply speaks_await_bind .looks
      · intro looked
        apply speaks_branch
        · exact fun _ => thrown _ _
        · intro unused
          apply speaks_perform (ReplayAllows.stores named)
          · exact fun _ => passed _
          · exact fun _ _ error => thrown error _
      · exact fun _ error later => thrown error later

theorem speaks_program (call : WebhookCall) :
    (call.program guard).Speaks webhooks (replayDialogue call)
      (fun _ _ => (replayDialogue call).ends) [] (replayDialogue call).start := by
  unfold WebhookCall.program canActivate
  cases guarded : call.options with
  | none => exact speaks_perform (ReplayAllows.passes guarded) (fun _ => trivial) nofun
  | some options =>
    apply speaks_bind
    apply speaks_await_bind .dates
    · intro started
      apply speaks_bind
      apply speaks_attempt
      -- after an exception the failure is recorded, in either phase
      have caught : ∀ (error : VerificationError) later
          (phase : ReplayPhase), Program.Speaks webhooks (replayDialogue call) (do
              let now ← await .dateNow
              metricsService.recordVerification false (now - (act .dateNow started).1)
              throw error)
            (thenSpeaks webhooks (replayDialogue call) (fun accepted : Bool =>
                if accepted then await .handle else pure ())
              fun _ _ => (replayDialogue call).ends) later phase := by
        intro error later phase
        apply speaks_await_bind .dates
        · intro dated
          apply speaks_await_bind .records
          · exact fun _ => trivial
          · exact fun _ _ _ => trivial
        · exact nofun
      apply speaks_bind
      apply speaks_bind
      cases guard.verifySignature call.request.body call.request options with
      | error error => exact caught error _ _
      | ok verified =>
        apply speaks_bind
        apply speaks_verifyTimestamp
        intro outcome later
        cases outcome with
        | error error => exact caught error _ _
        | ok inTime =>
          apply speaks_verifyNonce guarded
          · intro later
            apply speaks_await_bind .dates
            · intro dated
              apply speaks_await_bind .records
              · intro recorded
                exact speaks_perform ReplayAllows.handles (fun _ => trivial) nofun
              · exact fun _ error later => caught error later _
            · exact nofun
          · exact fun error later => caught error later _
    · exact nofun

end

/-! ### The invariant -/

section

variable {world : World}

abbrev ReplayCast := Cast signature World VerificationError WebhookCall ReplayPhase

abbrev ReplayRole := Thread signature World VerificationError WebhookCall × ReplayPhase

/-- The request has the body and the signature, and has stored its nonce. -/
def stores (pair : String × String) (role : ReplayRole) : Bool :=
  role.1.name.signed = some pair && role.2 = .stored

/-- What holds of the guard as long as the nonces are fresh: those stored are
in the cache, dropped or not, a request at its handler has stored its nonce,
and for a body and a signature one request at most has. -/
structure Guarded (world : World) (cast : ReplayCast) : Prop where
  kept : ∀ role ∈ cast, role.2 = .stored → ∃ nonce, role.1.name.nonce = some nonce ∧
      world.cache (nonceKey nonce) ≠ none
  handled : ∀ role ∈ cast, handled role.1.past = true →
    role.1.name.options = none ∨ role.2 = .stored
  once : ∀ pair, cast.countP (stores pair) ≤ 1

section

variable {front back : ReplayCast} {thread : Thread signature World VerificationError WebhookCall}
  {phase : ReplayPhase} {op : Op} {rest : Service Unit}

theorem Guarded.answered (guarded : Guarded world (front ++ (thread, phase) :: back))
    (handles : op = .handle → thread.name.options = none ∨ phase = .stored) :
    Guarded world (front ++ (thread.answered op world rest, phase) :: back) := by
  have here : (thread, phase) ∈ front ++ (thread, phase) :: back := by simp
  constructor
  · intro role member stored
    rcases mem_replaced member with rfl | other
    · exact guarded.kept (thread, phase) here stored
    · exact guarded.kept role (mem_of_others other _) stored
  · intro role member isHandled
    rcases mem_replaced member with rfl | other
    · rcases Bool.or_eq_true_iff.mp isHandled with now | before
      · exact handles (of_decide_eq_true now)
      · exact guarded.handled (thread, phase) here before
    · exact guarded.handled role (mem_of_others other _) isHandled
  · intro pair
    have once := guarded.once pair
    rw [countP_replaced] at once ⊢
    exact once

/-- A nonce is stored that nobody has stored, and that all requests with the
same body and signature have. -/
theorem Guarded.stored {nonce : String} {value : String} {ttl : ℤ}
    (guarded : Guarded world (front ++ (thread, .checking) :: back))
    (named : thread.name.nonce = some nonce) (unused : world.cache (nonceKey nonce) = none)
    (same : ∀ role ∈ front ++ back, role.1.name.signed = thread.name.signed →
      role.1.name.nonce = thread.name.nonce) :
    Guarded
      { world with
        cache := world.cache.set world.now (nonceKey nonce) value ttl }
      (front ++ (thread.answered (.cacheSet (nonceKey nonce) value ttl) world
        rest, .stored) :: back) := by
  have old : ∀ role ∈ front ++ back, role ∈ front ++ (thread, ReplayPhase.checking) :: back :=
    fun role member => mem_of_others member _
  constructor
  · intro role member stored
    rcases mem_replaced member with rfl | other
    · exact ⟨nonce, named, Store.set_ne_none (.inl rfl)⟩
    · obtain ⟨theirs, found, present⟩ := guarded.kept role (old role other) stored
      exact ⟨theirs, found, Store.set_ne_none (.inr present)⟩
  · intro role member isHandled
    rcases mem_replaced member with rfl | other
    · exact .inr rfl
    · exact guarded.handled role (old role other) isHandled
  · intro pair
    have once := guarded.once pair
    rw [countP_replaced] at once ⊢
    by_cases mine : thread.name.signed = some pair
    · have others : (front ++ back).countP (stores pair) = 0 := by
        rw [List.countP_eq_zero]
        intro role member counted
        obtain ⟨signed, stored⟩ := Bool.and_eq_true_iff.mp counted
        obtain ⟨theirs, found, present⟩ := guarded.kept role (old role member)
          (of_decide_eq_true stored)
        grind
      split <;> omega
    · simp_all [stores, Thread.answered]

end

variable {cast : ReplayCast} {pool : WebhookPool}

theorem Guarded.elapsed (guarded : Guarded world cast)
    (milliseconds : ℕ) : Guarded (elapse milliseconds world) cast :=
  ⟨guarded.kept, guarded.handled, guarded.once⟩

theorem Guarded.spawned (guarded : Guarded world cast)
    (call : WebhookCall) (program : Service Unit) :
    Guarded world (cast ++ [(⟨call, [], program⟩, .checking)]) := by
  have cases : ∀ role ∈ cast ++ [(⟨call, [], program⟩, .checking)],
      role ∈ cast ∨ role = (⟨call, [], program⟩, .checking) := by
    intro role member
    simpa using member
  constructor
  · intro role member stored
    rcases cases role member with old | rfl
    · exact guarded.kept role old stored
    · cases stored
  · intro role member isHandled
    rcases cases role member with old | rfl
    · exact guarded.handled role old isHandled
    · cases isHandled
  · intro pair
    rw [List.countP_append, List.countP_singleton, if_neg (by simp [stores])]
    exact guarded.once pair

theorem guarded_spoke {guard : WebhookVerificationGuard}
    {later : ReplayCast} {turn : WebhookTurn} {after : World}
    (spoken : pool.Spoken webhooks replayDialogue cast)
    (guarded : Guarded pool.state cast) (isFresh : Fresh pool turn)
    (spoke : Pool.Spoke webhooks (WebhookCall.program guard) elapse
      replayDialogue pool cast turn after later) :
    Guarded after later := by
  cases spoke with
  | stays => exact guarded
  | @changes milliseconds => exact guarded.elapsed milliseconds
  | @spawns call => exact guarded.spawned call _
  | @acts _ front back thread phase op rest split moves allowed acts =>
    subst split
    have isFresh := isFresh _ moves
    cases allowed with
    | dates => exact guarded.answered nofun
    | looks => exact guarded.answered nofun
    | records => exact guarded.answered nofun
    | handles => exact guarded.answered fun _ => .inr rfl
    | passes unguarded => exact guarded.answered fun _ => .inl unguarded
    | @stores nonce named =>
      obtain ⟨unused, same⟩ := fresh_cacheSet.mp isFresh
      apply guarded.stored named unused
      intro role member signed
      have listed : role.1 ∈ pool.threads := by
        rw [spoken.threads]
        exact List.mem_map_of_mem (mem_of_others member _)
      exact same role.1 listed signed
  | @fails _ front back thread phase op error rest split moves allowed exposed throws =>
    subst split
    refine guarded.answered ?_
    rintro rfl
    cases exposed

theorem Guarded.acceptedOnce (spoken : pool.Spoken webhooks replayDialogue cast)
    (guarded : Guarded pool.state cast) : AcceptedOnce pool := by
  intro pair
  refine le_trans ?_ (guarded.once pair)
  rw [spoken.threads, List.countP_map]
  apply List.countP_mono_left
  intro role member counted
  obtain ⟨signed, isHandled⟩ := Bool.and_eq_true_iff.mp counted
  have decorated : role.1.name.options ≠ none := by grind [WebhookCall.signed]
  exact Bool.and_eq_true_iff.mpr ⟨signed, decide_eq_true
    ((guarded.handled role member isHandled).resolve_left decorated)⟩

end

/-! ### Whole runs -/

def freshWorld (now : Date) : World := ⟨.empty, now⟩

theorem guarded_fresh (now : Date) : Guarded (freshWorld now) [] := by constructor <;> simp

/-- In every interleaving in which every stored nonce is fresh, a body and a
signature are accepted once. -/
theorem accepted_once_fresh (guard : WebhookVerificationGuard) (now : Date)
    {turns : List WebhookTurn}
    (isFresh : Along (webhookRace guard) Fresh ⟨freshWorld now, []⟩ turns) :
    AcceptedOnce (run (webhookRace guard) ⟨freshWorld now, []⟩ turns) := by
  obtain ⟨cast, spoken, guarded⟩ := Pool.spoken_invariant Guarded speaks_program
    (fun _ _ _ _ _ spoken guarded isFresh spoke => guarded_spoke spoken guarded isFresh spoke)
    (guarded_fresh now) isFresh
  exact guarded.acceptedOnce spoken

/-- So many effects of one request, none failing. -/
def webhookTurns (index count : ℕ) : List WebhookTurn := List.replicate count (.perform index none)

/-- A request captured from its sender, with headers of someone's choice. -/
def capturedCall (timestamp nonce : String) : WebhookCall where
  options := some webhookVerified
  request := sampleRequest "s3cret" none timestamp nonce

/-- A request goes through, a copy is refused because of its nonce, and another
one, later on, because of its timestamp. -/
theorem captured_request_refused :
    AcceptedOnce (run (webhookRace sampleGuard) ⟨freshWorld 1000, []⟩
      ([.spawn (capturedCall "1000" "a")] ++ webhookTurns 0 7 ++
        [.outside 500, .spawn (capturedCall "1200" "a")] ++ webhookTurns 1 5 ++
        [.outside 400000, .spawn (capturedCall "1000" "a")] ++
        webhookTurns 2 4)) := accepted_once_fresh sampleGuard 1000 (by decide)

/-- A captured request goes through again with another nonce, next to itself
before either copy has stored the nonce, and as it is a minute and a half
later. -/
theorem captured_request_replayed :
    ¬ AcceptedOnce (run (webhookRace sampleGuard) ⟨freshWorld 1000, []⟩
        ([.spawn (capturedCall "1000" "a")] ++ webhookTurns 0 7 ++
          [.spawn (capturedCall "1000" "b")] ++ webhookTurns 1 7)) ∧
      ¬ AcceptedOnce (run (webhookRace sampleGuard) ⟨freshWorld 1000, []⟩
        ([.spawn (capturedCall "1000" "a"), .spawn (capturedCall "1000" "a")] ++
          webhookTurns 0 3 ++ webhookTurns 1 3 ++ webhookTurns 0 4 ++ webhookTurns 1 4)) ∧
      ¬ AcceptedOnce (run (webhookRace sampleGuard) ⟨freshWorld 1000, []⟩
        ([.spawn (capturedCall "1000" "a")] ++ webhookTurns 0 7 ++
          [.outside 86400, .spawn (capturedCall "1000" "a")] ++
          webhookTurns 1 7)) := by
  refine ⟨fun once => ?_, fun once => ?_, fun once => ?_⟩
  · exact absurd (once ("{}", String.ofList (hex (sampleHmac "s3cret" "{}")))) (by decide)
  · exact absurd (once ("{}", String.ofList (hex (sampleHmac "s3cret" "{}")))) (by decide)
  · exact absurd (once ("{}", String.ofList (hex (sampleHmac "s3cret" "{}")))) (by decide)

end MarketX.Webhooks
