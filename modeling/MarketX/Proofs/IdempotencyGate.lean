/-
Module: MarketX.Proofs.IdempotencyGate
Purpose: Calls of `executeOnce`, effect by effect in any order: when the
  operation of a key runs to success once within the time to live, alone, and
  again after it has failed.
Trusted boundary: human-reviewed definition of gateRace, ExactlyOnce and
  Gated
Main exports: gateRace, ExactlyOnce, Gated, exactly_once_gated
-/
import MarketX.Common.IdempotencyService
import MarketX.Effects.Dialogues

namespace MarketX.Idempotency

open Effects Handler Caching

variable {T : Type}

/-! ### The race -/

abbrev GatePool (T : Type) := Pool (signature T) (World T) HttpException (OperationCall T)

/-- Besides, so many milliseconds may pass. -/
abbrev GateTurn (T : Type) := Turn HttpException (OperationCall T) ℕ

def elapse (milliseconds : ℕ) (world : World T) : World T :=
  { world with now := world.now + milliseconds }

def gateRace : GatePool T → GateTurn T → GatePool T :=
  Pool.step idempotency OperationCall.program elapse

/-! ### The property -/

/-- The time to live that began with a success is over. -/
def Spent (success : OperationCall T × Date) (now : Date) : Prop :=
  ∃ expiresAt ∈ deadline success.2 (success.1.ttlSeconds * 1000), expiresAt ≤ now

instance (success : OperationCall T × Date) (now : Date) :
    Decidable (Spent success now) := inferInstanceAs (Decidable (∃ expiresAt ∈ deadline _ _, _))

def successesOf (key : String) (world : World T) :
    List (OperationCall T × Date) := world.successes.filter fun success => success.1.key = key

/-- The next effect is the end of a run of the key's operation. -/
def runs (key : String) : Option (Op T) → Bool
  | some (.finishOperation call) => call.key = key
  | _ => false

def isStart : Op T → Bool
  | .startOperation _ => true
  | _ => false

def isRefusal : Op T → Bool
  | .answer executed _ => !executed
  | _ => false

def isAdd : Op T → Bool
  | .inFlightAdd _ => true
  | _ => false

def isDelete : Op T → Bool
  | .inFlightDelete _ => true
  | _ => false

def did (test : Op T → Bool) (past : Past (signature T) (World T)) : Bool :=
  past.any fun entry => test entry.1

/-- The call has marked its key as in flight and not unmarked it. -/
def holdsMark (past : Past (signature T) (World T)) : Bool := did isAdd past && !did isDelete past

/-- Within the time to live one run of a key's operation succeeds, no two
runs overlap, a call that is answered `executed: false` has not run its
operation, and where a run has failed and none succeeded since, the next call
that finds no other at it runs its operation. -/
structure ExactlyOnce (pool : GatePool T) : Prop where
  once : pool.state.successes.Pairwise fun later earlier =>
    later.1.key = earlier.1.key → Spent earlier later.2
  alone : ∀ key, (pool.threads.countP fun thread => runs key thread.rest.next?) ≤ 1
  refused : ∀ thread ∈ pool.threads,
    did isRefusal thread.past = true → did isStart thread.past = false
  again : ∀ thread ∈ pool.threads, ∀ failed met, (Op.finishOperation failed, met) ∈ thread.past →
      successesOf failed.key pool.state = successesOf failed.key met →
        (∀ other ∈ pool.threads, other.name.key = failed.key → holdsMark other.past = false) →
          ∀ next : OperationCall T, next.key = failed.key →
            (idempotency.exec next.program [] pool.state).2.starts =
              next :: pool.state.starts

/-! ### The condition -/

/-- When a call marks its key, the key is neither in flight nor in the cache
any more than when it looked; and the cache takes every entry. -/
def gated (world : World T) (fault : Option HttpException) : Op T → Bool
  | .inFlightAdd cacheKey => !world.inFlight cacheKey && (world.cache.get world.now cacheKey).isNone
  | .cacheSet .. => fault.isNone
  | _ => true

def Gated (pool : GatePool T) (turn : GateTurn T) : Prop := ∀ moves ∈ pool.mover? turn,
    gated pool.state turn.fault? moves.2 = true

instance (pool : GatePool T) (turn : GateTurn T) :
    Decidable (Gated pool turn) := inferInstanceAs (Decidable (∀ moves ∈ pool.mover? turn, _))

/-! ### The dialogue of a call -/

inductive GatePhase where
  | asking
  | marked
  | running
  | succeeded
  | unmarking
  | freed
  | finished
deriving DecidableEq

/-- The key is marked. -/
def GatePhase.holds : GatePhase → Bool
  | .marked | .running | .succeeded | .unmarking => true
  | _ => false

def GatePhase.searches : GatePhase → Bool
  | .marked | .running => true
  | _ => false

/-- The operation has succeeded, and the cache does not know yet. -/
def GatePhase.waits : GatePhase → Bool
  | .succeeded => true
  | _ => false

theorem GatePhase.holds_of_searches {phase : GatePhase}
    (searches : phase.searches = true) : phase.holds = true := by
  cases phase <;> first | rfl | cases searches

theorem GatePhase.holds_of_waits {phase : GatePhase}
    (waits : phase.waits = true) : phase.holds = true := by
  cases phase <;> first | rfl | cases waits

inductive GateAllows (call : OperationCall T) :
    GatePhase → Op T → Prop where
  | has : GateAllows call .asking (.inFlightHas (toCacheKey call.key))
  | gets : GateAllows call .asking (.cacheGet (toCacheKey call.key))
  | refuses : GateAllows call .asking (.answer false none)
  | adds : GateAllows call .asking (.inFlightAdd (toCacheKey call.key))
  | starts : GateAllows call .marked (.startOperation call)
  | finishes : GateAllows call .running (.finishOperation call)
  | dates : GateAllows call .succeeded .dateNow
  | sets {value : Date} :
      GateAllows call .succeeded (.cacheSet (toCacheKey call.key) value (call.ttlSeconds * 1000))
  | deletes :
      GateAllows call .unmarking (.inFlightDelete (toCacheKey call.key))
  | answers {result : Option T} :
      GateAllows call .freed (.answer true result)

def GatePhase.acted (phase : GatePhase) : Op T → GatePhase
  | .inFlightAdd _ => .marked
  | .startOperation _ => .running
  | .finishOperation _ => .succeeded
  | .cacheSet .. => .unmarking
  | .inFlightDelete _ => .freed
  | .answer .. => .finished
  | _ => phase

def GatePhase.failed (phase : GatePhase) : Op T → GatePhase
  | .cacheGet _ => .finished
  | .finishOperation _ | .cacheSet .. => .unmarking
  | _ => phase

def gateDialogue (call : OperationCall T) :
    Dialogue (signature T) (World T) GatePhase where
  start := .asking
  allows := fun _ => GateAllows call
  acted := fun phase op _ => phase.acted op
  failed := fun phase op _ => phase.failed op
  ends := fun phase => phase.holds = false

section

variable {call : OperationCall T} {α : Type}

theorem speaks_await_bind {op : Op T} {rest : Reply op → Service T α}
    {post : Except HttpException α → Past (signature T) (World T) →
      GatePhase → Prop} {past : Past (signature T) (World T)} {phase : GatePhase}
    (allowed : GateAllows call phase op)
    (acted : ∀ met : World T, (rest (act op met).1).Speaks idempotency
      (gateDialogue call) post ((op, met) :: past) (phase.acted op))
    (failed : mayFail op = true → ∀ error later, post (.error error) later (phase.failed op)) :
    (await op >>= rest).Speaks idempotency (gateDialogue call) post past
      phase := speaks_perform_bind allowed acted fun fails _ error => failed fails error _

theorem speaks_executeMarked {past : Past (signature T) (World T)}
    {post : Except HttpException (ExecuteOnceResult T) →
      Past (signature T) (World T) → GatePhase → Prop}
    (executed : ∀ answer later, answer.executed = true → post (.ok answer) later .unmarking)
    (thrown : ∀ error later, post (.error error) later .unmarking) :
    (executeMarked (toCacheKey call.key) (operation call)
      call.ttlSeconds).Speaks idempotency (gateDialogue call) post past
        .marked := by
  apply speaks_bind
  apply speaks_await_bind .starts
  · intro started
    apply speaks_perform GateAllows.finishes
    · intro finished
      apply speaks_await_bind .dates
      · intro dated
        apply speaks_await_bind .sets
        · exact fun _ => executed _ _ rfl
        · exact fun _ error later => thrown error later
      · exact nofun
    · exact fun _ _ error => thrown error _
  · exact nofun

theorem speaks_program (call : OperationCall T) :
    call.program.Speaks idempotency (gateDialogue call) (fun _ _ => (gateDialogue call).ends) []
      (gateDialogue call).start := by
  apply speaks_bind
  apply speaks_await_bind .has
  · intro asked
    apply speaks_branch
    · intro inFlight
      exact speaks_perform GateAllows.refuses (fun _ => rfl) nofun
    · intro free
      apply speaks_await_bind .gets
      · intro looked
        apply speaks_branch
        · intro processed
          exact speaks_perform GateAllows.refuses (fun _ => rfl) nofun
        · intro unprocessed
          apply speaks_await_bind .adds
          · intro added
            apply speaks_bind
            apply speaks_attempt
            apply speaks_executeMarked
            · intro answer later executed
              apply speaks_await_bind .deletes
              · intro deleted
                show Program.Speaks _ _ (await _) _ _ _
                rw [executed]
                exact speaks_perform GateAllows.answers (fun _ => rfl) nofun
              · exact nofun
            · intro error later
              apply speaks_await_bind .deletes
              · exact fun _ => rfl
              · exact nofun
          · exact nofun
      · exact fun _ _ _ => rfl
  · exact nofun

end

/-! ### The invariant -/

section

variable {world : World T} {key : String}

theorem Spent.mono {success : OperationCall T × Date} {now later : Date}
    (spent : Spent success now) (passed : now ≤ later) :
    Spent success later := by
  obtain ⟨expiresAt, found, finished⟩ := spent
  exact ⟨expiresAt, found, finished.trans passed⟩

def Absent (world : World T) (key : String) : Prop :=
  world.cache.get world.now (toCacheKey key) = none

/-- The time to live of a success is over, or the key's entry outlasts it. -/
def Settled (world : World T) (success : OperationCall T × Date) : Prop := Spent success world.now ∨
    ∃ entry, world.cache (toCacheKey success.1.key) = some entry ∧
      ∀ expiresAt ∈ entry.expiresAt, Spent success expiresAt

theorem Settled.spent {success : OperationCall T × Date}
    (settled : Settled world success) (absent : Absent world success.1.key) :
    Spent success world.now := by
  rcases settled with spent | ⟨entry, stored, outlasts⟩
  · exact spent
  · have dropped := Store.get_eq_none.mp absent entry stored
    simp only [Entry.Live, not_forall, not_lt] at dropped
    obtain ⟨expiresAt, found, finished⟩ := dropped
    exact (outlasts expiresAt found).mono finished

def Followed (past : Past (signature T) (World T)) : GatePhase → Prop
  | .asking => did isStart past = false ∧ did isDelete past = false ∧ did isRefusal past = false
  | .freed => did isRefusal past = false
  | .finished => did isRefusal past = true → did isStart past = false
  | _ => holdsMark past = true ∧ did isRefusal past = false

section

variable {past : Past (signature T) (World T)} {call : OperationCall T}
  {phase : GatePhase} {op : Op T} {met : World T}

theorem Followed.holdsMark (followed : Followed past phase)
    (holds : phase.holds = true) : holdsMark past = true := by
  cases phase with
  | marked | running | succeeded | unmarking => exact followed.1
  | asking | freed | finished => cases holds

theorem Followed.refused (followed : Followed past phase)
    (refusal : did isRefusal past = true) : did isStart past = false := by
  have silent : did isRefusal past ≠ false := by simp [refusal]
  cases phase with
  | asking => exact followed.1
  | finished => exact followed refusal
  | freed => exact absurd followed silent
  | marked | running | succeeded | unmarking => exact absurd followed.2 silent

theorem Followed.acted (followed : Followed past phase) (allowed : GateAllows call phase op) :
    Followed ((op, met) :: past) (phase.acted op) := by
  cases allowed with
  | has | gets => exact followed
  | starts | finishes | dates | sets => exact followed
  | refuses => exact fun _ => followed.1
  | adds =>
    refine ⟨?_, followed.2.2⟩
    show (!did isDelete past) = true
    rw [followed.2.1, Bool.not_false]
  | deletes => exact followed.2
  | answers =>
    intro refusal
    cases Eq.trans (Eq.symm followed) refusal

theorem Followed.failed (followed : Followed past phase)
    (allowed : GateAllows call phase op) (exposed : mayFail op = true) :
    Followed ((op, met) :: past) (phase.failed op) := by
  cases allowed with
  | gets => exact fun _ => followed.1
  | finishes | sets => exact followed
  | has | refuses | adds | starts | dates | deletes | answers => cases exposed

end

abbrev GateCast (T : Type) := Cast (signature T) (World T) HttpException (OperationCall T) GatePhase

abbrev GateRole (T : Type) :=
  Thread (signature T) (World T) HttpException (OperationCall T) × GatePhase

def holdsKey (key : String) (role : GateRole T) : Bool := role.1.name.key = key && role.2.holds

/-- The call has seen so many successes of the key at the end of a run. -/
def Ended (key : String) (count : ℕ) (role : GateRole T) : Prop :=
  ∃ call met, (Op.finishOperation call, met) ∈ role.1.past ∧
    call.key = key ∧ (successesOf key met).length = count

/-- The latest success of the key is that of the call, which has yet to put
it in the cache; all others are spent. -/
structure Latest (world : World T) (cast : GateCast T)
    (call : OperationCall T) : Prop where
  own : ∃ time older, successesOf call.key world = (call, time) :: older ∧
    time ≤ world.now ∧ ∀ success ∈ older, Spent success world.now
  unseen : ∀ role ∈ cast, ¬ Ended call.key (successesOf call.key world).length role

/-- What holds of the service as long as the gate does: the calls between
their mark and its removal are those whose key is in flight, and every
success is in the cache, spent, or about to be put there. -/
structure Watched (world : World T) (cast : GateCast T) : Prop where
  spaced : world.successes.Pairwise fun later earlier =>
    later.1.key = earlier.1.key → Spent earlier later.2
  held : ∀ key, cast.countP (holdsKey key) = if world.inFlight (toCacheKey key) then 1 else 0
  followed : ∀ role ∈ cast, Followed role.1.past role.2
  absent : ∀ role ∈ cast, role.2.searches = true → Absent world role.1.name.key
  settled : ∀ key, (∀ role ∈ cast, role.1.name.key = key →
    role.2.waits = false) → ∀ success ∈ successesOf key world, Settled world success
  latest : ∀ role ∈ cast, role.2.waits = true → Latest world cast role.1.name
  known : ∀ role ∈ cast, ∀ key count, Ended key count role → count ≤ (successesOf key world).length
  ended : ∀ role ∈ cast, ∀ key, Ended key (successesOf key world).length role → Absent world key

section

variable {front back : GateCast T}
  {thread : Thread (signature T) (World T) HttpException (OperationCall T)}
  {phase later : GatePhase} {op : Op T} {rest : Service T Unit}

theorem Watched.sole (watched : Watched world (front ++ (thread, phase) :: back))
    (holds : phase.holds = true) {other : GateRole T}
    (member : other ∈ front ++ back) (otherHolds : other.2.holds = true) :
    other.1.name.key ≠ thread.name.key := by
  intro same
  have one : (front ++ (thread, phase) :: back).countP (holdsKey thread.name.key) ≤ 1 := by
    rw [watched.held]
    split <;> omega
  grind [others_not_counted, holdsKey]

theorem ended_answered {key : String} {count : ℕ} :
    Ended key count (thread.answered op world rest, later) ↔ Ended key count (thread, phase) ∨
        ∃ call, op = .finishOperation call ∧ call.key = key ∧
          (successesOf key world).length = count := by grind [Ended, Thread.answered]

theorem held_answered (key : String) :
    (front ++ (thread.answered op world rest, later) :: back).countP (holdsKey key) =
      (front ++ back).countP (holdsKey key) +
        if thread.name.key = key ∧ later.holds = true then 1 else 0 := by
  have counted : holdsKey key (thread.answered op world rest, later) =
      (decide (thread.name.key = key) && later.holds) := rfl
  rw [countP_replaced, counted]
  simp

theorem Watched.held_split (watched : Watched world (front ++ (thread, phase) :: back))
    (key : String) :
    (front ++ back).countP (holdsKey key) +
        (if thread.name.key = key ∧ phase.holds = true then 1 else 0) =
      if world.inFlight (toCacheKey key) then 1 else 0 := by
  have held := watched.held key
  rw [countP_replaced] at held
  simpa [holdsKey] using held

theorem Watched.moved (watched : Watched world (front ++ (thread, phase) :: back))
    {inFlight : String → Bool} {starts : List (OperationCall T)}
    (held : ∀ key, (front ++ back).countP (holdsKey key) +
        (if thread.name.key = key ∧ later.holds = true then 1 else 0) =
      if inFlight (toCacheKey key) then 1 else 0)
    (followed : Followed ((op, world) :: thread.past) later)
    (absent : later.searches = true → Absent world thread.name.key)
    (waits : later.waits = phase.waits) (ends : ∀ call, op = .finishOperation call →
      call = thread.name ∧ phase = .running) :
    Watched { world with inFlight, starts }
      (front ++ (thread.answered op world rest, later) :: back) := by
  have here : (thread, phase) ∈ front ++ (thread, phase) :: back := by simp
  have old : ∀ role ∈ front ++ back, role ∈ front ++ (thread, phase) :: back :=
    fun role member => mem_of_others member _
  constructor
  · exact watched.spaced
  · intro key
    rw [held_answered]
    exact held key
  · intro role member
    rcases mem_replaced member with rfl | other
    · exact followed
    · exact watched.followed role (old role other)
  · intro role member searching
    rcases mem_replaced member with rfl | other
    · exact absent searching
    · exact watched.absent role (old role other) searching
  · intro key none
    refine watched.settled key fun role member about => ?_
    rcases mem_replaced member with rfl | other
    · rw [← waits]
      exact none (thread.answered op world rest, later) (by simp) about
    · exact none role (mem_of_others other _) about
  · intro role member waiting
    have before : ∃ earlier ∈ front ++ (thread, phase) :: back,
        earlier.1.name = role.1.name ∧ earlier.2.waits = true := by
      rcases mem_replaced member with rfl | other
      · exact ⟨(thread, phase), here, rfl, waits.symm.trans waiting⟩
      · exact ⟨role, old role other, rfl, waiting⟩
    obtain ⟨earlier, listed, sameName, waited⟩ := before
    have latest := watched.latest earlier listed waited
    rw [sameName] at latest
    refine ⟨latest.own, fun other member => ?_⟩
    rcases mem_replaced member with rfl | others
    · rw [ended_answered]
      rintro (ended | ⟨call, rfl, about, -⟩)
      · exact latest.unseen (thread, phase) here ended
      · -- two calls would be between their marks and their removal
        obtain ⟨rfl, running⟩ := ends call rfl
        subst running
        rcases mem_replaced listed with rfl | elsewhere
        · cases waited
        · refine watched.sole rfl elsewhere (GatePhase.holds_of_waits waited) ?_
          rw [sameName, about]
    · exact latest.unseen other (old other others)
  · intro role member key count ended
    rcases mem_replaced member with rfl | other
    · rcases ended_answered.mp ended with before | ⟨call, -, -, same⟩
      · exact watched.known (thread, phase) here key count before
      · exact same.ge
    · exact watched.known role (old role other) key count ended
  · intro role member key ended
    rcases mem_replaced member with rfl | other
    · rcases ended_answered.mp ended with before | ⟨call, isEnd, about, -⟩
      · exact watched.ended (thread, phase) here key before
      · obtain ⟨rfl, running⟩ := ends call isEnd
        rw [← about]
        exact watched.absent (thread, phase) here (by rw [running]; rfl)
    · exact watched.ended role (old role other) key ended

theorem Watched.toggled (watched : Watched world (front ++ (thread, phase) :: back)) {value : Bool}
    (free : phase.holds = false → world.inFlight (toCacheKey thread.name.key) = false)
    (holds : later.holds = value) (held : phase.holds = !value) (key : String) :
    (front ++ back).countP (holdsKey key) +
        (if thread.name.key = key ∧ later.holds = true then 1 else 0) =
      if (world.mark (toCacheKey thread.name.key) value).inFlight
        (toCacheKey key) then 1 else 0 := by
  have before := watched.held_split key
  by_cases same : key = thread.name.key
  · subst same
    have marks : (world.mark (toCacheKey thread.name.key) value).inFlight
        (toCacheKey thread.name.key) = value := Function.update_self ..
    grind
  · have marks : (world.mark (toCacheKey thread.name.key) value).inFlight
        (toCacheKey key) = world.inFlight (toCacheKey key) :=
      Function.update_of_ne (fun equal => same (toCacheKey_injective equal)) ..
    rw [marks, ← before]
    simp [Ne.symm same]

theorem Watched.finished (watched : Watched world (front ++ (thread, .running) :: back)) :
    Watched (world.withSuccess thread.name)
      (front ++ (thread.answered (.finishOperation thread.name) world rest,
        .succeeded) :: back) := by
  have here : (thread, GatePhase.running) ∈ front ++ (thread, .running) :: back := by simp
  have old : ∀ role ∈ front ++ back, role ∈ front ++ (thread, .running) :: back :=
    fun role member => mem_of_others member _
  have grown : successesOf thread.name.key (world.withSuccess thread.name) =
      (thread.name, world.now) :: successesOf thread.name.key world :=
    List.filter_cons_of_pos (by simp)
  have kept : ∀ key, key ≠ thread.name.key → successesOf key (world.withSuccess thread.name) =
        successesOf key world :=
    fun key other => List.filter_cons_of_neg (by simpa using Ne.symm other)
  have spent : ∀ success ∈ successesOf thread.name.key world,
      Spent success world.now := by
    intro success member
    have about : success.1.key = thread.name.key := by simpa using (List.mem_filter.mp member).2
    refine (watched.settled thread.name.key ?_ success member).spent ?_
    · intro role member same
      rcases mem_replaced member with rfl | other
      · rfl
      · by_contra waiting
        exact watched.sole rfl other (GatePhase.holds_of_waits (eq_true_of_ne_false waiting)) same
    · rw [about]
      exact watched.absent (thread, .running) here rfl
  have larger : ∀ role ∈ front ++ (thread, .running) :: back, ∀ count,
      Ended thread.name.key count role → count ≤ (successesOf thread.name.key world).length :=
    fun role member count => watched.known role member _ count
  -- nobody has seen the new success at the end of a run
  have unseen : ∀ role ∈ front ++ (thread.answered
      (.finishOperation thread.name) world rest, .succeeded) :: back,
        ¬ Ended thread.name.key (successesOf thread.name.key
          (world.withSuccess thread.name)).length role := by
    intro role member ended
    rw [grown, List.length_cons] at ended
    rcases mem_replaced member with rfl | other
    · rcases ended_answered.mp ended with before | ⟨call, -, -, same⟩
      · exact absurd (larger (thread, .running) here _ before) (by omega)
      · omega
    · exact absurd (larger role (old role other) _ ended) (by omega)
  constructor
  · refine List.pairwise_cons.mpr ⟨?_, watched.spaced⟩
    intro success member same
    exact spent success (List.mem_filter.mpr ⟨member, decide_eq_true (Eq.symm same)⟩)
  · intro key
    rw [held_answered]
    exact watched.held_split key
  · intro role member
    rcases mem_replaced member with rfl | other
    · exact (watched.followed (thread, .running) here).acted .finishes
    · exact watched.followed role (old role other)
  · intro role member searching
    rcases mem_replaced member with rfl | other
    · cases searching
    · exact watched.absent role (old role other) searching
  · intro key none
    have other : key ≠ thread.name.key := by
      rintro rfl
      cases none (thread.answered (.finishOperation thread.name) world rest,
        .succeeded) (by simp) rfl
    rw [kept key other]
    refine watched.settled key fun role member about => ?_
    rcases mem_replaced member with rfl | others <;> grind
  · intro role member waiting
    rcases mem_replaced member with rfl | other
    · exact ⟨⟨world.now, _, grown, le_rfl, spent⟩, unseen⟩
    · have latest := watched.latest role (old role other) waiting
      have elsewhere := watched.sole rfl other (GatePhase.holds_of_waits waiting)
      refine ⟨by rw [kept _ elsewhere]; exact latest.own, ?_⟩
      rw [kept _ elsewhere]
      intro someone member
      rcases mem_replaced member with rfl | others
      · rw [ended_answered]
        rintro (ended | ⟨call, same, about, -⟩)
        · exact latest.unseen (thread, .running) here ended
        · cases same
          exact elsewhere about.symm
      · exact latest.unseen someone (old someone others)
  · intro role member key count ended
    have before : count ≤ (successesOf key world).length := by
      rcases mem_replaced member with rfl | other
      · rcases ended_answered.mp ended with before | ⟨call, -, -, same⟩
        · exact watched.known (thread, .running) here key count before
        · exact same.ge
      · exact watched.known role (old role other) key count ended
    by_cases same : key = thread.name.key <;> grind
  · intro role member key ended
    by_cases same : key = thread.name.key
    · subst same
      exact absurd ended (unseen role member)
    · rw [kept key same] at ended
      rcases mem_replaced member with rfl | other
      · rcases ended_answered.mp ended with before | ⟨call, isEnd, about, -⟩
        · exact watched.ended (thread, .running) here key before
        · cases isEnd
          exact absurd about.symm same
      · exact watched.ended role (old role other) key ended

theorem Watched.cached {value : Date}
    (watched : Watched world (front ++ (thread, .succeeded) :: back)) :
    Watched (world.withEntry (toCacheKey thread.name.key) value (thread.name.ttlSeconds * 1000))
      (front ++ (thread.answered (.cacheSet (toCacheKey thread.name.key) value
          (thread.name.ttlSeconds * 1000)) world rest, .unmarking) :: back) := by
  have here : (thread, GatePhase.succeeded) ∈ front ++ (thread, .succeeded) :: back := by simp
  have old : ∀ role ∈ front ++ back, role ∈ front ++ (thread, .succeeded) :: back :=
    fun role member => mem_of_others member _
  obtain ⟨⟨time, older, record, past, spent⟩, unseen⟩ :=
    watched.latest (thread, .succeeded) here rfl
  have notEnd : ∀ {key count}, Ended key count
      (thread.answered (.cacheSet (toCacheKey thread.name.key) value
        (thread.name.ttlSeconds * 1000)) world rest, GatePhase.unmarking) →
      Ended key count (thread, GatePhase.succeeded) := by
    intro key count ended
    rcases ended_answered.mp ended with before | ⟨call, isEnd, -⟩
    · exact before
    · cases isEnd
  have elsewhere : ∀ {key}, key ≠ thread.name.key → toCacheKey key ≠ toCacheKey thread.name.key :=
    fun other same => other (toCacheKey_injective same)
  have gone : ∀ {key}, key ≠ thread.name.key → Absent world key →
      Absent (world.withEntry (toCacheKey thread.name.key) value
        (thread.name.ttlSeconds * 1000)) key := by
    intro key other absent
    exact (Store.get_set_of_ne (elsewhere other)).trans absent
  constructor
  · exact watched.spaced
  · intro key
    rw [held_answered]
    exact watched.held_split key
  · intro role member
    rcases mem_replaced member with rfl | other
    · exact (watched.followed (thread, .succeeded) here).acted .sets
    · exact watched.followed role (old role other)
  · intro role member searching
    rcases mem_replaced member with rfl | other
    · cases searching
    · apply gone
      · exact watched.sole rfl other (GatePhase.holds_of_searches searching)
      · exact watched.absent role (old role other) searching
  · intro key none success member
    have about : success.1.key = key := by simpa using (List.mem_filter.mp member).2
    by_cases same : key = thread.name.key
    · subst same
      change success ∈ successesOf thread.name.key world at member
      rw [record] at member
      rcases List.mem_cons.mp member with rfl | earlier
      · refine .inr ⟨_, Store.set_self, ?_⟩
        intro expiresAt found
        unfold deadline at found
        split at found
        · cases found
        · cases found
          refine ⟨_, if_neg ‹_›, ?_⟩
          gcongr
      · exact .inl (spent success earlier)
    · have settled := watched.settled key ?_ success member
      · rcases settled with spent | ⟨entry, stored, outlasts⟩
        · exact .inl spent
        · refine .inr ⟨entry, ?_, outlasts⟩
          rw [about] at stored ⊢
          exact (Store.set_of_ne (elsewhere same)).trans stored
      · grind [mem_replaced]
  · intro role member waiting
    rcases mem_replaced member with rfl | other
    · cases waiting
    · have latest := watched.latest role (old role other) waiting
      refine ⟨latest.own, fun someone member ended => ?_⟩
      rcases mem_replaced member with rfl | others
      · exact latest.unseen (thread, .succeeded) here (notEnd ended)
      · exact latest.unseen someone (old someone others) ended
  · intro role member key count ended
    rcases mem_replaced member with rfl | other
    · exact watched.known (thread, .succeeded) here key count (notEnd ended)
    · exact watched.known role (old role other) key count ended
  · intro role member key ended
    have before : ∃ earlier ∈ front ++ (thread, .succeeded) :: back,
        Ended key (successesOf key world).length earlier := by
      rcases mem_replaced member with rfl | other
      · exact ⟨_, here, notEnd ended⟩
      · exact ⟨role, old role other, ended⟩
    obtain ⟨earlier, listed, before⟩ := before
    by_cases same : key = thread.name.key
    · subst same
      exact absurd before (unseen earlier listed)
    · exact gone same (watched.ended earlier listed key before)

end

theorem Watched.elapsed {cast : GateCast T} (watched : Watched world cast)
    (milliseconds : ℕ) : Watched (elapse milliseconds world) cast := by
  have passed : world.now ≤ (elapse milliseconds world).now :=
    Int.le_add_of_nonneg_right (Int.natCast_nonneg milliseconds)
  constructor
  · exact watched.spaced
  · exact watched.held
  · exact watched.followed
  · exact fun role member searching => Store.get_none_of_le
      (watched.absent role member searching) passed
  · intro key none success member
    rcases watched.settled key none success member with spent | stored
    · exact .inl (spent.mono passed)
    · exact .inr stored
  · intro role member waiting
    obtain ⟨⟨time, older, record, past, spent⟩, unseen⟩ := watched.latest role member waiting
    exact ⟨⟨time, older, record, past.trans passed,
      fun success member => (spent success member).mono passed⟩, unseen⟩
  · exact watched.known
  · exact fun role member key ended => Store.get_none_of_le
      (watched.ended role member key ended) passed

theorem Watched.spawned {cast : GateCast T} (watched : Watched world cast)
    (call : OperationCall T) :
    Watched world (cast ++ [(⟨call, [], call.program⟩, .asking)]) := by
  have cases : ∀ {role : GateRole T}, role ∈ cast ++ [(⟨call, [], call.program⟩, .asking)] →
        role ∈ cast ∨ role = (⟨call, [], call.program⟩, .asking) := by
    intro role member
    simpa using member
  have nothing : ∀ {key count},
      ¬ Ended key count ((⟨call, [], call.program⟩, .asking) : GateRole T) :=
    fun ⟨_, _, member, _⟩ => List.not_mem_nil member
  constructor
  · exact watched.spaced
  · intro key
    rw [List.countP_append, watched.held key, List.countP_singleton]
    simp [holdsKey, GatePhase.holds]
  · intro role member
    rcases cases member with old | rfl
    · exact watched.followed role old
    · exact ⟨rfl, rfl, rfl⟩
  · intro role member searching
    rcases cases member with old | rfl
    · exact watched.absent role old searching
    · cases searching
  · intro key none
    exact watched.settled key fun role member => none role (List.mem_append_left _ member)
  · intro role member waiting
    rcases cases member with old | rfl
    · have latest := watched.latest role old waiting
      refine ⟨latest.own, fun someone listed => ?_⟩
      rcases cases listed with before | rfl
      · exact latest.unseen someone before
      · exact nothing
    · cases waiting
  · intro role member key count ended
    rcases cases member with old | rfl
    · exact watched.known role old key count ended
    · exact absurd ended nothing
  · grind [ended]

theorem watched_spoke {pool : GatePool T} {cast later : GateCast T}
    {turn : GateTurn T} {after : World T} (watched : Watched pool.state cast)
    (isGated : Gated pool turn)
    (spoke : Pool.Spoke idempotency OperationCall.program elapse gateDialogue
      pool cast turn after later) :
    Watched after later := by
  cases spoke with
  | stays => exact watched
  | @changes milliseconds => exact watched.elapsed milliseconds
  | @spawns call => exact watched.spawned call
  | @acts _ front back thread phase op rest split moves allowed acts =>
    subst split
    have careful := isGated _ moves
    have followed : Followed ((op, pool.state) :: thread.past) (phase.acted op) :=
      (watched.followed (thread, phase) (by simp)).acted allowed
    cases allowed with
    | has | gets | refuses | dates | answers =>
      exact watched.moved (watched.held_split ·) followed nofun rfl nofun
    | starts =>
      refine watched.moved (watched.held_split ·) followed ?_ rfl nofun
      exact fun _ => watched.absent (thread, .marked) (by simp) rfl
    | adds =>
      simp only [gated, Bool.and_eq_true, Bool.not_eq_true', Option.isNone_iff_eq_none] at careful
      exact watched.moved (watched.toggled (fun _ => careful.1) rfl rfl)
        followed (fun _ => careful.2) rfl nofun
    | deletes => exact watched.moved (watched.toggled nofun rfl rfl) followed nofun rfl nofun
    | finishes => exact watched.finished
    | sets => exact watched.cached
  | @fails _ front back thread phase op error rest split moves allowed exposed throws =>
    subst split
    have careful := isGated _ moves
    have followed : Followed ((op, pool.state) :: thread.past) (phase.failed op) :=
      (watched.followed (thread, phase) (by simp)).failed allowed exposed
    cases allowed with
    | has | refuses | adds | starts | dates | deletes | answers =>
      cases exposed
    | gets => exact watched.moved (watched.held_split ·) followed nofun rfl nofun
    | finishes =>
      refine watched.moved (watched.held_split ·) followed nofun rfl ?_
      intro call same
      cases same
      exact ⟨rfl, rfl⟩
    | sets =>
      rw [throws] at careful
      cases careful

end

/-! ### Whole runs -/

theorem runs_le_held {pool : GatePool T} {cast : GateCast T}
    (spoken : pool.Spoken idempotency gateDialogue cast) (key : String) :
    (pool.threads.countP fun thread => runs key thread.rest.next?) ≤
      cast.countP (holdsKey key) := by
  rw [spoken.threads, List.countP_map]
  apply List.countP_mono_left
  rintro ⟨thread, phase⟩ member running
  have speaks := spoken.speaks _ member
  rw [Thread.Speaks] at speaks
  simp only [Function.comp_apply] at running
  cases rest : thread.rest with
  | pure value => simp [rest, Program.next?, runs] at running
  | throw error => simp [rest, Program.next?, runs] at running
  | call op next =>
    rw [rest] at speaks running
    obtain ⟨allowed, -⟩ := speaks
    cases allowed with
    | finishes =>
      have about : thread.name.key = key := of_decide_eq_true running
      simp [holdsKey, about, GatePhase.holds]
    | has | gets | refuses | adds | starts => cases running
    | dates | sets | deletes | answers => cases running

/-- A call that finds its key neither in flight nor in the cache runs its
operation. -/
theorem starts_fresh {world : World T} {call : OperationCall T}
    (free : world.inFlight (toCacheKey call.key) = false) (absent : Absent world call.key) :
    (idempotency.exec call.program [] world).2.starts = call :: world.starts := by
  have looked : world.cache.get world.now (toCacheKey call.key) = none := absent
  -- the effects of the call, one by one
  simp [OperationCall.program, executeOnce, executeMarked, operation,
    inFlight.has, inFlight.add, inFlight.delete, cache.get, cache.set, await,
    Program.perform, bind, Program.bind, Program.attempt, exec,
    Handler.perform, idempotency, free, looked]
  rfl

theorem Watched.exactlyOnce {pool : GatePool T} {cast : GateCast T}
    (spoken : pool.Spoken idempotency gateDialogue cast)
    (watched : Watched pool.state cast) : ExactlyOnce pool := by
  have listed : ∀ thread ∈ pool.threads, ∃ phase, (thread, phase) ∈ cast := by
    intro thread member
    rw [spoken.threads] at member
    simp_all
  constructor
  · exact watched.spaced
  · intro key
    apply (runs_le_held spoken key).trans
    rw [watched.held key]
    split <;> omega
  · intro thread member
    obtain ⟨phase, found⟩ := listed thread member
    exact (watched.followed _ found).refused
  · intro thread member failed met ended unsucceeded unmarked next same
    obtain ⟨phase, found⟩ := listed thread member
    apply starts_fresh
    · -- whoever holds the mark has not unmarked the key
      by_contra inFlight
      have held := watched.held next.key
      rw [if_pos (eq_true_of_ne_false inFlight)] at held
      obtain ⟨role, holder, holds⟩ := List.countP_pos_iff.mp (by rw [held]; exact Nat.one_pos)
      simp only [holdsKey, Bool.and_eq_true, decide_eq_true_eq] at holds
      have free := unmarked role.1 (by rw [spoken.threads]; exact List.mem_map_of_mem holder)
        (holds.1.trans same)
      rw [(watched.followed role holder).holdsMark holds.2] at free
      cases free
    · rw [same]
      apply watched.ended _ found
      exact ⟨failed, met, ended, rfl, by rw [unsucceeded]⟩

/-- In every interleaving of calls in which no call marks a key that another
one has marked or processed since it looked, and the cache takes every entry:
the operations of every key run exactly once. -/
theorem exactly_once_gated {start : World T} {turns : List (GateTurn T)}
    (idle : start.inFlight = fun _ => false) (unused : start.successes = [])
    (isGated : Along gateRace Gated ⟨start, []⟩ turns) :
    ExactlyOnce (run gateRace ⟨start, []⟩ turns) := by
  have initially : Watched start [] := by
    constructor
    · rw [unused]
      exact List.Pairwise.nil
    · intro key
      rw [idle]
      rfl
    · exact nofun
    · exact nofun
    · intro key none success member
      rw [successesOf, unused] at member
      cases member
    · exact nofun
    · exact nofun
    · exact nofun
  obtain ⟨cast, spoken, watched⟩ := Pool.spoken_invariant Watched speaks_program
    (fun _ _ _ _ _ _ watched isGated spoke => watched_spoke watched isGated spoke) initially isGated
  exact watched.exactlyOnce spoken

/-- The service before its first call. -/
def idleService : World Unit where
  inFlight _ := false
  cache := .empty
  now := 0
  starts := []
  successes := []

def importJob : OperationCall Unit where
  key := "job:1"
  ttlSeconds := 60
  result := ()

/-- So many effects of one call, none failing. -/
def gateTurns (index count : ℕ) : List (GateTurn Unit) := List.replicate count (.perform index none)

/-- The first run fails, a second call runs the operation again, a third one
is refused, and a fourth one comes after the time to live. -/
theorem job_fails_and_recovers :
    ExactlyOnce (run gateRace ⟨idleService, []⟩ ([.spawn importJob] ++ gateTurns 0 4 ++
        [.perform 0 (some (.error "fail"))] ++ gateTurns 0 1 ++
        [.spawn importJob] ++ gateTurns 1 9 ++ [.spawn importJob] ++ gateTurns 2 3 ++
        [.outside 60000, .spawn importJob] ++ gateTurns 3 9)) :=
  exactly_once_gated rfl rfl (by decide)

/-- Two calls that both look before either marks the key run the operation at
the same time, and both to success; and where the cache does not take the
entry, the next call runs it again. -/
theorem operation_runs_twice :
    ¬ ExactlyOnce (run gateRace ⟨idleService, []⟩
        ([.spawn importJob, .spawn importJob] ++ gateTurns 0 2 ++
          gateTurns 1 2 ++ gateTurns 0 2 ++ gateTurns 1 2)) ∧
      ¬ ExactlyOnce (run gateRace ⟨idleService, []⟩
        ([.spawn importJob, .spawn importJob] ++ gateTurns 0 2 ++
          gateTurns 1 2 ++ gateTurns 0 7 ++ gateTurns 1 7)) ∧
      ¬ ExactlyOnce (run gateRace ⟨idleService, []⟩ ([.spawn importJob] ++ gateTurns 0 6 ++
          [.perform 0 (some (.error "connection lost"))] ++ gateTurns 0 1 ++
          [.spawn importJob] ++ gateTurns 1 9)) := by
  refine ⟨fun exactly => ?_, fun exactly => ?_, fun exactly => ?_⟩
  · exact absurd (exactly.alone "job:1") (by decide)
  · exact absurd exactly.once (by decide)
  · exact absurd exactly.once (by decide)

end MarketX.Idempotency
