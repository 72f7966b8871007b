/-
Module: MarketX.RateLimiting.Requests
Purpose: Requests of the rate limit service, effect by effect in any order,
  and one inquiry after another with time passing and Redis failing.
Trusted boundary: human-reviewed definition of limitRun, addedBy, clockOf,
  admitted, Moment, World.asked and answers
Main exports: limitRun, addedBy, clockOf, admitted, Inquiry, Moment, World.asked
-/
import MarketX.Effects.Dialogues
import MarketX.Effects.Respects
import MarketX.Effects.Traces
import MarketX.RateLimiting.RateLimitService

namespace MarketX.RateLimiting

open Effects Handler Caching RateLimitService

/-! ### Runs -/

abbrev LimitPool := Pool signature World HttpException RateLimitCall

/-- Besides, so many milliseconds may pass. -/
abbrev LimitTurn := Turn HttpException RateLimitCall ℕ

def elapse (milliseconds : ℕ) (world : World) : World :=
  { world with now := world.now + milliseconds }

abbrev LimitThread := Thread signature World HttpException RateLimitCall

def limitRun (service : RateLimitService) (random : ℕ → String) :
    LimitPool → LimitTurn → LimitPool :=
  Pool.step (rateLimits random) (fun call => call.program service) elapse

def spawned? : LimitTurn → Option RateLimitCall
  | .spawn call => some call
  | _ => none

/-- So many effects of one request, none failing. -/
def limitTurns (index count : ℕ) : List LimitTurn := List.replicate count (.perform index none)

/-- Redis before its first command. -/
def emptyRedis (now : Date) : World := ⟨.empty, now, 0⟩

/-- The member a pipeline adds, and its score. -/
def added? : Op → Option (String × Date)
  | .exec commands => commands.findSome? fun command =>
    match command with
    | .zadd _ score member => some (member, score)
    | _ => none
  | _ => none

def addedBy (past : Past signature World) : Option (String × Date) :=
  past.findSome? fun entry => added? entry.1

/-- The clock value of a request, which is the score of what it adds. -/
def clockOf (past : Past signature World) : Option Date :=
  (addedBy past).map Prod.snd

/-- The answer was `success: true`. -/
def admits (past : Past signature World) : Bool := past.any fun entry =>
    match entry.1 with
    | .answer result => result.success
    | _ => false

/-- The request is on the key, and has been answered `success: true`, with a
clock value of a kind. -/
def admitted (key : String) (covers : Date → Bool) (thread : LimitThread) :
    Bool := thread.name.key = key && admits thread.past && (clockOf thread.past).any covers

/-! ### The sets -/

section

variable {world : World} {key other : String}

namespace World

theorem zset_eq : world.zset key = ((world.entry key).map Entry.value).getD .empty := rfl

theorem entry_write_none : (world.write key none).entry key = none := by
  simp [entry, write, Store.entry]

theorem entry_write {entry : Entry (SortedSet String Date) Date} (live : entry.Live world.now) :
    (world.write key (some entry)).entry key = some entry := by
  simp [World.entry, write, Store.entry, live]

theorem write_write {first second : Option (Entry (SortedSet String Date) Date)} :
    (world.write key first).write key second = world.write key second := by simp [write]

theorem live_of_entry {entry : Entry (SortedSet String Date) Date}
    (found : world.entry key = some entry) :
    world.sets key = some entry ∧ entry.Live world.now := by
  obtain ⟨stored, live⟩ := Option.filter_eq_some_iff.mp found
  exact ⟨stored, of_decide_eq_true live⟩

theorem zset_leave {entry : Entry (SortedSet String Date) Date} (live : entry.Live world.now) :
    (world.leave key entry).zset key = entry.value := by
  grind [leave, zset_eq, entry_write_none, SortedSet.eq_empty_of_card, entry_write]

end World

/-- What is left in the window of a request. -/
def purged (world : World) (key : String) (config : RateLimitConfig)
    (now : Date) : SortedSet String Date :=
  (world.zset key).removeRange 0 (now - config.windowMs)

/-- The entry a request with a clock value leaves under its key. -/
def renewed (world : World) (key : String) (config : RateLimitConfig)
    (now : Date) (draw : String) : Entry (SortedSet String Date) Date where
  value := (purged world key config now).add (toMember now draw) now
  expiresAt := some (world.now + ceilSeconds config.windowMs * 1000)

variable {member : String}

theorem act_zadd_expire {score : Date} {seconds : ℕ} :
    ((Command.expire key seconds).act ((Command.zadd key score member).act world).2).2 =
      world.write key (some ⟨(world.zset key).add member score,
        some (world.now + seconds * 1000)⟩) := by
  cases found : world.entry key with
  | none =>
    have live : Entry.Live ⟨SortedSet.empty.add member score, none⟩ world.now := nofun
    simp only [Command.act, found, World.entry_write live, World.zset_eq,
      World.write_write, Option.map_none, Option.getD_none]
    rfl
  | some entry =>
    have live : Entry.Live { entry with
        value := entry.value.add member score } world.now :=
      (World.live_of_entry found).2
    simp only [Command.act, found, World.entry_write live, World.zset_eq,
      World.write_write, Option.map_some, Option.getD_some]
    rfl

theorem act_zremrangebyscore (world : World) (key : String) (low high : Date) :
    ((Command.zremrangebyscore key low high).act world).2.zset key =
        (world.zset key).removeRange low high ∧
      ((Command.zremrangebyscore key low high).act world).2.now = world.now ∧
      ∀ entry, ((Command.zremrangebyscore key low high).act
        world).2.write key entry = world.write key entry := by
  cases found : world.entry key with
  | none =>
    have missing : world.zset key = .empty := by
      rw [World.zset_eq, found]
      rfl
    have same : ((Command.zremrangebyscore key low high).act world).2 =
        world := by simp only [Command.act, found]
    rw [same, missing]
    exact ⟨rfl, rfl, fun _ => rfl⟩
  | some entry =>
    have live : Entry.Live { entry with
        value := entry.value.removeRange low high } world.now :=
      (World.live_of_entry found).2
    have there : world.zset key = entry.value := by
      rw [World.zset_eq, found]
      rfl
    simp only [Command.act, found, there]
    exact ⟨World.zset_leave live, rfl, fun _ => World.write_write⟩

theorem actAll_window (world : World) (key : String)
    (config : RateLimitConfig) (now : Date) (draw : String) :
    (Command.actAll (windowCommands key config now draw) world).1.getD 1 0 =
        (purged world key config now).card ∧
      (Command.actAll (windowCommands key config now draw) world).2 =
        world.write key (some (renewed world key config now draw)) := by
  obtain ⟨zset, now_eq, writes⟩ := act_zremrangebyscore world key 0 (now - config.windowMs)
  constructor
  · exact congrArg SortedSet.card zset
  · refine act_zadd_expire.trans ?_
    show (Command.act _ world).2.write key (some ⟨((Command.act _
      world).2.zset key).add _ _, some ((Command.act _ world).2.now + _)⟩) = _
    rw [zset, now_eq, writes]
    rfl

theorem act_zrem_missing (missing : world.entry key = none) :
    ((Command.zrem key member).act world).2 = world := by simp only [Command.act, missing]

theorem act_zrem {entry : Entry (SortedSet String Date) Date}
    (found : world.entry key = some entry) :
    ((Command.zrem key member).act world).2 =
      world.leave key { entry with value := entry.value.remove member } := by
  simp only [Command.act, found]

theorem act_zrem_now :
    ((Command.zrem key member).act world).2.now = world.now := by
  cases found : world.entry key with
  | none => rw [act_zrem_missing found]
  | some entry =>
    rw [act_zrem found]
    rfl

theorem act_zrem_other (distinct : other ≠ key) :
    ((Command.zrem key member).act world).2.sets other =
      world.sets other := by
  cases found : world.entry key with
  | none => rw [act_zrem_missing found]
  | some entry =>
    rw [act_zrem found]
    exact Store.put_of_ne distinct

end

/-! ### The dialogue of a request -/

/-- What a request knows: nothing, its clock value, the number it has drawn;
that it is rejected, which world its pipeline has met, and that it has yet to
remove what it has added; its verdict, before and after its answer.  A
request that Redis has failed is broken. -/
inductive LimitPhase where
  | starting
  | dated (now : Date)
  | drawn (now : Date) (draw : String)
  | withdrawing (met : World) (now : Date) (draw : String)
  | judged (now : Date) (success : Bool)
  | answered (now : Date) (success : Bool)
  | broken

/-- When the request was accepted. -/
def LimitPhase.acceptedAt : LimitPhase → Option Date
  | .judged now true | .answered now true => some now
  | _ => none

section

variable (service : RateLimitService) (random : ℕ → String) (call : RateLimitCall)

inductive LimitAllows : LimitPhase → Op → Prop where
  | starts : LimitAllows .starting .dateNow
  | draws {now : Date} : LimitAllows (.dated now) .random
  | counts {now : Date} {draw : String} :
      LimitAllows (.drawn now draw) (.exec (windowCommands call.key (call.config service) now draw))
  | redraws {met : World} {now : Date} {draw : String} :
      LimitAllows (.withdrawing met now draw) .random
  | removes {met : World} {now : Date} {draw other : String} :
      LimitAllows (.withdrawing met now draw) (.command (.zrem call.key (toMember now other)))
  | dates {now : Date} {success : Bool} :
      LimitAllows (.judged now success) .dateNow
  | pushes {now : Date} {success : Bool} {entry : AnalyticsEntry} :
      LimitAllows (.judged now success) (.pushAnalytics entry)
  | answers {now : Date} {result : RateLimitResult} :
      LimitAllows (.judged now result.success) (.answer result)
  | opens {result : RateLimitResult} : LimitAllows .broken (.answer result)

/-- The request is accepted as the current one among those in its window. -/
def accepts (met : World) (now : Date) : Bool :=
  (purged met call.key (call.config service) now).card + 1 ≤ (call.config service).maxAllowed

def LimitPhase.acted (phase : LimitPhase) (op : Op) (met : World) :
    LimitPhase :=
  match phase, op with
  | .starting, .dateNow => .dated met.now
  | .dated now, .random => .drawn now (random met.drawn)
  | .drawn now draw, .exec _ =>
    if accepts service call met now then .judged now true
    else .withdrawing met now draw
  | .withdrawing _ now _, .command _ => .judged now false
  | .judged now success, .answer _ => .answered now success
  | phase, _ => phase

/-- Only the analytics may fail without the request noticing. -/
def LimitPhase.failed (phase : LimitPhase) : Op → LimitPhase
  | .pushAnalytics _ => phase
  | _ => .broken

def LimitPhase.ends : LimitPhase → Prop
  | .answered .. | .broken => True
  | _ => False

def limitDialogue (call : RateLimitCall) :
    Dialogue signature World LimitPhase where
  start := .starting
  allows := fun _ => LimitAllows service call
  acted := LimitPhase.acted service random call
  failed := fun phase op _ => phase.failed op
  ends := LimitPhase.ends

section

variable {service random call} {α : Type} {past : Past signature World} {phase : LimitPhase}

theorem speaks_await_bind {op : Op} {rest : Reply op → Service α}
    {post : Except HttpException α → Past signature World →
      LimitPhase → Prop} (allowed : LimitAllows service call phase op)
    (acted : ∀ met, (rest (act random op met).1).Speaks (rateLimits random)
      (limitDialogue service random call) post ((op, met) :: past)
        (phase.acted service random call op met)) (failed : mayFail op = true → ∀ error later,
      post (.error error) later (phase.failed op)) :
    (await op >>= rest).Speaks (rateLimits random)
      (limitDialogue service random call) post past phase :=
  speaks_perform_bind allowed acted fun fails _ error => failed fails error _

theorem speaks_withdraw {met : World} {now : Date} {draw : String}
    {post : Except HttpException Unit → Past signature World →
      LimitPhase → Prop} (withdrawn : ∀ later, post (.ok ()) later (.judged now false))
    (thrown : ∀ error later, post (.error error) later .broken) :
    (withdraw call.key now).Speaks (rateLimits random) (limitDialogue service random call) post past
        (.withdrawing met now draw) := by
  apply speaks_await_bind .redraws
  · intro drawn
    apply speaks_await_bind .removes
    · exact fun _ => withdrawn _
    · exact fun _ => thrown
  · exact nofun

theorem speaks_conclude {met : World} {now : Date} {draw : String} {currentCount : ℕ}
    {post : Except HttpException RateLimitResult → Past signature World →
      LimitPhase → Prop} (verdict : phase = if currentCount ≤ (call.config service).maxAllowed then
        .judged now true
      else .withdrawing met now draw)
    (decided : ∀ (result : RateLimitResult) later,
      post (.ok result) later (.judged now result.success))
    (thrown : ∀ error later, post (.error error) later .broken) :
    (conclude call.key (call.config service) now currentCount).Speaks
      (rateLimits random) (limitDialogue service random call) post past
        phase := by
  have headed : ∀ (success : Bool) remainingPoints msBeforeNext later,
      Program.Speaks (rateLimits random) (limitDialogue service random call) (do
          let headers ← generateHeaders (call.config service) remainingPoints msBeforeNext
          pure { success, totalHits := currentCount, remainingPoints,
                 msBeforeNext, headers })
        post later (.judged now success) := by
    intro success remainingPoints msBeforeNext later
    apply speaks_bind
    apply speaks_await_bind .dates
    · exact fun _ => decided { success, .. } _
    · exact nofun
  rw [verdict]
  unfold conclude
  by_cases allowed : currentCount ≤ (call.config service).maxAllowed
  · simp only [allowed, decide_true, if_true]
    exact headed true _ _ past
  · simp only [allowed, decide_false, if_false]
    apply speaks_bind
    apply speaks_withdraw
    · exact fun later => headed false _ _ later
    · exact fun error later => thrown error later

theorem speaks_slidingWindowRateLimit
    {post : Except HttpException RateLimitResult → Past signature World →
      LimitPhase → Prop} (decided : ∀ (result : RateLimitResult) later now,
      post (.ok result) later (.judged now result.success))
    (thrown : ∀ error later, post (.error error) later .broken) :
    (slidingWindowRateLimit call.key (call.config service)).Speaks
      (rateLimits random) (limitDialogue service random call) post past
        .starting := by
  apply speaks_await_bind .starts
  · intro started
    apply speaks_await_bind .draws
    · intro drawn
      apply speaks_await_bind .counts
      · intro met
        have verdict : (LimitPhase.drawn started.now (random drawn.drawn)).acted service random call
              (.exec (windowCommands call.key (call.config service)
                started.now (random drawn.drawn))) met =
            if (Command.actAll (windowCommands call.key (call.config service)
                started.now (random drawn.drawn)) met).1.getD 1 0 + 1 ≤
                  (call.config service).maxAllowed then
              .judged started.now true
            else .withdrawing met started.now (random drawn.drawn) := by
          rw [(actAll_window ..).1]
          simp only [LimitPhase.acted, accepts, decide_eq_true_eq]
        exact speaks_conclude verdict (fun result later => decided result later _) thrown
      · exact fun _ => thrown
    · exact nofun
  · exact nofun

theorem speaks_program (call : RateLimitCall) :
    (call.program service).Speaks (rateLimits random) (limitDialogue service random call)
      (fun _ _ => (limitDialogue service random call).ends) []
      (limitDialogue service random call).start := by
  apply speaks_bind
  apply speaks_bind
  apply speaks_attempt
  apply speaks_bind
  apply speaks_slidingWindowRateLimit
  · intro result later now
    apply speaks_bind
    apply speaks_await_bind .dates
    · intro dated
      apply speaks_bind
      apply speaks_attempt
      apply speaks_perform LimitAllows.pushes
      · intro pushed
        exact speaks_perform LimitAllows.answers (fun _ => trivial) nofun
      · intro fails met error
        exact speaks_perform LimitAllows.answers (fun _ => trivial) nofun
    · exact nofun
  · intro error later
    exact speaks_perform LimitAllows.opens (fun _ => trivial) nofun

end

/-! ### What the requests of a key know -/

/-- What a request in each phase has done. -/
def Told (past : Past signature World) : LimitPhase → Prop
  | .starting | .dated _ | .drawn .. => addedBy past = none ∧ admits past = false
  | .withdrawing _ now draw => addedBy past = some (toMember now draw, now) ∧ admits past = false
  | .judged now _ => clockOf past = some now ∧ admits past = false
  | .answered now success => clockOf past = some now ∧ admits past = success
  | .broken => True

variable {service random call} {past : Past signature World}
  {phase : LimitPhase} {op : Op} {met : World}

theorem Told.acted (told : Told past phase) (allowed : LimitAllows service call phase op) :
    Told ((op, met) :: past) (phase.acted service random call op met) := by
  cases allowed with
  | starts | draws | redraws | dates | pushes => exact told
  | opens => trivial
  | removes => exact ⟨congrArg (Option.map Prod.snd) told.1, told.2⟩
  | counts =>
    simp only [LimitPhase.acted]
    split
    · exact ⟨rfl, told.2⟩
    · exact ⟨rfl, told.2⟩
  | @answers now result =>
    refine ⟨told.1, ?_⟩
    show (result.success || admits past) = result.success
    rw [told.2, Bool.or_false]

theorem Told.failed (told : Told past phase) (allowed : LimitAllows service call phase op)
    (exposed : mayFail op = true) :
    Told ((op, met) :: past) (phase.failed op) := by
  cases allowed with
  | pushes => exact told
  | counts | removes => trivial
  | starts | draws | redraws | dates | answers | opens => cases exposed

abbrev LimitCast := Cast signature World HttpException RateLimitCall LimitPhase

abbrev LimitRole := LimitThread × LimitPhase

/-- When the requests of the key were accepted. -/
def acceptedTimes (key : String) (cast : LimitCast) : List Date := cast.filterMap fun role =>
    if role.1.name.key = key then role.2.acceptedAt else none

/-- The requests of a key have one configuration, know what they have done,
and are not broken. -/
structure Known (service : RateLimitService) (key : String)
    (config : RateLimitConfig) (role : LimitRole) : Prop where
  told : Told role.1.past role.2
  config : role.1.name.key = key → role.1.name.config service = config
  unbroken : role.1.name.key = key → role.2 ≠ .broken

section

variable {key : String} {config : RateLimitConfig} {cast : LimitCast}

theorem Known.acted {thread : LimitThread} {rest : Service Unit}
    (known : Known service key config (thread, phase))
    (allowed : LimitAllows service thread.name phase op) :
    Known service key config (thread.answered op met rest,
      phase.acted service random thread.name op met) := by
  refine ⟨known.told.acted allowed, known.config, fun onKey => ?_⟩
  have unbroken := known.unbroken onKey
  cases allowed <;> grind [LimitPhase.acted]

theorem Known.failed {thread : LimitThread} {rest : Service Unit}
    (known : Known service key config (thread, phase))
    (allowed : LimitAllows service thread.name phase op) (exposed : mayFail op = true)
    (spared : thread.name.key = key → ∃ entry, op = .pushAnalytics entry) :
    Known service key config (thread.answered op met rest,
      phase.failed op) := by
  refine ⟨known.told.failed allowed exposed, known.config, fun onKey => ?_⟩
  obtain ⟨entry, rfl⟩ := spared onKey
  exact known.unbroken onKey

theorem Known.start (call : RateLimitCall) (program : Service Unit)
    (same : call.key = key → call.config service = config) :
    Known service key config (⟨call, [], program⟩, .starting) :=
  ⟨⟨rfl, rfl⟩, same, fun _ => nofun⟩

theorem countP_admitted_le (covers : Date → Bool)
    (known : ∀ role ∈ cast, Known service key config role) :
    (cast.map Prod.fst).countP (admitted key covers) ≤ (acceptedTimes key cast).countP covers := by
  rw [acceptedTimes, List.countP_filterMap, List.countP_map]
  apply List.countP_mono_left
  rintro ⟨thread, phase⟩ member counted
  obtain ⟨onKey, inTime⟩ := Bool.and_eq_true_iff.mp counted
  obtain ⟨onKey, isAdmitted⟩ := Bool.and_eq_true_iff.mp onKey
  have about : thread.name.key = key := of_decide_eq_true onKey
  obtain ⟨told, -, unbroken⟩ := known (thread, phase) member
  simp only [about, if_true]
  cases phase with
  | broken => exact absurd rfl (unbroken about)
  | starting | dated | drawn | withdrawing | judged =>
    rw [told.2] at isAdmitted
    cases isAdmitted
  | answered now success =>
    rw [told.1] at inTime
    rw [told.2] at isAdmitted
    rw [isAdmitted]
    exact inTime

/-- With one request replaced, its time comes in front of those of the
others. -/
theorem acceptedTimes_replaced (key : String) (front back : LimitCast) (role : LimitRole) :
    (acceptedTimes key (front ++ role :: back)).Perm
      ((if role.1.name.key = key then role.2.acceptedAt else none).toList ++
        acceptedTimes key (front ++ back)) := by
  have moved : (front ++ role :: back).Perm (role :: (front ++ back)) := List.perm_middle
  refine (moved.filterMap _).trans (.of_eq ?_)
  rw [List.filterMap_cons]
  cases (if role.1.name.key = key then role.2.acceptedAt else none) <;> rfl

theorem acceptedTimes_congr {front back : LimitCast} (old new : LimitRole)
    (same : (if new.1.name.key = key then new.2.acceptedAt else none) =
      if old.1.name.key = key then old.2.acceptedAt else none) :
    acceptedTimes key (front ++ new :: back) = acceptedTimes key (front ++ old :: back) := by
  simp_all [acceptedTimes, List.filterMap_cons]

theorem act_other {world : World} {thread : LimitThread}
    (allowed : LimitAllows service thread.name phase op) (distinct : thread.name.key ≠ key) :
    (act random op world).2.sets key = world.sets key ∧
      (act random op world).2.now = world.now := by
  cases allowed with
  | starts | draws | redraws | dates | pushes | answers | opens => exact ⟨rfl, rfl⟩
  | @counts now draw =>
    have effect : (act random (.exec (windowCommands thread.name.key
        (thread.name.config service) now draw)) world).2 = _ :=
      (actAll_window ..).2
    rw [effect]
    exact ⟨Store.put_of_ne distinct.symm, rfl⟩
  | removes => exact ⟨act_zrem_other distinct.symm, act_zrem_now⟩

end

end

/-! ### Histories -/

/-- A check, with the random numbers it will draw, or a status. -/
inductive Inquiry where
  | check (call : RateLimitCall) (draws : ℕ → String)
  | status (identifier : String) (endpoint : Option String)

/-- Some time passes, and then something is asked, or nothing; in the course
of it these effects throw. -/
structure Moment where
  elapsed : ℕ
  inquiry : Option Inquiry
  faults : List Fault

abbrev Answer := RateLimitCall × Except HttpException RateLimitResult

/-- The world in which the next inquiry begins. -/
def World.later (world : World) (elapsed : ℕ) : World :=
  { world with now := world.now + elapsed, drawn := 0 }

section

variable (service : RateLimitService)

/-- What a moment answers, if it is a check, and the world it leaves. -/
def World.asked (world : World) (moment : Moment) : Option Answer × World :=
  let world := world.later moment.elapsed
  match moment.inquiry with
  | none => (none, world)
  | some (.check call draws) =>
    let done := (rateLimits draws).exec
      (service.checkRateLimit call.identifier call.userTier call.endpoint
        call.customConfig) moment.faults world
    (some (call, done.1), done.2)
  | some (.status identifier endpoint) =>
    (none, ((rateLimits fun _ => "").exec
      (getRateLimitStatus identifier endpoint) moment.faults world).2)

/-- The answers to the checks of a history. -/
def answers : World → List Moment → List Answer
  | _, [] => []
  | world, moment :: moments =>
    (world.asked service moment).1.toList ++ answers (world.asked service moment).2 moments

end

/-- The history without some of the inquiries: the time passes. -/
def Moment.without (drops : Inquiry → Bool) (moment : Moment) : Moment :=
  { moment with inquiry := moment.inquiry.filter fun inquiry => !drops inquiry }

/-! ### What a command sees and changes -/

def Command.key : Command → String
  | .zremrangebyscore key _ _ | .zcard key | .zadd key _ _ | .expire key _
  | .zrem key _ => key

/-- The commands of the effect are on the key. -/
def OnKey (key : String) : Op → Prop
  | .exec commands => ∀ command ∈ commands, command.key = key
  | .command command => command.key = key
  | _ => True

/-- The worlds do not differ for an inquiry on the key. -/
structure SameOn (key : String) (world other : World) : Prop where
  sets : world.sets key = other.sets key
  now : world.now = other.now
  drawn : world.drawn = other.drawn

section

variable {key : String} {world other : World}

theorem SameOn.entry (same : SameOn key world other) :
    world.entry key = other.entry key := by
  rw [World.entry, World.entry, Store.entry, Store.entry, same.sets, same.now]

theorem SameOn.zset (same : SameOn key world other) :
    world.zset key = other.zset key := by rw [World.zset_eq, World.zset_eq, same.entry]

theorem World.sets_write (world : World) (key : String)
    (entry : Option (Entry (SortedSet String Date) Date)) :
    (world.write key entry).sets key = entry := Store.put_self

theorem SameOn.write (same : SameOn key world other)
    (entry : Option (Entry (SortedSet String Date) Date)) :
    SameOn key (world.write key entry) (other.write key entry) :=
  ⟨by rw [World.sets_write, World.sets_write], same.now, same.drawn⟩

theorem command_sameOn (command : Command) (same : SameOn command.key world other) :
    (command.act world).1 = (command.act other).1 ∧
      SameOn command.key (command.act world).2 (command.act other).2 := by
  cases command with
  | zcard key => exact ⟨congrArg SortedSet.card same.zset, same⟩
  | zremrangebyscore key low high =>
    have entry := SameOn.entry same
    simp only [Command.key] at entry same ⊢
    simp only [Command.act, entry]
    split
    · exact ⟨rfl, same⟩
    · exact ⟨rfl, same.write _⟩
  | zadd key score member =>
    have entry := SameOn.entry same
    simp only [Command.key] at entry same ⊢
    simp only [Command.act, entry]
    split
    · exact ⟨rfl, same.write _⟩
    · exact ⟨rfl, same.write _⟩
  | expire key seconds =>
    have entry := SameOn.entry same
    simp only [Command.key] at entry same ⊢
    simp only [Command.act, entry, same.now]
    split
    · exact ⟨rfl, same⟩
    · exact ⟨rfl, same.write _⟩
  | zrem key member =>
    have entry := SameOn.entry same
    simp only [Command.key] at entry same ⊢
    simp only [Command.act, entry]
    split
    · exact ⟨rfl, same⟩
    · exact ⟨rfl, same.write _⟩

/-- The world differs at most under one key, and in the numbers drawn. -/
structure Frame (key : String) (world after : World) : Prop where
  sets : ∀ other, other ≠ key → after.sets other = world.sets other
  now : after.now = world.now

theorem Frame.refl (key : String) (world : World) : Frame key world world :=
  ⟨fun _ _ => rfl, rfl⟩

theorem Frame.trans {middle after : World} (front : Frame key world middle)
    (back : Frame key middle after) : Frame key world after :=
  ⟨fun other distinct => (back.sets other distinct).trans
    (front.sets other distinct), back.now.trans front.now⟩

theorem frame_write (world : World) (key : String)
    (entry : Option (Entry (SortedSet String Date) Date)) :
    Frame key world (world.write key entry) :=
  ⟨fun _ distinct => Store.put_of_ne distinct, rfl⟩

theorem command_frame (command : Command) (world : World) :
    Frame command.key world (command.act world).2 := by
  cases command with
  | zcard key => exact .refl key world
  | zremrangebyscore key low high =>
    simp only [Command.act, Command.key]
    split
    · exact .refl key world
    · exact frame_write ..
  | zadd key score member => grind [Command.act, Command.key, frame_write]
  | expire key seconds =>
    simp only [Command.act, Command.key]
    split
    · exact .refl key world
    · exact frame_write ..
  | zrem key member =>
    simp only [Command.act, Command.key]
    split
    · exact .refl key world
    · exact frame_write ..

theorem actAll_sameOn {commands : List Command} (onKey : ∀ command ∈ commands, command.key = key)
    (same : SameOn key world other) :
    (Command.actAll commands world).1 = (Command.actAll commands other).1 ∧
      SameOn key (Command.actAll commands world).2 (Command.actAll commands other).2 := by
  induction commands generalizing world other with
  | nil => exact ⟨rfl, same⟩
  | cons command rest ih =>
    obtain ⟨rfl, others⟩ := List.forall_mem_cons.mp onKey
    obtain ⟨reply, later⟩ := command_sameOn command same
    obtain ⟨replies, last⟩ := ih others later
    exact ⟨congrArg₂ List.cons reply replies, last⟩

theorem actAll_frame {commands : List Command}
    (onKey : ∀ command ∈ commands, command.key = key) (world : World) :
    Frame key world (Command.actAll commands world).2 := by
  induction commands generalizing world with
  | nil => exact .refl key world
  | cons command rest ih =>
    obtain ⟨rfl, others⟩ := List.forall_mem_cons.mp onKey
    exact (command_frame command world).trans (ih others _)

end

/-! ### What an inquiry sees and changes -/

section

variable (random : ℕ → String) {key : String} {world other : World}

theorem act_sameOn (op : Op) (world other : World) (onKey : OnKey key op)
    (same : SameOn key world other) :
    (act random op world).1 = (act random op other).1 ∧
      SameOn key (act random op world).2 (act random op other).2 := by
  cases op with
  | dateNow => exact ⟨same.now, same⟩
  | random => exact ⟨congrArg random same.drawn, same.sets, same.now, congrArg (· + 1) same.drawn⟩
  | exec commands => exact actAll_sameOn onKey same
  | command command =>
    cases (onKey : command.key = key)
    exact command_sameOn command same
  | pushAnalytics entry => exact ⟨rfl, same⟩
  | answer result => exact ⟨rfl, same⟩

theorem act_frame (op : Op) (world : World) (onKey : OnKey key op) :
    Frame key world (act random op world).2 := by
  cases op with
  | exec commands => exact actAll_frame onKey world
  | command command =>
    cases (onKey : command.key = key)
    exact command_frame command world
  | _ => exact ⟨fun _ _ => rfl, rfl⟩

variable {α : Type} {program : Service α}

theorem exec_sameOn (uses : program.Uses (OnKey key)) (faults : List Fault)
    (same : SameOn key world other) :
    ((rateLimits random).exec program faults world).1 =
        ((rateLimits random).exec program faults other).1 ∧
      SameOn key ((rateLimits random).exec program faults world).2
        ((rateLimits random).exec program faults other).2 :=
  (rateLimits random).exec_related (act_sameOn random) uses faults same

theorem exec_frame (uses : program.Uses (OnKey key)) (faults : List Fault) (world : World) :
    Frame key world ((rateLimits random).exec program faults world).2 :=
  (Handler.wpTraced_sound (Handler.wpTraced_of_uses (fun op middle onKey reached =>
      Frame.trans reached (act_frame random op middle onKey))
    uses (Frame.refl key world)) faults).2

theorem conclude_uses (config : RateLimitConfig) (now : Date) (currentCount : ℕ) :
    (conclude key config now currentCount).Uses (OnKey key) := by
  unfold conclude
  refine Program.Uses.bind ?_ fun _ => ?_
  · refine Program.Uses.branch _ trivial ?_
    refine (Program.uses_perform trivial).bind fun draw =>
      (Program.uses_perform ?_).bind fun _ => trivial
    exact (rfl : key = key)
  · exact Program.Uses.bind ((Program.uses_perform trivial).bind fun _ => trivial) fun _ => trivial

theorem logAnalytics_uses (identifier endpoint : String) (userTier : UserTier)
    (result : RateLimitResult) :
    (logAnalytics identifier endpoint userTier result).Uses (OnKey key) := by
  refine (Program.uses_perform trivial).bind fun timestamp => ?_
  exact (Program.Uses.attempt (Program.uses_perform trivial)).bind fun _ => trivial

variable (service : RateLimitService) (call : RateLimitCall)

theorem checkRateLimit_uses :
    (service.checkRateLimit call.identifier call.userTier call.endpoint
      call.customConfig).Uses (OnKey call.key) := by
  refine Program.Uses.bind (Program.Uses.attempt ?_) fun outcome => ?_
  · refine Program.Uses.bind ?_ fun result =>
      (logAnalytics_uses _ _ _ _).bind fun _ => trivial
    refine (Program.uses_perform trivial).bind fun now =>
      (Program.uses_perform trivial).bind fun draw => ?_
    refine (Program.uses_perform ?_).bind fun results => conclude_uses _ _ _
    simp [OnKey, windowCommands, Command.key, RateLimitCall.key]
  · cases outcome <;> trivial

theorem getRateLimitStatus_uses (identifier : String) (endpoint : Option String) :
    (getRateLimitStatus identifier endpoint).Uses (OnKey (generateKey identifier endpoint)) := by
  refine (Program.uses_perform trivial).bind fun _ =>
    (Program.uses_perform ?_).bind fun _ =>
      (Program.uses_perform ?_).bind fun _ => trivial
  · exact (rfl : generateKey identifier endpoint = _)
  · exact (rfl : generateKey identifier endpoint = _)

end

/-! ### The pipeline of a check -/

section

variable (service : RateLimitService) (call : RateLimitCall)

/-- What follows the pipeline of a check that counts so many requests. -/
def concluded (now : Date) (currentCount : ℕ) : Service RateLimitResult := do
  let outcome ← (do
    let result ← conclude call.key (call.config service) now currentCount
    logAnalytics call.identifier (call.endpoint.getD "") call.userTier result
    pure result : Service RateLimitResult).attempt
  match outcome with
  | .ok result => pure result
  | .error _ => pure failOpen

/-- The third effect of a check, its pipeline, does not throw. -/
def served (faults : List Fault) : Bool := (faults.tail.tail.headD none).isNone

theorem concluded_uses (now : Date) (currentCount : ℕ) :
    (concluded service call now currentCount).Uses (OnKey call.key) := by
  refine Program.Uses.bind (Program.Uses.attempt ?_) fun outcome => ?_
  · exact (conclude_uses _ _ _).bind fun result =>
      (logAnalytics_uses _ _ _ _).bind fun _ => trivial
  · cases outcome <;> trivial

variable (random : ℕ → String) {faults : List Fault}

/-- A check whose pipeline is served counts what is in its window, and leaves
that with a member of its own. -/
theorem exec_checkRateLimit (done : served faults = true) (world : World) :
    (rateLimits random).exec (service.checkRateLimit call.identifier
        call.userTier call.endpoint call.customConfig) faults world =
      (rateLimits random).exec (concluded service call world.now
          ((purged world call.key (call.config service) world.now).card + 1)) faults.tail.tail.tail
        (world.withDraw.write call.key (some (renewed world call.key
          (call.config service) world.now (random world.drawn)))) := by
  obtain ⟨replies, effect⟩ := actAll_window world.withDraw call.key
    (call.config service) world.now (random world.drawn)
  refine (exec_call_acts (.inr rfl)).trans ?_
  refine (exec_call_acts (.inr rfl)).trans ?_
  refine (exec_call_acts (.inl (Option.isNone_iff_eq_none.mp done))).trans ?_
  let commands := windowCommands call.key (call.config service) world.now (random world.drawn)
  show (rateLimits random).exec (concluded service call world.now
    ((Command.actAll commands world.withDraw).1.getD 1 0 + 1)) _
      (Command.actAll commands world.withDraw).2 = _
  rw [replies, effect]
  rfl

theorem exec_checkRateLimit_unserved (failed : served faults = false) (world : World) :
    (rateLimits random).exec (service.checkRateLimit call.identifier
        call.userTier call.endpoint call.customConfig) faults world =
      (.ok failOpen, world.withDraw) := by
  obtain ⟨error, throws⟩ := Option.ne_none_iff_exists'.mp
    (Option.isNone_eq_false_iff.mp failed |> Option.isSome_iff_ne_none.mp)
  refine (exec_call_acts (.inr rfl)).trans ?_
  refine (exec_call_acts (.inr rfl)).trans ?_
  exact (exec_call_throws throws rfl).trans rfl

/-- What a check answers that has counted so many requests; the second effect
that follows is the removal of a rejected one. -/
theorem concluded_totalHits (now : Date) (currentCount : ℕ)
    (withdraws : faults.tail.headD none = none) (world : World) :
    ∃ (result : RateLimitResult) (after : World),
      (rateLimits random).exec (concluded service call now currentCount) faults
        world = (.ok result, after) ∧ result.totalHits = currentCount := by
  unfold concluded conclude
  by_cases allowed : currentCount ≤ (call.config service).maxAllowed
  · simp only [allowed, decide_true, if_true]
    cases push : faults.tail.tail.headD none with
    | none =>
      exact ⟨_, _, (exec_call_acts (.inr rfl)).trans ((exec_call_acts (.inr rfl)).trans
        ((exec_call_acts (.inl push)).trans rfl)), rfl⟩
    | some error =>
      exact ⟨_, _, (exec_call_acts (.inr rfl)).trans ((exec_call_acts (.inr rfl)).trans
        ((exec_call_throws push rfl).trans rfl)), rfl⟩
  · simp only [allowed, decide_false]
    cases push : faults.tail.tail.tail.tail.headD none with
    | none =>
      exact ⟨_, _, (exec_call_acts (.inr rfl)).trans ((exec_call_acts (.inl withdraws)).trans
        ((exec_call_acts (.inr rfl)).trans ((exec_call_acts (.inr rfl)).trans
        ((exec_call_acts (.inl push)).trans rfl)))), rfl⟩
    | some error =>
      exact ⟨_, _, (exec_call_acts (.inr rfl)).trans ((exec_call_acts (.inl withdraws)).trans
        ((exec_call_acts (.inr rfl)).trans ((exec_call_acts (.inr rfl)).trans
        ((exec_call_throws push rfl).trans rfl)))), rfl⟩

theorem concluded_accepted {now : Date} {currentCount : ℕ}
    (allowed : currentCount ≤ (call.config service).maxAllowed) (world : World) :
    ((rateLimits random).exec (concluded service call now currentCount) [] world).2 = world := by
  unfold concluded conclude
  simp only [allowed, decide_true, if_true]
  rfl

end

end MarketX.RateLimiting
