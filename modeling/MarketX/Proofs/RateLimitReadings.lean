/-
Module: MarketX.Proofs.RateLimitReadings
Purpose: For which histories the checks are answered as if no status had been
  asked for.
Trusted boundary: human-reviewed definition of ReadOnly, nextCheck and Unread
Main exports: ReadOnly, nextCheck, UnreadBy, readOnly_iff_unread
-/
import MarketX.RateLimiting.Requests

namespace MarketX.RateLimiting

open Effects Handler Caching RateLimitService

/-! ### The property -/

def isStatus : Inquiry → Bool
  | .status .. => true
  | .check .. => false

/-- The checks of a history are answered as if no status had been asked
for. -/
def ReadOnly (service : RateLimitService) (world : World) (history : List Moment) : Prop :=
  answers service world history = answers service world (history.map (Moment.without isStatus))

section

variable (service : RateLimitService)

/-- When the next check on a key will be whose pipeline is served, and with
which configuration. -/
def nextCheck (key : String) :
    Date → List Moment → Option (Date × RateLimitConfig)
  | _, [] => none
  | now, moment :: moments =>
    match moment.inquiry with
    | some (.check call _) =>
      if call.key = key ∧ served moment.faults = true then
        some (now + moment.elapsed, call.config service)
      else nextCheck key (now + moment.elapsed) moments
    | _ => nextCheck key (now + moment.elapsed) moments

/-- The same sets at a time. -/
def World.at (world : World) (time : Date) : World :=
  { world with now := time }

/-- The second effect of a status, its removal, does not throw. -/
def removes (faults : List Fault) : Bool := (faults.tail.headD none).isNone

/-- What a status of the key removes is outdated for the next check: in what
will be left under the key by then, no member of more than a minute ago is in
the window of the check. -/
def UnreadBy (world : World) (key : String) (moments : List Moment) : Prop :=
  ∀ next ∈ nextCheck service key world.now moments, ∀ entry ∈ ((world.at next.1).zset key).entries,
      0 ≤ entry.2 → entry.2 ≤ world.now - statusWindowMs → entry.2 ≤ next.1 - next.2.windowMs

def UnreadAt (world : World) (moment : Moment) (moments : List Moment) :
    Prop := ∀ identifier endpoint, moment.inquiry = some (.status identifier endpoint) →
    removes moment.faults = true → UnreadBy service (world.later moment.elapsed)
        (generateKey identifier endpoint) moments

/-- Whatever a status of the history removes is outdated. -/
def Unread : World → List Moment → Prop
  | _, [] => True
  | world, moment :: moments =>
    UnreadAt service world moment moments ∧ Unread (world.asked service moment).2 moments

end

/-- The removal of a rejected request does not throw. -/
def takenBack (faults : List Fault) : Bool :=
  (faults.tail.tail.tail.tail.headD none).isNone

/-! ### What the next check will count -/

section

variable (service : RateLimitService)

/-- What is in the window of the next check, if nothing happens before. -/
def tallied (world : World) (key : String) (next : Date × RateLimitConfig) :
    SortedSet String Date := purged (world.at next.1) key next.2 next.1

def foreseen (world : World) (moments : List Moment) (key : String) :
    Option (SortedSet String Date) :=
  (nextCheck service key world.now moments).map (tallied world key)

variable {service} {world other : World} {key : String} {moments : List Moment}

theorem tallied_congr (sets : other.sets key = world.sets key) (next : Date × RateLimitConfig) :
    tallied other key next = tallied world key next := by
  unfold tallied purged
  show SortedSet.removeRange ((((other.sets key).filter _).map Entry.value).getD _) _ _ = _
  rw [sets]
  rfl

theorem foreseen_congr (sets : other.sets key = world.sets key) (now : other.now = world.now) :
    foreseen service other moments key = foreseen service world moments key := by
  unfold foreseen
  rw [now]
  exact congrArg (Option.map · _) (funext (tallied_congr sets))

theorem nextCheck_later {moment : Moment}
    (spared : ∀ call draws, moment.inquiry = some (.check call draws) →
      ¬ (call.key = key ∧ served moment.faults = true)) (now : Date) :
    nextCheck service key now (moment :: moments) =
      nextCheck service key (now + moment.elapsed) moments := by
  obtain ⟨elapsed, inquiry, faults⟩ := moment
  cases inquiry with
  | none => rfl
  | some inquiry =>
    cases inquiry with
    | status identifier endpoint => rfl
    | check call draws => exact if_neg (spared call draws rfl)

theorem nextCheck_here {elapsed : ℕ} {call : RateLimitCall}
    {draws : ℕ → String} {faults : List Fault} (done : served faults = true) (now : Date) :
    nextCheck service call.key now (⟨elapsed, some (.check call draws), faults⟩ :: moments) =
      some (now + elapsed, call.config service) :=
  if_pos ⟨rfl, done⟩

end

/-! ### What a status does -/

section

variable {world : World} {key : String}

theorem zset_at_write (entry : Option (Entry (SortedSet String Date) Date)) (time : Date) :
    ((world.write key entry).at time).zset key =
      ((entry.filter fun entry => entry.Live time).map Entry.value).getD
        .empty := by
  show ((((world.write key entry).sets key).filter _).map Entry.value).getD _ = _
  rw [World.sets_write]
  rfl

theorem zset_at_leave (entry : Entry (SortedSet String Date) Date) (time : Date) :
    ((world.leave key entry).at time).zset key =
      if entry.Live time then entry.value else .empty := by
  rw [World.leave, zset_at_write]
  by_cases empty : entry.value.card = 0
  · rw [if_pos empty, SortedSet.eq_empty_of_card empty]
    exact (ite_self _).symm
  · grind

theorem zset_at_zremrangebyscore {time : Date} (ahead : world.now ≤ time) (low high : Date) :
    (World.at ((Command.zremrangebyscore key low high).act world).2 time).zset key =
      ((world.at time).zset key).removeRange low high := by
  have later : (world.at time).entry key = (world.entry key).filter fun entry => entry.Live time :=
    Store.entry_of_le ahead
  rw [show (world.at time).zset key = _ from World.zset_eq, later]
  cases found : world.entry key with
  | none =>
    have same : ((Command.zremrangebyscore key low high).act world).2 =
        world := by simp only [Command.act, found]
    rw [same, World.zset_eq, later, found]
    rfl
  | some entry =>
    simp only [Command.act, found]
    rw [zset_at_leave, Option.filter_some]
    simp only [decide_eq_true_eq]
    show (if entry.Live time then _ else _) = _
    split <;> rfl

theorem exec_getRateLimitStatus {identifier : String}
    {endpoint : Option String} (random : ℕ → String) (faults : List Fault) (world : World) :
    ((rateLimits random).exec (getRateLimitStatus identifier endpoint) faults world).2 =
      if removes faults = true then
        ((Command.zremrangebyscore (generateKey identifier endpoint) 0
          (world.now - statusWindowMs)).act world).2
      else world := by
  cases first : faults.tail.headD none with
  | some error =>
    have throws : ¬ removes faults = true := by
      rw [removes, first]
      exact Bool.false_ne_true
    rw [if_neg throws]
    refine (congrArg Prod.snd (exec_call_acts (.inr rfl))).trans ?_
    exact (congrArg Prod.snd (exec_call_throws first rfl)).trans rfl
  | none =>
    have acts : removes faults = true := by
      rw [removes, first]
      rfl
    rw [if_pos acts]
    refine (congrArg Prod.snd (exec_call_acts (.inr rfl))).trans ?_
    refine (congrArg Prod.snd (exec_call_acts (.inl first))).trans ?_
    cases second : faults.tail.tail.headD none with
    | none => exact (congrArg Prod.snd (exec_call_acts (.inl second))).trans rfl
    | some error => exact (congrArg Prod.snd (exec_call_throws second rfl)).trans rfl

end

/-! ### One moment in two worlds -/

section

variable (service : RateLimitService) {world other : World} {key : String} {moments : List Moment}

/-- For every key the next check will count the same in both worlds. -/
structure Alike (world other : World) (moments : List Moment) : Prop where
  now : world.now = other.now
  foreseen : ∀ key, foreseen service world moments key = foreseen service other moments key

/-- For one key the next check will count fewer in the one world. -/
structure Short (key : String) (world other : World) (moments : List Moment)
    (next : Date × RateLimitConfig) : Prop where
  now : world.now = other.now
  awaited : nextCheck service key world.now moments = some next
  fewer : (tallied world key next).card < (tallied other key next).card

variable {service}

variable {next : Date × RateLimitConfig} {moment : Moment} {elapsed : ℕ} {call : RateLimitCall}
  {draws : ℕ → String} {faults : List Fault} {identifier : String} {endpoint : Option String}

theorem nextCheck_ahead {now : Date}
    (found : nextCheck service key now moments = some next) : now ≤ next.1 := by
  induction moments generalizing now <;> grind [nextCheck]

theorem tallied_status (ahead : world.now ≤ next.1) :
    tallied ((Command.zremrangebyscore key 0 (world.now - statusWindowMs)).act world).2 key next =
      (((world.at next.1).zset key).removeRange 0 (world.now - statusWindowMs)).removeRange 0
          (next.1 - next.2.windowMs) :=
  congrArg (SortedSet.removeRange · 0 _) (zset_at_zremrangebyscore ahead 0 _)

/-- A status that removes what is outdated does not change what the next check
counts. -/
theorem foreseen_status (unread : UnreadBy service world key moments) :
    foreseen service ((Command.zremrangebyscore key 0
        (world.now - statusWindowMs)).act world).2 moments key =
      foreseen service world moments key := by
  have now : ((Command.zremrangebyscore key 0
      (world.now - statusWindowMs)).act world).2.now = world.now :=
    (command_frame _ world).now
  unfold foreseen
  rw [now]
  cases found : nextCheck service key world.now moments with
  | none => rfl
  | some next =>
    refine congrArg some ((tallied_status (nextCheck_ahead found)).trans ?_)
    exact SortedSet.removeRange_removeRange (unread next found)

theorem tallied_status_lt (read : ¬ UnreadBy service world key moments) :
    ∃ next, nextCheck service key world.now moments = some next ∧
      (tallied ((Command.zremrangebyscore key 0
        (world.now - statusWindowMs)).act world).2 key next).card <
        (tallied world key next).card := by
  simp only [UnreadBy, not_forall, not_le] at read
  obtain ⟨next, found, entry, there, above, below, counts⟩ := read
  refine ⟨next, found, ?_⟩
  rw [tallied_status (nextCheck_ahead found)]
  exact SortedSet.card_removeRange_removeRange there above below counts

theorem foreseen_after {after : World}
    (spared : ∀ call draws, moment.inquiry = some (.check call draws) →
      ¬ (call.key = key ∧ served moment.faults = true)) (sets : after.sets key = world.sets key)
    (now : after.now = world.now + moment.elapsed) :
    foreseen service after moments key = foreseen service world (moment :: moments) key := by
  unfold foreseen
  rw [nextCheck_later spared, now]
  exact congrArg (Option.map · _) (funext (tallied_congr sets))

theorem foreseen_check (done : served faults = true) :
    foreseen service world (⟨elapsed, some (.check call draws), faults⟩ :: moments) call.key =
      some (purged (world.later elapsed) call.key (call.config service)
        (world.later elapsed).now) := by
  unfold foreseen
  rw [nextCheck_here done]
  rfl

theorem exec_check_alike (random : ℕ → String) (done : served faults = true)
    (now : world.now = other.now) (drawn : world.drawn = other.drawn)
    (same : purged world call.key (call.config service) world.now =
      purged other call.key (call.config service) other.now) :
    ((rateLimits random).exec (service.checkRateLimit call.identifier
        call.userTier call.endpoint call.customConfig) faults world).1 =
      ((rateLimits random).exec (service.checkRateLimit call.identifier
        call.userTier call.endpoint call.customConfig) faults other).1 ∧ SameOn call.key
      ((rateLimits random).exec (service.checkRateLimit call.identifier
        call.userTier call.endpoint call.customConfig) faults world).2
      ((rateLimits random).exec (service.checkRateLimit call.identifier
        call.userTier call.endpoint call.customConfig) faults other).2 := by
  rw [exec_checkRateLimit service call random done,
    exec_checkRateLimit service call random done, same, now]
  refine exec_sameOn random (concluded_uses service call _ _) _ ⟨?_, now, ?_⟩
  · simp_all [World.sets_write, renewed]
  · exact congrArg (· + 1) drawn

/-- A status that removes nothing but what is outdated leaves what the next
checks count. -/
theorem foreseen_asked_status (unread : UnreadAt service world
      ⟨elapsed, some (.status identifier endpoint), faults⟩ moments) (key : String) :
    foreseen service (world.asked service
        ⟨elapsed, some (.status identifier endpoint), faults⟩).2 moments key =
      foreseen service (world.later elapsed) moments key := by
  have frame := exec_frame (fun _ => "")
    (getRateLimitStatus_uses identifier endpoint) faults (world.later elapsed)
  by_cases own : key = generateKey identifier endpoint
  · rw [own]
    show foreseen service ((rateLimits _).exec _ _ _).2 _ _ = _
    rw [exec_getRateLimitStatus]
    split
    next removed => exact foreseen_status (unread identifier endpoint rfl removed)
    next => rfl
  · exact foreseen_congr (frame.sets key own) frame.now

theorem asked_unserved (failed : served faults = false) (world : World) :
    world.asked service ⟨elapsed, some (.check call draws), faults⟩ =
      (some (call, .ok failOpen), (world.later elapsed).withDraw) :=
  congrArg (fun done => (some (call, Prod.fst done), Prod.snd done))
    (exec_checkRateLimit_unserved service call draws failed (world.later elapsed))

theorem sets_asked_check (world : World) (spared : ¬ (call.key = key ∧ served faults = true)) :
    (world.asked service ⟨elapsed, some (.check call draws), faults⟩).2.sets key =
        world.sets key := by
  by_cases own : call.key = key
  · have failed : served faults = false := Bool.eq_false_iff.mpr fun done => spared ⟨own, done⟩
    rw [asked_unserved failed]
    rfl
  · exact (exec_frame draws (checkRateLimit_uses service call) faults
      (world.later elapsed)).sets key (Ne.symm own)

theorem now_asked_check (world : World) :
    (world.asked service ⟨elapsed, some (.check call draws), faults⟩).2.now = world.now + elapsed :=
  (exec_frame draws (checkRateLimit_uses service call) faults (world.later elapsed)).now

theorem spared_check (spared : ¬ (call.key = key ∧ served faults = true))
    (other : RateLimitCall) (draws' : ℕ → String)
    (same : (⟨elapsed, some (.check call draws), faults⟩ : Moment).inquiry =
      some (.check other draws')) :
    ¬ (other.key = key ∧ served faults = true) := by
  cases same
  exact spared

theorem foreseen_asked_check (world : World) (spared : ¬ (call.key = key ∧ served faults = true)) :
    foreseen service (world.asked service
        ⟨elapsed, some (.check call draws), faults⟩).2 moments key = foreseen service world
        (⟨elapsed, some (.check call draws), faults⟩ :: moments) key :=
  foreseen_after (spared_check spared) (sets_asked_check world spared) (now_asked_check world)

theorem asked_check_alike (alike : Alike service world other
      (⟨elapsed, some (.check call draws), faults⟩ :: moments)) :
    (world.asked service ⟨elapsed, some (.check call draws), faults⟩).1 =
        (other.asked service ⟨elapsed, some (.check call draws), faults⟩).1 ∧ Alike service
        (world.asked service ⟨elapsed, some (.check call draws), faults⟩).2
        (other.asked service ⟨elapsed, some (.check call draws), faults⟩).2
        moments := by
  have now : (world.later elapsed).now = (other.later elapsed).now :=
    congrArg (· + (elapsed : ℤ)) alike.now
  have others : ∀ key, ¬ (call.key = key ∧ served faults = true) →
      foreseen service (world.asked service
          ⟨elapsed, some (.check call draws), faults⟩).2 moments key =
        foreseen service (other.asked service
          ⟨elapsed, some (.check call draws), faults⟩).2 moments key :=
    fun key spared => (foreseen_asked_check world spared).trans
      ((alike.foreseen key).trans (foreseen_asked_check other spared).symm)
  cases done : served faults with
  | false =>
    have spared : ∀ key, ¬ (call.key = key ∧ served faults = true) :=
      fun key both => Bool.false_ne_true (done.symm.trans both.2)
    refine ⟨?_, ?_, fun key => others key (spared key)⟩
    · rw [asked_unserved done, asked_unserved done]
    · rw [asked_unserved done, asked_unserved done]
      exact now
  | true =>
    have counts := alike.foreseen call.key
    rw [foreseen_check done, foreseen_check done] at counts
    obtain ⟨answer, same⟩ := exec_check_alike draws done now rfl (Option.some.inj counts)
    refine ⟨congrArg (fun answer => some (call, answer)) answer, same.now, fun key => ?_⟩
    by_cases own : call.key = key
    · subst own
      exact foreseen_congr same.sets same.now
    · exact others key fun both => own both.1

theorem asked_alike (alike : Alike service world other (moment :: moments))
    (unread : UnreadAt service world moment moments) :
    (world.asked service moment).1 = (other.asked service (moment.without isStatus)).1 ∧
      Alike service (world.asked service moment).2
        (other.asked service (moment.without isStatus)).2 moments := by
  obtain ⟨elapsed, inquiry, faults⟩ := moment
  have now : (world.later elapsed).now = (other.later elapsed).now :=
    congrArg (· + (elapsed : ℤ)) alike.now
  cases inquiry with
  | none => exact ⟨rfl, now, alike.foreseen⟩
  | some inquiry =>
    cases inquiry with
    | status identifier endpoint =>
      have frame := exec_frame (fun _ => "") (getRateLimitStatus_uses identifier endpoint) faults
        (world.later elapsed)
      exact ⟨rfl, frame.now.trans now, fun key =>
        (foreseen_asked_status unread key).trans (alike.foreseen key)⟩
    | check call draws => exact asked_check_alike alike

theorem card_tallied_asked_status (ahead : world.now + elapsed ≤ next.1) :
    (tallied (world.asked service ⟨elapsed, some (.status identifier endpoint), faults⟩).2 key
          next).card ≤ (tallied world key next).card := by
  by_cases own : key = generateKey identifier endpoint
  · rw [own]
    show (tallied ((rateLimits _).exec _ _ _).2 _ _).card ≤ _
    rw [exec_getRateLimitStatus]
    split
    next =>
      rw [tallied_status (show (world.later elapsed).now ≤ next.1 from ahead),
        SortedSet.removeRange_comm]
      exact SortedSet.card_removeRange_le
    next => exact Nat.le_refl _
  · have frame := exec_frame (fun _ => "")
      (getRateLimitStatus_uses identifier endpoint) faults (world.later elapsed)
    exact Nat.le_of_eq (congrArg SortedSet.card (tallied_congr (frame.sets key own) next))

theorem asked_served (elapsed : ℕ) (call : RateLimitCall)
    (draws : ℕ → String) (done : served faults = true)
    (withdrawn : takenBack faults = true) (world : World) :
    ∃ result : RateLimitResult,
      (world.asked service ⟨elapsed, some (.check call draws), faults⟩).1 =
          some (call, .ok result) ∧ result.totalHits = (purged (world.later elapsed) call.key
          (call.config service) (world.later elapsed).now).card + 1 := by
  obtain ⟨result, after, concludes, hits⟩ := concluded_totalHits service call
    draws (world.later elapsed).now _ (Option.isNone_iff_eq_none.mp withdrawn) _
  exact ⟨result, congrArg (fun done => some (call, Prod.fst done))
    ((exec_checkRateLimit service call draws done (world.later elapsed)).trans concludes), hits⟩

theorem asked_check_ne (done : served faults = true) (withdrawn : takenBack faults = true)
    (fewer : (purged (world.later elapsed) call.key (call.config service)
        (world.later elapsed).now).card <
      (purged (other.later elapsed) call.key (call.config service)
        (other.later elapsed).now).card) :
    (world.asked service ⟨elapsed, some (.check call draws), faults⟩).1 ≠
      (other.asked service ⟨elapsed, some (.check call draws), faults⟩).1 := by
  obtain ⟨result, answered, hits⟩ := asked_served elapsed call draws done withdrawn world
  obtain ⟨result', answered', hits'⟩ := asked_served elapsed call draws done withdrawn other
  intro same
  rw [answered, answered'] at same
  simp_all

/-- A moment, and the moment without its status, where one world is short for
the next check: either it is this one, and the answers differ, or the world
remains short. -/
theorem asked_short (short : Short service key world other (moment :: moments) next)
    (withdrawn : takenBack moment.faults = true) :
    (world.asked service moment).1 ≠ (other.asked service (moment.without isStatus)).1 ∨
      Short service key (world.asked service moment).2
        (other.asked service (moment.without isStatus)).2 moments next := by
  obtain ⟨elapsed, inquiry, faults⟩ := moment
  have now : (world.later elapsed).now = (other.later elapsed).now :=
    congrArg (· + (elapsed : ℤ)) short.now
  cases inquiry with
  | none => exact .inr ⟨now, short.awaited, short.fewer⟩
  | some inquiry =>
    cases inquiry with
    | status identifier endpoint =>
      have awaited : nextCheck service key (world.now + elapsed) moments =
        some next := short.awaited
      have frame := exec_frame (fun _ => "") (getRateLimitStatus_uses identifier endpoint) faults
        (world.later elapsed)
      refine .inr ⟨frame.now.trans now, ?_, ?_⟩
      · exact (congrArg (nextCheck service key · moments) frame.now).trans awaited
      · exact (card_tallied_asked_status (nextCheck_ahead awaited)).trans_lt short.fewer
    | check call draws =>
      have awaited := short.awaited
      have fewer := short.fewer
      by_cases here : call.key = key ∧ served faults = true
      · obtain ⟨rfl, done⟩ := here
        rw [nextCheck_here done] at awaited
        obtain rfl := Option.some.inj awaited
        have right : tallied other call.key (world.now + elapsed, call.config service) =
          purged (other.later elapsed) call.key (call.config service)
            (other.later elapsed).now := by
          rw [short.now]
          rfl
        rw [right] at fewer
        exact .inl (asked_check_ne done withdrawn fewer)
      · have later : nextCheck service key (world.now + elapsed) moments =
            some next := by simp_all [nextCheck_later]
        refine .inr ⟨?_, ?_, ?_⟩
        · exact (now_asked_check world).trans (now.trans (now_asked_check other).symm)
        · rw [now_asked_check]
          exact later
        · rw [tallied_congr (sets_asked_check world here)]
          exact fewer.trans_eq (congrArg SortedSet.card
            (tallied_congr (sets_asked_check other here) next).symm)

/-- A status that takes something from what the next check counts leaves the
world short. -/
theorem short_status (alike : Alike service world other
      (⟨elapsed, some (.status identifier endpoint), faults⟩ :: moments))
    (removed : removes faults = true) (read : ¬ UnreadBy service (world.later elapsed)
      (generateKey identifier endpoint) moments) :
    ∃ next, Short service (generateKey identifier endpoint) (world.asked service
        ⟨elapsed, some (.status identifier endpoint), faults⟩).2
      (other.later elapsed) moments next := by
  obtain ⟨next, found, fewer⟩ := tallied_status_lt read
  have left : (world.asked service ⟨elapsed, some (.status identifier endpoint), faults⟩).2 =
        ((Command.zremrangebyscore (generateKey identifier endpoint) 0
          ((world.later elapsed).now - statusWindowMs)).act (world.later elapsed)).2 :=
    (exec_getRateLimitStatus _ faults (world.later elapsed)).trans (if_pos removed)
  have now := (command_frame (.zremrangebyscore (generateKey identifier endpoint)
    0 ((world.later elapsed).now - statusWindowMs)) (world.later elapsed)).now
  have later : (world.later elapsed).now = (other.later elapsed).now :=
    congrArg (· + (elapsed : ℤ)) alike.now
  -- without it, the other world is foreseen to count what this one was
  have counts : foreseen service (world.later elapsed) moments _ =
      foreseen service (other.later elapsed) moments _ :=
    alike.foreseen (generateKey identifier endpoint)
  unfold foreseen at counts
  rw [← later, found] at counts
  rw [left]
  refine ⟨next, now.trans later, ?_, ?_⟩
  · rw [now]
    exact found
  · rw [← Option.some.inj counts]
    exact fewer

theorem answers_cons_inj (same : answers service world (moment :: moments) =
      answers service other ((moment :: moments).map (Moment.without isStatus))) :
    (world.asked service moment).1 = (other.asked service (moment.without isStatus)).1 ∧
      answers service (world.asked service moment).2 moments =
        answers service (other.asked service (moment.without isStatus)).2
          (moments.map (Moment.without isStatus)) := by
  obtain ⟨elapsed, inquiry, faults⟩ := moment
  cases inquiry with
  | none => exact ⟨rfl, same⟩
  | some inquiry =>
    cases inquiry with
    | status identifier endpoint => exact ⟨rfl, same⟩
    | check call draws =>
      obtain ⟨answer, rest⟩ := List.cons.inj same
      exact ⟨congrArg some answer, rest⟩

end

/-! ### Histories -/

section

variable {service : RateLimitService} {world other : World} {key : String} {history : List Moment}

theorem Alike.refl : Alike service world world history :=
  ⟨rfl, fun _ => rfl⟩

theorem answers_of_unread (alike : Alike service world other history)
    (unread : Unread service world history) :
    answers service world history =
      answers service other (history.map (Moment.without isStatus)) := by
  induction history generalizing world other with
  | nil => rfl
  | cons moment moments ih =>
    obtain ⟨answer, later⟩ := asked_alike alike unread.1
    rw [List.map_cons, answers, answers, answer, ih later unread.2]

theorem answers_ne_of_short {next : Date × RateLimitConfig}
    (withdrawn : ∀ moment ∈ history, takenBack moment.faults = true)
    (short : Short service key world other history next) :
    answers service world history ≠
      answers service other (history.map (Moment.without isStatus)) := by
  induction history generalizing world other with
  | nil => cases short.awaited
  | cons moment moments ih =>
    intro same
    obtain ⟨answer, rest⟩ := answers_cons_inj same
    grind [asked_short]

theorem unread_of_answers (withdrawn : ∀ moment ∈ history, takenBack moment.faults = true)
    (alike : Alike service world other history) (same : answers service world history =
      answers service other (history.map (Moment.without isStatus))) :
    Unread service world history := by
  induction history generalizing world other with
  | nil => trivial
  | cons moment moments ih =>
    obtain ⟨first, others⟩ := List.forall_mem_cons.mp withdrawn
    obtain ⟨answer, rest⟩ := answers_cons_inj same
    have unread : UnreadAt service world moment moments := by
      intro identifier endpoint asks removed
      by_contra read
      obtain ⟨elapsed, inquiry, faults⟩ := moment
      cases asks
      obtain ⟨next, short⟩ := short_status alike removed read
      exact answers_ne_of_short others short rest
    exact ⟨unread, ih others (asked_alike alike unread).2 rest⟩

variable (service world history) in
/-- The checks of a history are answered as if no status had been asked for,
if whatever the statuses remove is outdated for the next check; and only then,
where no removal of a rejected request throws. -/
theorem readOnly_iff_unread :
    (Unread service world history → ReadOnly service world history) ∧
      ((∀ moment ∈ history, takenBack moment.faults = true) →
        (ReadOnly service world history ↔ Unread service world history)) :=
  ⟨answers_of_unread .refl, fun withdrawn =>
    ⟨unread_of_answers withdrawn .refl, answers_of_unread .refl⟩⟩

end

/-! ### The endpoint for logging in -/

/-- An address at the endpoint, whose window is of fifteen minutes with five
requests. -/
def loginCheck : RateLimitCall where
  identifier := "ip:203.0.113.7"
  endpoint := some "/api/auth/login"

/-- Five checks, a status when a minute has passed, and one more check. -/
def loginHistory : List Moment :=
  let check : Inquiry := .check loginCheck toString
  [⟨0, some check, []⟩, ⟨1, some check, []⟩, ⟨1, some check, []⟩,
    ⟨1, some check, []⟩, ⟨1, some check, []⟩,
    ⟨60000, some (.status loginCheck.identifier loginCheck.endpoint), []⟩, ⟨1, some check, []⟩]

def Answer.admits (answer : Answer) : Bool :=
  match answer.2 with
  | .ok result => result.success
  | .error _ => false

/-- The sixth one is admitted after the status, and is not without it. -/
theorem status_admits :
    (answers .initial (emptyRedis 1700000000000) loginHistory).map
        Answer.admits = [true, true, true, true, true, true] ∧
      (answers .initial (emptyRedis 1700000000000)
        (loginHistory.map (Moment.without isStatus))).map Answer.admits =
          [true, true, true, true, true, false] ∧
      ¬ ReadOnly .initial (emptyRedis 1700000000000) loginHistory := by
  have reading : (answers .initial (emptyRedis 1700000000000)
      loginHistory).map Answer.admits = [true, true, true, true, true, true] := by decide
  have silent : (answers .initial (emptyRedis 1700000000000)
      (loginHistory.map (Moment.without isStatus))).map Answer.admits =
        [true, true, true, true, true, false] := by decide
  refine ⟨reading, silent, fun same => ?_⟩
  rw [same, silent] at reading
  exact absurd reading (by decide)

end MarketX.RateLimiting
