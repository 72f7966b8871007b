/-
Module: MarketX.Proofs.RejectedRequests
Purpose: Requests of the rate limit service on one key that are rejected: when
  they leave the set of counted requests as it was, and whom they keep out.
Trusted boundary: human-reviewed definition of counted, RejectedUncounted and
  Withdrawn
Main exports: counted, RejectedUncounted, Withdrawn, rejected_uncounted_withdrawn
-/
import Mathlib.Algebra.Order.Group.Int
import MarketX.RateLimiting.Requests

namespace MarketX.RateLimiting

open Effects Handler Caching

/-! ### The property -/

/-- The counted requests: what is under the key with a score in the
window. -/
def counted (key : String) (config : RateLimitConfig) (world : World) :
    List (String × Date) :=
  (world.zset key).entries.filter fun entry => world.now - config.windowMs < entry.2

/-- The request leaves the counted ones as they were before its pipeline,
apart from those that have left the window. -/
def Framed (key : String) (config : RateLimitConfig) (past : Past signature World) : Prop :=
  ∀ commands met member later, (Op.exec commands, met) ∈ past →
    (Op.command (.zrem key member), later) ∈ past →
      counted key config ((Command.zrem key member).act later).2 =
        (counted key config met).filter fun entry => later.now - config.windowMs < entry.2

/-- A rejected request on the key leaves no trace; and when no request on the
key is under way and fewer than allowed have been answered `success: true`
within the window, the next one is. -/
structure RejectedUncounted (service : RateLimitService)
    (random : ℕ → String) (key : String) (config : RateLimitConfig) (pool : LimitPool) : Prop where
  frame : ∀ thread ∈ pool.threads, thread.name.key = key → Framed key config thread.past
  letIn : (∀ thread ∈ pool.threads, thread.name.key = key → thread.rest.next? = none) →
    pool.threads.countP (admitted key (pool.state.now - config.windowMs < ·)) < config.maxAllowed →
      ∀ call : RateLimitCall, call.key = key → call.config service = config →
        ∀ faults, ∃ result : RateLimitResult,
          ((rateLimits random).exec (service.checkRateLimit call.identifier
            call.userTier call.endpoint call.customConfig) faults
              pool.state).1 = .ok result ∧ result.success = true

/-! ### The condition -/

/-- The request is rejected, and about to draw the member to remove, or to
remove it. -/
def removing (thread : LimitThread) : Bool :=
  (addedBy thread.past).isSome &&
    match thread.rest.next? with
    | some .random | some (.command _) => true
    | _ => false

/-- The clock value of a member that is added is that of the clock, and where
the window is full the member is not there. -/
def placed (key : String) (config : RateLimitConfig) (world : World) :
    Command → Bool
  | .zadd _ score member =>
    score = world.now && ((counted key config world).length < config.maxAllowed ||
        member ∉ world.zset key)
  | _ => true

/-- Redis does not fail; no other request on the key is about to remove
something while one counts the set and adds a member; and what a request
removes is what it has added. -/
def withdrawn (key : String) (config : RateLimitConfig) (pool : LimitPool)
    (thread : LimitThread) (fault : Fault) : Op → Bool
  | .exec commands =>
    fault.isNone && commands.all (placed key config pool.state) &&
      pool.threads.all fun other => other.name.key ≠ key || !removing other
  | .command (.zrem _ member) =>
    fault.isNone && (addedBy thread.past).any fun added => added.1 = member
  | _ => true

/-- The requests on the key have the configuration, and the rejected ones
withdraw what they have added. -/
def Withdrawn (service : RateLimitService) (key : String)
    (config : RateLimitConfig) (pool : LimitPool) (turn : LimitTurn) : Prop :=
  (∀ call ∈ spawned? turn, call.key = key → call.config service = config) ∧
    ∀ moves ∈ pool.mover? turn, moves.1.name.key = key →
      withdrawn key config pool moves.1 turn.fault? moves.2 = true

instance (service : RateLimitService) (key : String)
    (config : RateLimitConfig) (pool : LimitPool) (turn : LimitTurn) :
    Decidable (Withdrawn service key config pool turn) :=
  inferInstanceAs (Decidable ((∀ call ∈ spawned? turn, _) ∧ ∀ moves ∈ pool.mover? turn, _))

/-! ### The sets -/

section

variable {world : World} {key : String} {config : RateLimitConfig}

/-- The scores under the key are clock values of the past. -/
def PastScores (world : World) (key : String) : Prop := ∀ entry, world.sets key = some entry →
    ∀ added ∈ entry.value.entries, 0 ≤ added.2 ∧ added.2 ≤ world.now

theorem PastScores.zset (scores : PastScores world key) :
    ∀ added ∈ (world.zset key).entries, 0 ≤ added.2 ∧ added.2 ≤ world.now := by
  rw [World.zset_eq]
  cases found : world.entry key with
  | none => exact List.forall_mem_nil _
  | some entry => exact scores entry (World.live_of_entry found).1

theorem purged_entries (scores : PastScores world key) :
    (purged world key config world.now).entries =
      counted key config world := by
  apply List.filter_congr
  intro added found
  have past := scores.zset added found
  lia

theorem length_counted (scores : PastScores world key) :
    (purged world key config world.now).card = (counted key config world).length :=
  congrArg List.length (purged_entries scores)

end

/-! ### The next request -/

section

variable {service : RateLimitService} {random : ℕ → String} {call : RateLimitCall} {world : World}

theorem wp_await_bind {α : Type} {op : Op} {rest : Reply op → Service α}
    {post : Except HttpException α → World → Prop}
    (acted : (rateLimits random).wp (rest (act random op world).1) post (act random op world).2)
    (failed : mayFail op = true → ∀ error, post (.error error) world) :
    (rateLimits random).wp (await op >>= rest) post world := by exact ⟨acted, failed⟩

def LetsIn (outcome : Except HttpException RateLimitResult) : Prop :=
  ∀ result, outcome = .ok result → result.success = true

theorem wp_conclude {key : String} {config : RateLimitConfig} {now : Date}
    {currentCount : ℕ} (allowed : currentCount ≤ config.maxAllowed) (world : World) :
    (rateLimits random).wp (conclude key config now currentCount)
      (fun outcome _ => LetsIn outcome) world := by
  unfold conclude
  simp only [allowed, decide_true, if_true]
  rw [wp_bind, wp_pure, andThen_ok, wp_bind]
  apply wp_await_bind ?_ nofun
  intro result same
  cases same
  rfl

theorem wp_slidingWindowRateLimit (room : accepts service call world world.now = true) :
    (rateLimits random).wp (slidingWindowRateLimit call.key (call.config service))
      (fun outcome _ => LetsIn outcome) world := by
  have allowed : (Command.actAll (windowCommands call.key
      (call.config service) world.now (random world.drawn))
        world.withDraw).1.getD 1 0 + 1 ≤ (call.config service).maxAllowed := by
    rw [(actAll_window ..).1]
    exact of_decide_eq_true room
  apply wp_await_bind ?_ nofun
  apply wp_await_bind ?_ nofun
  apply wp_await_bind ?_ (fun _ _ => nofun)
  exact wp_conclude allowed _

theorem wp_checkRateLimit (room : accepts service call world world.now = true) :
    (rateLimits random).wp (service.checkRateLimit call.identifier
      call.userTier call.endpoint call.customConfig) (fun outcome _ => ∃ result : RateLimitResult,
        outcome = .ok result ∧ result.success = true) world := by
  have checked : (rateLimits random).wp (service.checkWithRedis
      call.identifier call.userTier call.endpoint call.customConfig)
      (fun outcome _ => LetsIn outcome) world := by
    unfold RateLimitService.checkWithRedis
    rw [wp_bind]
    apply wp_mono _ (wp_slidingWindowRateLimit room)
    intro outcome after letsIn
    cases outcome with
    | error error => exact nofun
    | ok result =>
      rw [andThen_ok, wp_bind]
      apply wp_mono _ (wp_of_forall _ (fun _ _ => trivial) after)
      intro logged later _
      cases logged with
      | error error => exact nofun
      | ok value => simp_all
  unfold RateLimitService.checkRateLimit
  rw [wp_bind, wp_attempt]
  apply wp_mono _ checked
  intro outcome after letsIn
  cases outcome with
  | ok result => exact ⟨result, rfl, letsIn result rfl⟩
  | error error => exact ⟨failOpen, rfl, rfl⟩

end

/-! ### The invariant -/

def LimitPhase.withdraws : LimitPhase → Bool
  | .withdrawing .. => true
  | _ => false

def withdraws (key : String) (role : LimitRole) : Bool := role.1.name.key = key && role.2.withdraws

/-- A request runs one pipeline, and nothing on its set before. -/
def Traced (past : Past signature World) : LimitPhase → Prop
  | .starting | .dated _ | .drawn .. =>
    (∀ commands met, (Op.exec commands, met) ∉ past) ∧
      ∀ command later, (Op.command command, later) ∉ past
  | .withdrawing met _ _ =>
    (∀ commands earlier, (Op.exec commands, earlier) ∈ past → earlier = met) ∧
      ∀ command later, (Op.command command, later) ∉ past
  | _ => True

/-- What a rejected request has met, and what it has made of it: the set with
its own member, which was not there. -/
structure Pending (key : String) (config : RateLimitConfig) (world : World)
    (times : List Date) (met : World) (now : Date) (draw : String) :
    Prop where
  current : now = met.now
  past : met.now ≤ world.now
  added : world.sets key = some (renewed met key config now draw)
  new : toMember now draw ∉ met.zset key
  scores : PastScores met key
  within : ∀ since, met.now - config.windowMs ≤ since →
    (met.zset key).count (since < ·) ≤ times.countP (since < ·)

/-- The set of the key has no more in the window than the requests that are
accepted, but for what one rejected request has yet to remove. -/
structure Tight (service : RateLimitService) (key : String)
    (config : RateLimitConfig) (world : World) (cast : LimitCast) : Prop where
  known : ∀ role ∈ cast, Known service key config role
  traced : ∀ role ∈ cast, Traced role.1.past role.2
  framed : ∀ role ∈ cast, role.1.name.key = key → Framed key config role.1.past
  clock : 0 ≤ world.now
  scores : PastScores world key
  sole : cast.countP (withdraws key) ≤ 1
  pending : ∀ role ∈ cast, role.1.name.key = key → ∀ met now draw,
    role.2 = .withdrawing met now draw →
      Pending key config world (acceptedTimes key cast) met now draw
  settled : cast.countP (withdraws key) = 0 → ∀ since, world.now - config.windowMs ≤ since →
      (world.zset key).count (since < ·) ≤ (acceptedTimes key cast).countP (since < ·)

section

variable {service : RateLimitService} {random : ℕ → String} {key : String}
  {config : RateLimitConfig} {past : Past signature World}
  {phase : LimitPhase} {op : Op} {met : World} {call : RateLimitCall}

theorem Traced.acted (traced : Traced past phase) (allowed : LimitAllows service call phase op) :
    Traced ((op, met) :: past) (phase.acted service random call op met) := by
  cases allowed <;> grind [Traced, LimitPhase.acted]

theorem Framed.cons (framed : Framed key config past) (noPipeline : ∀ commands, op ≠ .exec commands)
    (noRemoval : ∀ command, op ≠ .command command) :
    Framed key config ((op, met) :: past) := by
  intro commands earlier member later counts removes
  rcases List.mem_cons.mp counts with here | counts
  · cases here
    exact absurd rfl (noPipeline commands)
  rcases List.mem_cons.mp removes with here | removes
  · cases here
    exact absurd rfl (noRemoval _)
  exact framed commands earlier member later counts removes

end

section

variable {service : RateLimitService} {random : ℕ → String} {key : String}
  {config : RateLimitConfig} {world : World} {front back : LimitCast}
  {thread : LimitThread} {phase : LimitPhase} {op : Op} {rest : Service Unit}

variable {after met : World} {now : Date} {draw : String} {new : LimitRole} {call : RateLimitCall}
  {pool : LimitPool} {cast : LimitCast}

theorem Pending.congr {times : List Date} (pending : Pending key config world times met now draw)
    (sets : after.sets key = world.sets key) (later : world.now ≤ after.now) :
    Pending key config after times met now draw :=
  { pending with
    past := pending.past.trans later
    added := sets.trans pending.added }

theorem zset_congr (sets : after.sets key = world.sets key)
    (now : after.now = world.now) : after.zset key = world.zset key := by
  rw [World.zset, now, Store.get_congr sets, World.zset]

theorem Tight.kept_on (tight : Tight service key config world (front ++ (thread, phase) :: back))
    (known : Known service key config new) (traced : Traced new.1.past new.2)
    (framed : new.1.name.key = key → Framed key config new.1.past)
    (sets : after.sets key = world.sets key) (now : after.now = world.now)
    (name : new.1.name = thread.name) (verdict : thread.name.key = key →
      new.2.acceptedAt = phase.acceptedAt ∧ (new.2 = phase ∨
          phase.withdraws = false ∧ new.2.withdraws = false)) :
    Tight service key config after (front ++ new :: back) := by
  have here : (thread, phase) ∈ front ++ (thread, phase) :: back := by simp
  have times : acceptedTimes key (front ++ new :: back) =
      acceptedTimes key (front ++ (thread, phase) :: back) := by grind [acceptedTimes_congr]
  have counts : withdraws key new = withdraws key (thread, phase) := by grind [withdraws]
  constructor
  · grind [known]
  · intro role member
    grind [traced]
  · intro role member
    grind [framed]
  · rw [now]
    exact tight.clock
  · intro entry found
    rw [now]
    exact tight.scores entry (sets ▸ found)
  · rw [countP_replaced, counts, ← countP_replaced]
    exact tight.sole
  · intro role member onKey met date draw about
    rw [times]
    have before : Pending key config world (acceptedTimes key
        (front ++ (thread, phase) :: back)) met date draw := by
      rcases mem_replaced member with rfl | other
      · rw [name] at onKey
        rcases (verdict onKey).2 with same | ⟨-, idle⟩
        · exact tight.pending (thread, phase) here onKey met date draw (same ▸ about)
        · rw [about] at idle
          cases idle
      · exact tight.pending role (mem_of_others other _) onKey met date draw about
    exact before.congr sets now.ge
  · intro none since recent
    rw [countP_replaced, counts, ← countP_replaced] at none
    rw [times, zset_congr sets now]
    rw [now] at recent
    exact tight.settled none since recent

/-- Where no other request is about to remove something, what becomes of one
decides. -/
theorem Tight.replaced (tight : Tight service key config world (front ++ (thread, phase) :: back))
    (idle : ∀ role ∈ front ++ back, withdraws key role = false)
    (known : Known service key config new) (traced : Traced new.1.past new.2)
    (framed : new.1.name.key = key → Framed key config new.1.past)
    (clock : 0 ≤ after.now) (scores : PastScores after key)
    (pending : ∀ met now draw, new.2 = .withdrawing met now draw →
      Pending key config after (acceptedTimes key (front ++ new :: back)) met now draw)
    (settled : new.2.withdraws = false → ∀ since, after.now - config.windowMs ≤ since →
        (after.zset key).count (since < ·) ≤
          (acceptedTimes key (front ++ new :: back)).countP (since < ·))
    (onKey : new.1.name.key = key) :
    Tight service key config after (front ++ new :: back) := by
  have none : (front ++ back).countP (withdraws key) = 0 := by simp_all
  constructor
  · grind [known]
  · intro role member
    grind [traced]
  · intro role member
    grind [framed]
  · exact clock
  · exact scores
  · rw [countP_replaced, none]
    split <;> omega
  · intro role member isKey met now draw about
    rcases mem_replaced member with rfl | other <;> grind [withdraws, LimitPhase.withdraws]
  · intro quiet
    simp_all [withdraws]

theorem count_zset_le {entry : Entry (SortedSet String Date) Date}
    (found : world.sets key = some entry) (test : Date → Bool) :
    (world.zset key).count test ≤ entry.value.count test := by
  rw [World.zset_eq, World.entry, Store.entry, found, Option.filter_some]
  split
  · exact le_rfl
  · exact Nat.zero_le _

theorem idle_of_none (quiet : (front ++ (thread, phase) :: back).countP
    (withdraws key) = 0) : ∀ role ∈ front ++ back, withdraws key role = false := by
  intro role member
  rw [List.countP_eq_zero] at quiet
  exact eq_false_of_ne_true (quiet role (mem_of_others member _))

theorem scores_renewed (clock : 0 ≤ world.now) (scores : PastScores world key) :
    PastScores (world.write key (some (renewed world key config world.now draw)))
      key := by
  intro entry found added member
  rw [show (world.write key _).sets key = _ from Store.put_self] at found
  cases found
  rcases SortedSet.mem_entries_add member with rfl | before
  · exact ⟨clock, le_rfl⟩
  · exact scores.zset added (List.mem_of_mem_filter before)

abbrev pipeline (service : RateLimitService) (call : RateLimitCall)
    (now : Date) (draw : String) : Op :=
  .exec (windowCommands call.key (call.config service) now draw)

/-- What it makes of the sets. -/
abbrev renewal (service : RateLimitService) (call : RateLimitCall)
    (world : World) (draw : String) : World := world.write call.key
    (some (renewed world call.key (call.config service) world.now draw))

theorem count_renewal_le (test : Date → Bool) :
    ((renewal service call world draw).zset call.key).count test ≤
      (world.zset call.key).count test + if test world.now then 1 else 0 := by
  apply (count_zset_le Store.put_self test).trans
  apply SortedSet.count_add_le.trans
  exact Nat.add_le_add_right (SortedSet.count_filter_le _) _

theorem Traced.framed {past : Past signature World} (traced : Traced past (.drawn now draw)) :
    Framed key config ((pipeline service call now draw, world) :: past) := by
  intro commands met member later _ removes
  rcases List.mem_cons.mp removes with here | removes
  · cases here
  · exact absurd removes (traced.2 _ _)

section

variable {draw : String} (tight : Tight service thread.name.key (thread.name.config service) world
    (front ++ (thread, .drawn world.now draw) :: back))
  (quiet : (front ++ (thread, .drawn world.now draw) :: back).countP
    (withdraws thread.name.key) = 0)

include tight quiet

/-- The pipeline of a request that is accepted while no other one is
pending. -/
theorem Tight.accepted (known : Known service thread.name.key (thread.name.config service)
      (thread.answered (pipeline service thread.name world.now draw) world
        rest, .judged world.now true)) :
    Tight service thread.name.key (thread.name.config service)
      (renewal service thread.name world draw) (front ++ (thread.answered
          (pipeline service thread.name world.now draw) world rest,
        .judged world.now true) :: back) := by
  have traced : Traced thread.past (.drawn world.now draw) :=
    tight.traced (thread, .drawn world.now draw) (by simp)
  refine tight.replaced (idle_of_none quiet) known trivial
    (fun _ => traced.framed) ?_ (scores_renewed tight.clock tight.scores) ?_ ?_ rfl
  · exact tight.clock
  · exact fun _ _ _ => nofun
  · intro _ since recent
    have old := (acceptedTimes_replaced thread.name.key front back
      (thread, .drawn world.now draw)).countP_eq (since < ·)
    have new := (acceptedTimes_replaced thread.name.key front back
      (thread.answered (pipeline service thread.name world.now draw) world
        rest, .judged world.now true)).countP_eq (since < ·)
    have before := tight.settled quiet since recent
    have after : ((renewal service thread.name world draw).zset
        thread.name.key).count (since < ·) ≤ _ := count_renewal_le _
    simp only [Thread.answered, if_true, LimitPhase.acceptedAt,
      Option.toList_none, Option.toList_some, List.nil_append,
      List.singleton_append, List.countP_cons] at old new
    calc _ ≤ _ := after
      _ ≤ _ := Nat.add_le_add_right (before.trans_eq old) _
      _ = _ := new.symm

theorem Tight.rejected (known : Known service thread.name.key (thread.name.config service)
      (thread.answered (pipeline service thread.name world.now draw) world
        rest, .withdrawing world world.now draw)) (traced : Traced
      ((pipeline service thread.name world.now draw, world) :: thread.past)
      (.withdrawing world world.now draw))
    (new : toMember world.now draw ∉ world.zset thread.name.key) :
    Tight service thread.name.key (thread.name.config service)
      (renewal service thread.name world draw) (front ++ (thread.answered
          (pipeline service thread.name world.now draw) world rest,
        .withdrawing world world.now draw) :: back) := by
  have before : Traced thread.past (.drawn world.now draw) :=
    tight.traced (thread, .drawn world.now draw) (by simp)
  refine tight.replaced (idle_of_none quiet) known traced
    (fun _ => before.framed) ?_ (scores_renewed tight.clock tight.scores) ?_ ?_ rfl
  · exact tight.clock
  · intro met now other about
    cases about
    refine ⟨rfl, le_rfl, Store.put_self, new, tight.scores, ?_⟩
    intro since recent
    have same : acceptedTimes thread.name.key (front ++ (thread.answered
        (pipeline service thread.name world.now draw) world rest,
          .withdrawing world world.now draw) :: back) = acceptedTimes
        thread.name.key (front ++ (thread, .drawn world.now draw) :: back) :=
      acceptedTimes_congr _ _ rfl
    rw [same]
    exact tight.settled quiet since recent
  · exact nofun

end

/-! ### The removal -/

section

variable {met : World} {times : List Date} {now : Date} {draw member : String}

/-- What a request makes of the sets that removes a member. -/
abbrev removal (key member : String) (world : World) : World :=
  ((Command.zrem key member).act world).2

theorem scores_removal (scores : PastScores world key) :
    PastScores (removal key member world) key := by
  cases found : world.entry key with
  | none =>
    rw [removal, act_zrem_missing found]
    exact scores
  | some entry =>
    have stored := (World.live_of_entry found).1
    intro other later added isThere
    rw [removal, act_zrem found, World.leave] at later ⊢
    have later : _ = some other := Store.put_self.symm.trans later
    split at later
    · cases later
    · cases later
      exact scores entry stored added (List.mem_of_mem_filter isThere)

/-- The removal leaves what has been in the window before; or the set has been
dropped already, after all of that has left the window. -/
theorem Pending.removed (pending : Pending key config world times met now draw)
    (keeps : Date → Bool) (recent : ∀ time, keeps time = true →
      world.now - config.windowMs < time) :
    ((removal key (toMember now draw) world).zset key).entries.filter (fun added => keeps added.2) =
      (counted key config met).filter (fun added => keeps added.2) := by
  obtain ⟨rfl, later, stored, new, scores, -⟩ := pending
  rw [← purged_entries scores]
  by_cases live : (renewed met key config met.now draw).Live world.now
  · have found : world.entry key =
        some (renewed met key config met.now draw) := by simp_all [World.entry, Store.entry]
    have absent : toMember met.now draw ∉ purged met key config met.now :=
      fun member => new (SortedSet.mem_of_mem_filter member)
    have left : (removal key (toMember met.now draw) world).zset key =
        purged met key config met.now := by
      rw [removal, act_zrem found]
      refine (World.zset_leave ?_).trans (SortedSet.remove_add absent met.now)
      exact live
    rw [left]
  · have gone : world.entry key = none := by simp_all [World.entry, Store.entry]
    have none : (removal key (toMember met.now draw) world).zset key =
        .empty := by simp_all [act_zrem_missing, World.zset_eq]
    rw [none]
    symm
    apply List.filter_eq_nil_iff.mpr
    intro added member kept
    have past := scores.zset added (List.mem_of_mem_filter member)
    simp only [Entry.Live, not_forall, not_lt] at live
    obtain ⟨expiresAt, expires, finished⟩ := live
    cases expires
    grind [ceilSeconds]

theorem Pending.framed {past : Past signature World}
    (pending : Pending key config world times met now draw)
    (traced : Traced past (.withdrawing met now draw)) :
    Framed key config ((.command (.zrem key (toMember now draw)), world) :: past) := by
  intro commands earlier member later counts removes
  rcases List.mem_cons.mp counts with here | counts
  · cases here
  cases traced.1 commands earlier counts
  rcases List.mem_cons.mp removes with here | removes
  · cases here
    rw [counted, act_zrem_now]
    exact pending.removed (world.now - config.windowMs < ·) fun time => of_decide_eq_true
  · exact absurd removes (traced.2 _ _)

theorem Pending.count_le (pending : Pending key config world times met now draw) {since : Date}
    (recent : world.now - config.windowMs ≤ since) :
    ((removal key (toMember now draw) world).zset key).count (since < ·) ≤
      times.countP (since < ·) := by
  have left := pending.removed (since < ·) fun time later =>
    lt_of_le_of_lt recent (of_decide_eq_true later)
  have earlier : met.now - config.windowMs ≤ since := by
    have past := pending.past
    lia
  refine le_trans ?_ (pending.within since earlier)
  rw [SortedSet.count, List.countP_eq_length_filter, left, ← List.countP_eq_length_filter]
  exact List.filter_sublist.countP_le

end

theorem Tight.removed (tight : Tight service thread.name.key config world
      (front ++ (thread, .withdrawing met now draw) :: back))
    (known : Known service thread.name.key config
      (thread.answered (.command (.zrem thread.name.key (toMember now draw)))
        world rest, .judged now false)) :
    Tight service thread.name.key config (removal thread.name.key (toMember now draw) world)
      (front ++ (thread.answered (.command (.zrem thread.name.key (toMember now draw))) world rest,
        .judged now false) :: back) := by
  have here : (thread, LimitPhase.withdrawing met now draw) ∈
      front ++ (thread, .withdrawing met now draw) :: back := by simp
  have traced : Traced thread.past (.withdrawing met now draw) := tight.traced _ here
  have pending := tight.pending _ here rfl met now draw rfl
  have waits : withdraws thread.name.key (thread, .withdrawing met now draw) = true :=
    Bool.and_eq_true_iff.mpr ⟨decide_eq_true rfl, rfl⟩
  refine tight.replaced (others_not_counted tight.sole waits) known trivial
    (fun _ => pending.framed traced) ?_ (scores_removal tight.scores) ?_ ?_ rfl
  · rw [removal, act_zrem_now]
    exact tight.clock
  · exact fun _ _ _ => nofun
  · intro _ since recent
    rw [removal, act_zrem_now] at recent
    have same : acceptedTimes thread.name.key (front ++ (thread.answered
        (.command (.zrem thread.name.key (toMember now draw))) world rest,
          .judged now false) :: back) = acceptedTimes thread.name.key
        (front ++ (thread, .withdrawing met now draw) :: back) := acceptedTimes_congr _ _ rfl
    rw [same]
    exact pending.count_le recent

theorem removing_of_withdraws {role : LimitRole} (speaks : role.1.Speaks (rateLimits random)
      (limitDialogue service random) role.2)
    (told : Told role.1.past role.2) (waits : withdraws key role = true) :
    role.1.name.key = key ∧ removing role.1 = true := by
  obtain ⟨thread, phase⟩ := role
  obtain ⟨onKey, waits⟩ := Bool.and_eq_true_iff.mp waits
  refine ⟨of_decide_eq_true onKey, ?_⟩
  cases phase with
  | withdrawing met now draw =>
    have added : (addedBy thread.past).isSome = true := by
      rw [told.1]
      rfl
    rw [removing, added, Bool.true_and]
    cases rest : thread.rest with
    | pure value =>
      rw [Thread.Speaks, rest] at speaks
      cases speaks
    | throw error =>
      rw [Thread.Speaks, rest] at speaks
      cases speaks
    | call op next =>
      rw [Thread.Speaks, rest] at speaks
      have allowed : LimitAllows service thread.name (.withdrawing met now draw) op := speaks.1
      cases allowed with
      | redraws | removes => rfl
  | starting | dated | drawn | judged | answered | broken => cases waits

theorem Tight.acted {fault : Fault} (tight : Tight service key config pool.state
      (front ++ (thread, phase) :: back)) (allowed : LimitAllows service thread.name phase op)
    (isWithdrawn : thread.name.key = key → withdrawn key config pool thread fault op = true)
    (quiet : (pool.threads.all fun other => other.name.key ≠ key || !removing other) = true →
      (front ++ (thread, phase) :: back).countP (withdraws key) = 0) :
    Tight service key config (act random op pool.state).2
      (front ++ (thread.answered op pool.state rest,
        phase.acted service random thread.name op pool.state) :: back) := by
  have here : (thread, phase) ∈ front ++ (thread, phase) :: back := by simp
  have known : Known service key config (thread.answered op pool.state rest,
        phase.acted service random thread.name op pool.state) :=
    (tight.known _ here).acted allowed
  have traced : Traced ((op, pool.state) :: thread.past)
      (phase.acted service random thread.name op pool.state) :=
    (tight.traced _ here).acted allowed
  have framed := tight.framed _ here
  by_cases onKey : thread.name.key = key
  · have isWithdrawn := isWithdrawn onKey
    cases allowed with
    | starts | draws =>
      exact tight.kept_on known traced (fun _ => (framed onKey).cons nofun nofun) rfl rfl rfl
        fun _ => ⟨rfl, .inr ⟨rfl, rfl⟩⟩
    | redraws | dates | pushes | opens =>
      exact tight.kept_on known traced (fun _ => (framed onKey).cons nofun nofun) rfl rfl rfl
        fun _ => ⟨rfl, .inl rfl⟩
    | @answers now result =>
      refine tight.kept_on known traced (fun _ => (framed onKey).cons nofun nofun) rfl rfl rfl
        fun _ => ⟨?_, .inr ⟨rfl, rfl⟩⟩
      cases result.success <;> rfl
    | @counts now draw =>
      obtain ⟨isPlaced, alone⟩ := Bool.and_eq_true_iff.mp isWithdrawn
      have quiet := quiet alone
      have isPlaced := List.all_eq_true.mp (Bool.and_eq_true_iff.mp isPlaced).2 _
        (List.mem_cons_of_mem _ (List.mem_cons_of_mem _ List.mem_cons_self))
      obtain ⟨current, fresh⟩ := Bool.and_eq_true_iff.mp isPlaced
      have current : now = pool.state.now := of_decide_eq_true current
      have same := known.config onKey
      subst onKey same current
      have effect : (act random (pipeline service thread.name
          pool.state.now draw) pool.state).2 = _ := (actAll_window ..).2
      rw [effect]
      by_cases accepted : accepts service thread.name pool.state pool.state.now = true
      · simp only [LimitPhase.acted, accepted, if_true] at known ⊢
        exact tight.accepted quiet known
      · simp only [LimitPhase.acted, accepted] at known traced ⊢
        refine tight.rejected quiet known traced ?_
        have full := of_decide_eq_false (eq_false_of_ne_true accepted)
        rw [length_counted tight.scores] at full
        rcases Bool.or_eq_true_iff.mp fresh with room | new
        · exact absurd (of_decide_eq_true room) full
        · exact of_decide_eq_true new
    | @removes met now draw other =>
      have own := (Bool.and_eq_true_iff.mp isWithdrawn).2
      have told : Told thread.past (.withdrawing met now draw) :=
        (tight.known _ here).told
      rw [told.1] at own
      have own : toMember now draw = toMember now other := of_decide_eq_true own
      subst onKey
      rw [← own] at known ⊢
      exact tight.removed known
  · have others : _ ∧ (act random op pool.state).2.now = _ := act_other allowed onKey
    obtain ⟨sets, now⟩ := others
    exact tight.kept_on known traced (fun about => absurd about onKey) sets
      now rfl fun about => absurd about onKey

/-- Of the effects on the key only the analytics fail, which leaves no
trace. -/
theorem Tight.failed (tight : Tight service key config world (front ++ (thread, phase) :: back))
    (allowed : LimitAllows service thread.name phase op) (exposed : mayFail op = true)
    (spared : thread.name.key = key → ∃ entry, op = .pushAnalytics entry) :
    Tight service key config world
      (front ++ (thread.answered op world rest, phase.failed op) :: back) := by
  have here : (thread, phase) ∈ front ++ (thread, phase) :: back := by simp
  have known : Known service key config (thread.answered op world rest, phase.failed op) :=
    (tight.known _ here).failed allowed exposed spared
  have traced : Traced ((op, world) :: thread.past) (phase.failed op) := by
    cases allowed with
    | counts | removes | pushes => trivial
    | starts | draws | redraws | dates | answers | opens => cases exposed
  refine tight.kept_on known traced ?_ rfl rfl rfl fun onKey => ?_
  · intro onKey
    obtain ⟨entry, rfl⟩ := spared onKey
    exact (tight.framed _ here onKey).cons nofun nofun
  · obtain ⟨entry, rfl⟩ := spared onKey
    exact ⟨rfl, .inl rfl⟩

theorem Tight.spawned {program : Service Unit} (tight : Tight service key config world cast)
    (same : call.key = key → call.config service = config) :
    Tight service key config world (cast ++ [(⟨call, [], program⟩, .starting)]) := by
  have times : acceptedTimes key (cast ++ [(⟨call, [], program⟩, .starting)]) =
        acceptedTimes key cast := by simp [acceptedTimes, LimitPhase.acceptedAt]
  have counts : List.countP (withdraws key) (cast ++ [(⟨call, [], program⟩, .starting)]) =
        cast.countP (withdraws key) := by simp [withdraws, LimitPhase.withdraws]
  have old {role : LimitRole} (member : role ∈ cast ++ [(⟨call, [], program⟩, .starting)]) :
      role ∈ cast ∨ role = (⟨call, [], program⟩, .starting) :=
    (List.mem_append.mp member).imp_right List.mem_singleton.mp
  constructor
  · intro role member
    rcases old member with before | rfl
    · exact tight.known role before
    · exact Known.start call _ same
  · intro role member
    rcases old member with before | rfl
    · exact tight.traced role before
    · exact ⟨fun _ _ => List.not_mem_nil, fun _ _ => List.not_mem_nil⟩
  · intro role member
    rcases old member with before | rfl
    · exact tight.framed role before
    · exact fun _ _ _ _ _ => by intros; contradiction
  · exact tight.clock
  · exact tight.scores
  · exact counts.trans_le tight.sole
  · intro role member onKey met now draw about
    rw [times]
    rcases old member with before | rfl
    · exact tight.pending role before onKey met now draw about
    · cases about
  · rw [counts, times]
    exact tight.settled

theorem Tight.elapsed (tight : Tight service key config world cast) (milliseconds : ℕ) :
    Tight service key config (elapse milliseconds world) cast := by
  have later : world.now ≤ (elapse milliseconds world).now := by
    show world.now ≤ world.now + milliseconds
    lia
  have fewer : ∀ test : Date → Bool, ((elapse milliseconds world).zset key).count test ≤
        (world.zset key).count test := by
    intro test
    cases found : (elapse milliseconds world).sets.get (elapse milliseconds world).now key with
    | none =>
      rw [World.zset, found]
      exact Nat.zero_le _
    | some set =>
      have before : world.sets.get world.now key = some set := Store.get_some_of_le found later
      rw [World.zset, found, World.zset, before]
  constructor
  · exact tight.known
  · exact tight.traced
  · exact tight.framed
  · exact tight.clock.trans later
  · intro entry found added member
    have before := tight.scores entry found added member
    exact ⟨before.1, before.2.trans later⟩
  · exact tight.sole
  · intro role member onKey met now draw about
    exact (tight.pending role member onKey met now draw about).congr rfl later
  · intro quiet since recent
    have earlier : world.now - config.windowMs ≤ since := by lia
    exact (fewer _).trans (tight.settled quiet since earlier)

theorem tight_spoke {later : LimitCast} {turn : LimitTurn}
    (spoken : pool.Spoken (rateLimits random) (limitDialogue service random) cast)
    (tight : Tight service key config pool.state cast)
    (isWithdrawn : Withdrawn service key config pool turn)
    (spoke : Pool.Spoke (rateLimits random) (fun call => call.program service)
      elapse (limitDialogue service random) pool cast turn after later) :
    Tight service key config after later := by
  cases spoke with
  | stays => exact tight
  | changes => exact tight.elapsed _
  | spawns => exact tight.spawned (isWithdrawn.1 _ rfl)
  | @acts _ front back thread phase op rest split moves allowed acts =>
    subst split
    refine tight.acted allowed (isWithdrawn.2 _ moves) fun alone => ?_
    rw [List.countP_eq_zero]
    intro role member waits
    obtain ⟨onKey, isRemoving⟩ := removing_of_withdraws
      (spoken.speaks role member) (tight.known role member).told waits
    have apart := List.all_eq_true.mp alone role.1 (spoken.threads ▸ List.mem_map_of_mem member)
    simp [onKey, isRemoving] at apart
  | @fails _ front back thread phase op error rest split moves allowed exposed throws =>
    subst split
    apply tight.failed allowed exposed
    intro onKey
    have isWithdrawn := isWithdrawn.2 _ moves onKey
    rw [throws] at isWithdrawn
    cases allowed with
    | @pushes now success entry => exact ⟨entry, rfl⟩
    | counts | removes => cases isWithdrawn
    | starts | draws | redraws | dates | answers | opens => cases exposed

end

/-! ### Whole runs -/

section

variable {service : RateLimitService} {random : ℕ → String} {key : String}
  {config : RateLimitConfig} {pool : LimitPool} {cast : LimitCast}

theorem answered_of_ended {role : LimitRole} (speaks : role.1.Speaks (rateLimits random)
      (limitDialogue service random) role.2)
    (known : Known service key config role) (onKey : role.1.name.key = key)
    (ended : role.1.rest.next? = none) :
    ∃ now success, role.2 = .answered now success := by
  obtain ⟨thread, phase⟩ := role
  have ends : phase.ends := by
    cases rest : thread.rest with
    | pure value =>
      rw [Thread.Speaks, rest] at speaks
      exact speaks
    | throw error =>
      rw [Thread.Speaks, rest] at speaks
      exact speaks
    | call op next =>
      rw [rest] at ended
      cases ended
  cases phase with
  | answered now success => exact ⟨now, success, rfl⟩
  | broken => exact absurd rfl (known.unbroken onKey)
  | starting | dated | drawn | withdrawing | judged => cases ends

/-- Where all requests on the key have ended, whoever was accepted has been
admitted. -/
theorem countP_acceptedTimes_le {covers : Date → Bool}
    (known : ∀ role ∈ cast, Known service key config role)
    (ended : ∀ role ∈ cast, role.1.name.key = key → ∃ now success, role.2 = .answered now success) :
    (acceptedTimes key cast).countP covers ≤ (cast.map Prod.fst).countP (admitted key covers) := by
  rw [acceptedTimes, List.countP_filterMap, List.countP_map]
  apply List.countP_mono_left
  rintro ⟨thread, phase⟩ member counted
  split at counted
  next onKey =>
    obtain ⟨now, success, rfl⟩ := ended _ member onKey
    have told : Told thread.past (.answered now success) :=
      (known _ member).told
    cases success with
    | false => cases counted
    | true =>
      simp only [Function.comp, admitted, onKey, told.1, told.2]
      simpa [LimitPhase.acceptedAt] using counted
  next => cases counted

theorem Tight.rejectedUncounted
    (spoken : pool.Spoken (rateLimits random) (limitDialogue service random) cast)
    (tight : Tight service key config pool.state cast) :
    RejectedUncounted service random key config pool := by
  constructor
  · intro thread member onKey
    rw [spoken.threads] at member
    obtain ⟨role, listed, rfl⟩ := List.mem_map.mp member
    exact tight.framed role listed onKey
  · intro ended room call onKey same faults
    have ended : ∀ role ∈ cast, role.1.name.key = key →
        ∃ now success, role.2 = .answered now success := by
      intro role member about
      refine answered_of_ended (spoken.speaks role member)
        (tight.known role member) about (ended role.1 ?_ about)
      rw [spoken.threads]
      exact List.mem_map_of_mem member
    have quiet : cast.countP (withdraws key) = 0 := by
      rw [List.countP_eq_zero]
      intro role member waits
      obtain ⟨about, waits⟩ := Bool.and_eq_true_iff.mp waits
      obtain ⟨now, success, phase⟩ := ended role member (of_decide_eq_true about)
      rw [phase] at waits
      cases waits
    subst onKey same
    refine wp_sound _ (wp_checkRateLimit (decide_eq_true ?_)) faults
    rw [spoken.threads] at room
    calc (purged pool.state call.key (call.config service) pool.state.now).card
        = (counted call.key (call.config service) pool.state).length := length_counted tight.scores
      _ = (pool.state.zset call.key).count (pool.state.now - (call.config service).windowMs < ·) :=
          List.countP_eq_length_filter.symm
      _ ≤ (acceptedTimes call.key cast).countP
            (pool.state.now - (call.config service).windowMs < ·) := tight.settled quiet _ le_rfl
      _ ≤ _ := countP_acceptedTimes_le tight.known ended
      _ < (call.config service).maxAllowed := room

end

/-- In every run from an empty Redis in which the rejected requests on the key
withdraw what they have added, they do not count. -/
theorem rejected_uncounted_withdrawn (service : RateLimitService)
    (random : ℕ → String) (key : String) (config : RateLimitConfig)
    (now : ℕ) {turns : List LimitTurn} (isWithdrawn : Along (limitRun service random)
      (Withdrawn service key config) ⟨emptyRedis now, []⟩ turns) :
    RejectedUncounted service random key config
      (run (limitRun service random) ⟨emptyRedis now, []⟩ turns) := by
  have initially : Tight service key config (emptyRedis now) [] := by
    constructor
    · exact List.forall_mem_nil _
    · exact List.forall_mem_nil _
    · exact List.forall_mem_nil _
    · exact Int.natCast_nonneg now
    · exact fun _ => nofun
    · exact Nat.zero_le 1
    · exact List.forall_mem_nil _
    · exact fun _ _ _ => le_rfl
  obtain ⟨cast, spoken, tight⟩ := Pool.spoken_invariant (Tight service key config) speaks_program
    (fun _ _ _ _ _ spoken tight isWithdrawn spoke => tight_spoke spoken tight isWithdrawn spoke)
    initially isWithdrawn
  exact tight.rejectedUncounted spoken

def singleCall : RateLimitCall where
  identifier := "user:1"
  customConfig := some ⟨some 1000, some 1, some 0⟩

/-- A request that is accepted, one that is rejected half a second later, and
another half a second. -/
def retryTurns : List LimitTurn :=
  [.spawn singleCall] ++ limitTurns 0 7 ++ [.outside 500, .spawn singleCall] ++
    limitTurns 1 9 ++ [.outside 501]

/-- The rejected request draws the same number twice. -/
theorem retrying_client_let_in :
    RejectedUncounted .initial (fun drawn => if drawn = 0 then "0.1" else "0.5")
      "rate_limit:user:1" ⟨1000, 1, some 0⟩
      (run (limitRun .initial fun drawn => if drawn = 0 then "0.1" else "0.5")
        ⟨emptyRedis 1000, []⟩ retryTurns) :=
  rejected_uncounted_withdrawn .initial _ "rate_limit:user:1"
    ⟨1000, 1, some 0⟩ 1000 (by decide)

/-- With another number for the member to remove, what the rejected request
has added stays, and the next one is rejected, too. -/
theorem rejected_request_counted :
    ¬ RejectedUncounted .initial (fun drawn => "0." ++ toString (drawn + 1))
      "rate_limit:user:1" ⟨1000, 1, some 0⟩
      (run (limitRun .initial fun drawn => "0." ++ toString (drawn + 1))
        ⟨emptyRedis 1000, []⟩ retryTurns) := by
  intro uncounted
  obtain ⟨result, answered, success⟩ := uncounted.letIn
    (by decide) (by decide) singleCall (by decide) (by decide) []
  have refused : ((rateLimits fun drawn => "0." ++ toString (drawn + 1)).exec
      (RateLimitService.initial.checkRateLimit singleCall.identifier
        singleCall.userTier singleCall.endpoint singleCall.customConfig) []
      (run (limitRun .initial fun drawn => "0." ++ toString (drawn + 1))
        ⟨emptyRedis 1000, []⟩ retryTurns).state).1.toOption.all
      (fun result => result.success) = false := by decide
  rw [answered] at refused
  exact absurd (success.symm.trans refused) (by decide)

end MarketX.RateLimiting
