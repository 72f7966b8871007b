/-
Module: MarketX.Effects.TwoPhase
Purpose: Strict two-phase locking: transactions that lock every row they read,
  and write only rows they have locked, commit as if they had run one after
  another.
Trusted boundary: none
Main exports: Session.Replays, lockFirst, obeys_locking, Workload.TwoPhase
-/
import MarketX.Effects.Transactions

namespace Effects

variable {S : Signature} {σ ε ι K V : Type}

/-! ### What a session has read determines it -/

/-- The store agrees with what a session has read. -/
def Session.Agrees (session : Session S ε ι K V) (rows : Rows K V) : Prop :=
  ∀ entry ∈ session.seen, rows entry.1 = entry.2

section

variable [DecidableEq K] (work : Workload S ε ι K V)

/-- On every store that agrees with what the session has read, its program
alone comes to where the session is. -/
def Session.Replays (session : Session S ε ι K V) : Prop := ∀ rows, session.Agrees rows →
    work.store.alone (work.program session.name) rows =
      work.store.alone session.rest (overlay session.buffer rows)

variable {work}

theorem Session.replays_fresh (name : ι) :
    (Session.fresh work name).Replays work :=
  fun _ _ => rfl

variable {session : Session S ε ι K V} {op : S.Op} {key : K}

theorem Session.Replays.passing {next : Except ε (S.Reply op) → Program S ε Unit}
    (replays : session.Replays work) (awaits : session.rest = .call op next)
    (touches : work.store.access op = .elsewhere) :
    Session.Replays work { session with rest := next (.ok (work.store.reply op none)) } := by
  intro rows agrees
  rw [replays rows agrees, awaits, RowStore.alone, touches]

theorem Session.Replays.reading {next : Except ε (S.Reply op) → Program S ε Unit}
    {locks : Bool} (replays : session.Replays work) (awaits : session.rest = .call op next)
    (touches : work.store.access op = .read key locks) (current : Rows K V) :
    (session.reading (next (.ok (work.store.reply op (overlay session.buffer current key))))
      key current).Replays work := by
  intro rows agrees
  have before : session.Agrees rows := by
    intro entry member
    apply agrees entry
    grind [Session.reading]
  have same : overlay session.buffer rows key =
      overlay session.buffer current key := by
    rw [overlay, overlay]
    cases written : session.buffer key with
    | some row => rfl
    | none =>
      refine agrees (key, current key) ?_
      rw [Session.reading, written]
      exact List.mem_cons_self
  have onward := replays rows before
  rw [awaits, RowStore.alone, touches] at onward
  rw [← same]
  exact onward

theorem Session.Replays.writing {next : Except ε (S.Reply op) → Program S ε Unit} {row : V}
    (replays : session.Replays work) (awaits : session.rest = .call op next)
    (touches : work.store.access op = .write key row) :
    (session.writing (next (.ok (work.store.reply op none))) key row).Replays work := by
  intro rows agrees
  have onward := replays rows agrees
  simp_all [RowStore.alone, Session.writing, overlay_update]

end

/-! ### Serializability -/

/-- The session holds the lock of a row that it has found or written. -/
def Holds (seen : List (K × Option V)) (buffer : Rows K V) (key : K) : Prop :=
  (∃ row, (key, some row) ∈ seen) ∨ buffer key ≠ none

/-- Every read locks, and only locked rows are written. -/
def lockFirst : Rules K V where
  reads _ locks := locks = true
  writes seen buffer key _ := Holds seen buffer key

/-- The rule for a read that locks. -/
theorem obeys_locking [DecidableEq K] {store : RowStore S K V} {autocommits : Bool} {α : Type}
    {post : α → List (K × Option V) → Rows K V → Prop} {op : S.Op}
    {rest : S.Reply op → Program S ε α} {seen : List (K × Option V)}
    {buffer : Rows K V} {key : K} (touches : store.access op = .read key true)
    (missing : ∀ seen, (rest (store.reply op none)).obeys store lockFirst
      autocommits post seen buffer) (held : ∀ row seen, Holds seen buffer key →
      (rest (store.reply op (some row))).obeys store lockFirst autocommits post seen buffer) :
    (Program.perform op >>= rest).obeys store lockFirst autocommits post seen
      buffer := by
  apply Program.obeys_reading touches rfl
  · intro row written
    exact held row seen (.inr (by rw [written]; exact nofun))
  · intro unwritten row
    cases row with
    | none => exact missing _
    | some row => exact held row _ (.inl ⟨row, List.mem_cons_self⟩)

section

variable [DecidableEq K] (work : Workload S ε ι K V)

/-- Every program is a transaction that locks first. -/
structure Workload.TwoPhase : Prop where
  transacts : ∀ name, work.autocommits name = false
  locks : work.Obeys (fun _ => lockFirst) fun _ _ _ => True

/-- The programs alone, one after another; `none` where one of them throws. -/
def Workload.oneByOne (log : List ι) (rows : Rows K V) :
    Option (Rows K V) := log.foldlM (fun rows name => work.store.serially (work.program name) rows)
    rows

/-- Where the engine stands: what a session has read is still committed, it
has the locks of the rows it has found, it writes on rows that are there, and
what is committed is what the committed programs make of the start, one after
another. -/
structure Engine.Strict (start : Rows K V) (engine : Engine S ε ι K V) :
    Prop where
  obeyed : engine.Obeys work (fun _ => lockFirst) fun _ _ _ => True
  replays : ∀ slot session, engine.sessions slot = some session → session.Replays work
  reading : ∀ slot session, engine.sessions slot = some session →
    ∀ entry ∈ session.seen, engine.rows entry.1 = entry.2 ∧
      (entry.2 ≠ none → engine.owner entry.1 = some slot)
  writing : ∀ slot session, engine.sessions slot = some session → ∀ key, session.buffer key ≠ none →
      engine.rows key ≠ none ∧ engine.owner key = some slot
  serial : work.oneByOne engine.log start = some engine.rows

variable {work} {start : Rows K V} {engine : Engine S ε ι K V}

theorem Engine.strict_start (start : Rows K V) :
    (Engine.start start : Engine S ε ι K V).Strict work start where
  obeyed := Engine.obeys_start start
  replays _ _ found := by cases found
  reading _ _ found := by cases found
  writing _ _ found := by cases found
  serial := rfl

theorem Engine.Strict.holding (strict : engine.Strict work start) {slot : ℕ}
    {session : Session S ε ι K V} {key : K} (found : engine.sessions slot = some session)
    (holds : Holds session.seen session.buffer key) :
    engine.rows key ≠ none ∧ engine.owner key = some slot := by
  rcases holds with ⟨row, member⟩ | written
  · obtain ⟨same, locked⟩ := strict.reading slot session found _ member
    refine ⟨?_, locked nofun⟩
    rw [same]
    exact nofun
  · exact strict.writing slot session found key written

/-- A session goes on under its locks, and the others keep theirs. -/
theorem Engine.Strict.resume (strict : engine.Strict work start) {slot : ℕ}
    {session : Session S ε ι K V} {owner : K → Option ℕ}
    (kept : ∀ key other, engine.owner key = some other → owner key = some other)
    (obeyed : session.Obeys work (fun _ => lockFirst) fun _ _ _ => True)
    (replays : session.Replays work)
    (reading : ∀ entry ∈ session.seen, engine.rows entry.1 = entry.2 ∧
      (entry.2 ≠ none → owner entry.1 = some slot)) (writing : ∀ key, session.buffer key ≠ none →
      engine.rows key ≠ none ∧ owner key = some slot) :
    Engine.Strict work start (Engine.resume { engine with owner } slot session) where
  obeyed := strict.obeyed.resume rfl obeyed
  replays other present found := by
    simp only [Engine.resume, Function.update_apply] at found
    grind [replays]
  reading other present found := by
    simp only [Engine.resume, Function.update_apply] at found
    split at found
    next same =>
        cases found
        rw [same]
        exact reading
    next =>
        intro entry member
        obtain ⟨same, held⟩ := strict.reading other present found entry member
        exact ⟨same, fun stored => kept _ _ (held stored)⟩
  writing other present found := by
    simp only [Engine.resume, Function.update_apply] at found
    split at found
    next same =>
        cases found
        rw [same]
        exact writing
    next =>
        intro key written
        obtain ⟨stored, held⟩ := strict.writing other present found key written
        exact ⟨stored, kept _ _ held⟩
  serial := strict.serial

omit [DecidableEq K] in
/-- The locks of the sessions that stay are not released. -/
theorem Engine.leave_owner {slot other : ℕ} {key : K}
    (different : other ≠ slot) (held : engine.owner key = some other) :
    (engine.leave slot).owner key = some other := by
  show (if engine.owner key = some slot then none else engine.owner key) = some other
  rw [if_neg (by rw [held]; simpa using different), held]

/-- A session leaves, and the others keep their locks. -/
theorem Engine.Strict.leave (strict : engine.Strict work start) (slot : ℕ) :
    (engine.leave slot).Strict work start where
  obeyed := strict.obeyed.leave slot
  replays other present found := by
    simp only [Engine.leave, Function.update_apply] at found
    split at found
    next => cases found
    next => exact strict.replays other present found
  reading other present found := by
    simp only [Engine.leave, Function.update_apply] at found
    split at found
    next => cases found
    next different =>
        intro entry member
        obtain ⟨same, held⟩ := strict.reading other present found entry member
        exact ⟨same, fun stored => Engine.leave_owner different (held stored)⟩
  writing other present found := by
    simp only [Engine.leave, Function.update_apply] at found
    split at found
    next => cases found
    next different =>
        intro key written
        obtain ⟨stored, held⟩ := strict.writing other present found key written
        exact ⟨stored, Engine.leave_owner different held⟩
  serial := strict.serial

/-- A commit is the committed program, run alone on what was committed. -/
theorem Engine.Strict.commit (strict : engine.Strict work start) {slot : ℕ}
    {session : Session S ε ι K V} {value : Unit} (found : engine.sessions slot = some session)
    (ended : session.rest = .pure value) :
    (engine.commit slot session).Strict work start := by
  have left := strict.leave slot
  refine ⟨left.obeyed, left.replays, ?_, ?_, ?_⟩
  · intro other present foundOther entry member
    obtain ⟨same, held⟩ := left.reading other present foundOther entry member
    refine ⟨?_, held⟩
    -- the row is missing or locked by another session: it is not written here
    have unwritten : session.buffer entry.1 = none := by
      by_contra written
      obtain ⟨stored, here⟩ := strict.writing slot session found entry.1 written
      simp_all [Engine.leave]
    show overlay session.buffer engine.rows entry.1 = entry.2
    rw [overlay, unwritten, Option.none_or]
    exact same
  · intro other present foundOther key written
    obtain ⟨stored, held⟩ := left.writing other present foundOther key written
    refine ⟨?_, held⟩
    show overlay session.buffer engine.rows key ≠ none
    intro missing
    exact stored (Option.or_eq_none_iff.mp missing).2
  · have agrees : session.Agrees engine.rows :=
      fun entry member => (strict.reading slot session found entry member).1
    have alone := strict.replays slot session found _ agrees
    rw [ended, RowStore.alone] at alone
    have before := strict.serial
    simp_all [Workload.oneByOne, Engine.commit, RowStore.serially]

theorem Engine.lock_keeps {slot : ℕ} {key : K}
    (granted : engine.grants slot key = true) (other : K) (holder : ℕ)
    (held : engine.owner other = some holder) :
    Function.update engine.owner key (some slot) other = some holder := by grind [Engine.grants]

omit [DecidableEq K] in
/-- What a session reads joins what it has read before. -/
theorem Session.reading_cases {session : Session S ε ι K V} {key : K}
    {rest : Program S ε Unit} {rows : Rows K V} {entry : K × Option V}
    (member : entry ∈ (session.reading rest key rows).seen) :
    entry ∈ session.seen ∨ entry = (key, rows key) ∧ session.buffer key = none := by
  grind [Session.reading]

/-- Every turn keeps the engine strict. -/
theorem Engine.Strict.step (twoPhase : work.TwoPhase)
    (strict : engine.Strict work start) (turn : EngineTurn ι) :
    (engine.step work turn).Strict work start := by
  have moves := engine.step_moves work turn
  generalize engine.step work turn = after at moves ⊢
  cases moves with
  | stays => exact strict
  | begins unused =>
    exact strict.resume (fun _ _ (held : engine.owner _ = _) => held)
      (twoPhase.locks _) (Session.replays_fresh _) nofun (fun _ written => absurd rfl written)
  | leaves slot => exact strict.leave slot
  | commits found ended => exact strict.commit found ended
  | passes found awaits touches =>
    have obeyed := strict.obeyed _ _ found
    rw [Session.Obeys, awaits, Program.obeys_effect, touches] at obeyed
    exact strict.resume (fun _ _ (held : engine.owner _ = _) => held) obeyed
      ((strict.replays _ _ found).passing awaits touches)
      (fun entry member => strict.reading _ _ found entry member)
      (fun key written => strict.writing _ _ found key written)
  | looks found awaits touches free =>
    obtain ⟨locking, onward⟩ :=
      (strict.obeyed _ _ found).read awaits touches engine.rows
    apply strict.resume (fun _ _ (held : engine.owner _ = _) => held) onward
      ((strict.replays _ _ found).reading awaits touches engine.rows)
    · intro entry member
      rcases Session.reading_cases member with earlier | ⟨rfl, unwritten⟩
      · exact strict.reading _ _ found entry earlier
      · refine ⟨rfl, fun stored => absurd ?_ stored⟩
        have missing := free locking
        rwa [overlay, unwritten, Option.none_or] at missing
    · exact fun key written => strict.writing _ _ found key written
  | reads found awaits touches granted =>
    obtain ⟨_, onward⟩ :=
      (strict.obeyed _ _ found).read awaits touches engine.rows
    apply strict.resume (Engine.lock_keeps granted) onward
      ((strict.replays _ _ found).reading awaits touches engine.rows)
    · intro entry member
      rcases Session.reading_cases member with earlier | ⟨rfl, unwritten⟩
      · obtain ⟨same, held⟩ := strict.reading _ _ found entry earlier
        exact ⟨same, fun stored => Engine.lock_keeps granted _ _ (held stored)⟩
      · exact ⟨rfl, fun _ => Function.update_self _ _ _⟩
    · intro key written
      obtain ⟨stored, held⟩ := strict.writing _ _ found key written
      exact ⟨stored, Engine.lock_keeps granted _ _ held⟩
  | @writes slot session op next key row found awaits touches granted transacts =>
    have obeyed := strict.obeyed _ _ found
    obtain ⟨present, locked⟩ := strict.holding found (obeyed.write awaits touches)
    apply strict.resume (Engine.lock_keeps granted) (obeyed.writing awaits touches transacts)
      ((strict.replays _ _ found).writing awaits touches)
    · intro entry member
      obtain ⟨same, held⟩ := strict.reading _ _ found entry member
      exact ⟨same, fun stored => Engine.lock_keeps granted _ _ (held stored)⟩
    · intro other written
      by_cases same : other = key
      · simp_all
      · rw [Session.writing_buffer_of_ne _ _ _ same] at written
        obtain ⟨stored, held⟩ := strict.writing _ _ found other written
        exact ⟨stored, Engine.lock_keeps granted _ _ held⟩
  | publishes found awaits touches granted autocommits =>
    rw [twoPhase.transacts] at autocommits
    cases autocommits

/-- Strict two-phase locking is serializable: whatever the schedule, what is
committed is what the committed programs make of the start when they run
alone, one after another, in the order of their commits. -/
theorem serializable (twoPhase : work.TwoPhase) (turns : List (EngineTurn ι)) :
    work.oneByOne (run (Engine.step work) (Engine.start start) turns).log start =
      some (run (Engine.step work) (Engine.start start) turns).rows := by
  have preserved : ∀ (engine : Engine S ε ι K V) (turn : EngineTurn ι),
      engine.Strict work start → (engine.step work turn).Strict work start :=
    fun _ turn strict => strict.step twoPhase turn
  exact (run_preserves preserved (Engine.strict_start start) turns).serial

end

end Effects
