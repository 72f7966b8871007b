/-
Module: MarketX.Effects.Transactions
Purpose: Database transactions that run side by side on one store of rows:
  programs whose effects read and write rows, READ COMMITTED reads, row locks
  that a locking read or a write takes and that are held to the end of the
  transaction, commits and aborts; and rules for what every session reads and
  writes, whatever the others do.
Trusted boundary: none
Main exports: Access, RowStore, RowStore.alone, Workload
-/
import MarketX.Effects.Program
import MarketX.Effects.Runs

namespace Effects

variable {S : Signature} {σ ε α β ι K V : Type}

/-! ### Programs that read and write rows -/

/-- The rows of a store. -/
abbrev Rows (K V : Type) := K → Option V

/-- How an effect touches the rows: it reads one, with or without taking its
lock, it writes one, or it touches none. -/
inductive Access (K V : Type) where
  | read (key : K) (locks : Bool)
  | write (key : K) (row : V)
  | elsewhere

/-- The row store as the effects of `S` see it: what each touches, and the
answer, given the row where the effect reads one. -/
structure RowStore (S : Signature) (K V : Type) where
  access : S.Op → Access K V
  reply : (op : S.Op) → Option V → S.Reply op

/-- The rows behind those that are written but not committed. -/
def overlay (buffer rows : Rows K V) : Rows K V :=
  fun key => (buffer key).or (rows key)

@[simp] theorem overlay_none (rows : Rows K V) :
    overlay (fun _ => none) rows = rows := rfl

theorem overlay_update [DecidableEq K] (buffer rows : Rows K V) (key : K) (row : V) :
    overlay (Function.update buffer key (some row)) rows =
      Function.update (overlay buffer rows) key (some row) := by grind [overlay]

namespace RowStore

variable [DecidableEq K] (store : RowStore S K V)

/-- A program alone on the store, nothing failing. -/
def alone : Program S ε α → Rows K V → Except ε α × Rows K V
  | .pure value, rows => (.ok value, rows)
  | .throw error, rows => (.error error, rows)
  | .call op next, rows =>
    match store.access op with
    | .elsewhere => alone (next (.ok (store.reply op none))) rows
    | .read key _ => alone (next (.ok (store.reply op (rows key)))) rows
    | .write key row =>
      alone (next (.ok (store.reply op none))) (Function.update rows key (some row))

/-- A transaction alone; `none` where it throws. -/
def serially (program : Program S ε α) (rows : Rows K V) :
    Option (Rows K V) :=
  match store.alone program rows with
  | (.ok _, after) => some after
  | (.error _, _) => none

end RowStore

/-! ### Transactions side by side -/

/-- What may run: programs by name.  A program that autocommits is no
transaction: each of its writes is committed at once. -/
structure Workload (S : Signature) (ε ι K V : Type) where
  store : RowStore S K V
  program : ι → Program S ε Unit
  autocommits : ι → Bool

/-- A program under way: what is left of it, the committed rows it has read,
and the rows it has written and not committed. -/
structure Session (S : Signature) (ε ι K V : Type) where
  name : ι
  rest : Program S ε Unit
  seen : List (K × Option V)
  buffer : Rows K V

/-- The committed rows, the holder of each row's lock, the sessions by
connection, and the programs that have committed, in order. -/
structure Engine (S : Signature) (ε ι K V : Type) where
  rows : Rows K V
  owner : K → Option ℕ
  sessions : ℕ → Option (Session S ε ι K V)
  log : List ι

/-- What happens next: a program begins on a free connection, a session makes
its next step, which waits if it needs a lock that another holds, or a session is
aborted: because an effect throws, as the victim of a deadlock, or because the
connection breaks. -/
inductive EngineTurn (ι : Type) where
  | begin (slot : ℕ) (name : ι)
  | proceed (slot : ℕ)
  | abort (slot : ℕ)

/-- No session, no lock. -/
def Engine.start (rows : Rows K V) : Engine S ε ι K V where
  rows
  owner _ := none
  sessions _ := none
  log := []

namespace Engine

variable (engine : Engine S ε ι K V)

/-- The lock is free, or held by the session itself. -/
def grants [DecidableEq K] (slot : ℕ) (key : K) : Bool :=
  (engine.owner key).all (· = slot)

/-- A session ends and its locks are released. -/
def leave (slot : ℕ) : Engine S ε ι K V :=
  { engine with
    owner := fun key =>
      if engine.owner key = some slot then none else engine.owner key
    sessions := Function.update engine.sessions slot none }

/-- A session ends and its rows are committed. -/
def commit (slot : ℕ) (session : Session S ε ι K V) : Engine S ε ι K V :=
  { engine.leave slot with
    rows := overlay session.buffer engine.rows
    log := engine.log ++ [session.name] }

/-- A session goes on. -/
def resume (slot : ℕ) (session : Session S ε ι K V) : Engine S ε ι K V :=
  { engine with
    sessions := Function.update engine.sessions slot (some session) }

/-- A session takes a lock. -/
def lock [DecidableEq K] (slot : ℕ) (key : K) : Engine S ε ι K V :=
  { engine with owner := Function.update engine.owner key (some slot) }

/-- A row is committed at once. -/
def publish [DecidableEq K] (key : K) (row : V) : Engine S ε ι K V :=
  { engine with rows := Function.update engine.rows key (some row) }

end Engine

namespace Session

variable (session : Session S ε ι K V)

/-- A session that has done nothing yet. -/
def fresh (work : Workload S ε ι K V) (name : ι) : Session S ε ι K V where
  name
  rest := work.program name
  seen := []
  buffer _ := none

/-- The row under a key is read: the session's own, or the committed one. -/
def reading (rest : Program S ε Unit) (key : K) (rows : Rows K V) :
    Session S ε ι K V :=
  { session with
    rest
    seen :=
      match session.buffer key with
      | some _ => session.seen
      | none => (key, rows key) :: session.seen }

/-- A row is written and not committed. -/
def writing [DecidableEq K] (rest : Program S ε Unit) (key : K) (row : V) :
    Session S ε ι K V :=
  { session with
    rest
    buffer := Function.update session.buffer key (some row) }

theorem writing_buffer_of_ne [DecidableEq K] (rest : Program S ε Unit)
    {key other : K} (row : V) (different : other ≠ key) :
    (session.writing rest key row).buffer other = session.buffer other :=
  Function.update_of_ne different _ _

end Session

section

variable [DecidableEq K] (work : Workload S ε ι K V)

/-- The next step of a session.  A read that locks takes the lock of the row
it finds; where there is none it locks nothing. -/
def Engine.advance (engine : Engine S ε ι K V) (slot : ℕ)
    (session : Session S ε ι K V) : Engine S ε ι K V :=
  match session.rest with
  | .pure _ => engine.commit slot session
  | .throw _ => engine.leave slot
  | .call op next =>
    match work.store.access op with
    | .elsewhere =>
      engine.resume slot { session with rest := next (.ok (work.store.reply op none)) }
    | .read key locks =>
      let row := overlay session.buffer engine.rows key
      let onward := session.reading (next (.ok (work.store.reply op row))) key engine.rows
      if (locks && row.isSome) = false then
        engine.resume slot onward
      else if engine.grants slot key = true then
        (engine.lock slot key).resume slot onward
      else
        engine
    | .write key row =>
      let rest := next (.ok (work.store.reply op none))
      if engine.grants slot key = true then
        if work.autocommits session.name = true then
          (engine.publish key row).resume slot { session with rest }
        else
          (engine.lock slot key).resume slot (session.writing rest key row)
      else
        engine

/-- The next turn of the session puts rows of its own among the committed
ones. -/
def Engine.publishes (engine : Engine S ε ι K V) (slot : ℕ) (session : Session S ε ι K V) : Bool :=
  match session.rest with
  | .pure _ => !work.autocommits session.name
  | .throw _ => false
  | .call op _ =>
    match work.store.access op with
    | .write key _ => work.autocommits session.name && engine.grants slot key
    | _ => false

/-- One turn. -/
def Engine.step (engine : Engine S ε ι K V) :
    EngineTurn ι → Engine S ε ι K V
  | .begin slot name =>
    match engine.sessions slot with
    | some _ => engine
    | none => engine.resume slot (.fresh work name)
  | .abort slot => engine.leave slot
  | .proceed slot =>
    match engine.sessions slot with
    | none => engine
    | some session => engine.advance work slot session

/-- What one turn can do. -/
inductive Engine.Moves (engine : Engine S ε ι K V) :
    EngineTurn ι → Engine S ε ι K V → Prop where
  | stays {turn} : Moves engine turn engine
  | begins {slot name} (unused : engine.sessions slot = none) :
      Moves engine (.begin slot name) (engine.resume slot (.fresh work name))
  | leaves {turn} (slot : ℕ) : Moves engine turn (engine.leave slot)
  | commits {slot session value} (found : engine.sessions slot = some session)
      (ended : session.rest = .pure value) :
      Moves engine (.proceed slot) (engine.commit slot session)
  | passes {slot session op next} (found : engine.sessions slot = some session)
      (awaits : session.rest = .call op next) (touches : work.store.access op = .elsewhere) :
      Moves engine (.proceed slot) (engine.resume slot
          { session with rest := next (.ok (work.store.reply op none)) })
  | looks {slot session op next key locks} (found : engine.sessions slot = some session)
      (awaits : session.rest = .call op next) (touches : work.store.access op = .read key locks)
      (free : locks = true → overlay session.buffer engine.rows key = none) :
      Moves engine (.proceed slot) (engine.resume slot (session.reading
            (next (.ok (work.store.reply op (overlay session.buffer engine.rows key))))
            key engine.rows))
  | reads {slot session op next key locks} (found : engine.sessions slot = some session)
      (awaits : session.rest = .call op next) (touches : work.store.access op = .read key locks)
      (granted : engine.grants slot key = true) :
      Moves engine (.proceed slot) ((engine.lock slot key).resume slot (session.reading
            (next (.ok (work.store.reply op (overlay session.buffer engine.rows key))))
            key engine.rows))
  | writes {slot session op next key row} (found : engine.sessions slot = some session)
      (awaits : session.rest = .call op next) (touches : work.store.access op = .write key row)
      (granted : engine.grants slot key = true)
      (transacts : work.autocommits session.name = false) :
      Moves engine (.proceed slot) ((engine.lock slot key).resume slot
          (session.writing (next (.ok (work.store.reply op none))) key row))
  | publishes {slot session op next key row} (found : engine.sessions slot = some session)
      (awaits : session.rest = .call op next) (touches : work.store.access op = .write key row)
      (granted : engine.grants slot key = true)
      (autocommits : work.autocommits session.name = true) :
      Moves engine (.proceed slot) ((engine.publish key row).resume slot
          { session with rest := next (.ok (work.store.reply op none)) })

theorem Engine.advance_moves {engine : Engine S ε ι K V} {slot : ℕ} {session : Session S ε ι K V}
    (found : engine.sessions slot = some session) :
    engine.Moves work (.proceed slot) (engine.advance work slot session) := by
  rw [Engine.advance]
  split
  next value ended => exact .commits found ended
  next => exact .leaves slot
  next op next awaits =>
      split
      next touches => exact .passes found awaits touches
      next key locks touches =>
          dsimp only
          split
          next free =>
              refine .looks found awaits touches fun locking => ?_
              simpa [locking] using free
          next =>
              split
              next granted => exact .reads found awaits touches granted
              next => exact .stays
      next key row touches =>
          split
          next granted =>
              split
              next autocommits => exact .publishes found awaits touches granted autocommits
              next transacts =>
                  exact .writes found awaits touches granted (Bool.eq_false_iff.mpr transacts)
          next => exact .stays

theorem Engine.step_moves (engine : Engine S ε ι K V) (turn : EngineTurn ι) :
    engine.Moves work turn (engine.step work turn) := by
  cases turn with
  | begin slot name =>
    rw [Engine.step]
    split
    next => exact .stays
    next unused => exact .begins unused
  | abort slot => exact .leaves slot
  | proceed slot =>
    rw [Engine.step]
    split
    next => exact .stays
    next session found => exact engine.advance_moves work found

end

/-! ### Rules for sessions -/

/-- What a program may ask of the store, given what its session has read and
written so far. -/
structure Rules (K V : Type) where
  reads : K → Bool → Prop
  writes : List (K × Option V) → Rows K V → K → V → Prop

namespace Program

variable [DecidableEq K] (store : RowStore S K V) (rules : Rules K V) (autocommits : Bool)

/-- Whatever the committed rows are that it reads, the program keeps the
rules, and where it returns, what its session has read and written meets the
postcondition. -/
def obeys (post : α → List (K × Option V) → Rows K V → Prop) :
    Program S ε α → List (K × Option V) → Rows K V → Prop
  | .pure value, seen, buffer => post value seen buffer
  | .throw _, _, _ => True
  | .call op next, seen, buffer =>
    match store.access op with
    | .elsewhere => obeys post (next (.ok (store.reply op none))) seen buffer
    | .read key locks =>
      rules.reads key locks ∧
        match buffer key with
        | some row => obeys post (next (.ok (store.reply op (some row)))) seen buffer
        | none => ∀ row, obeys post (next (.ok (store.reply op row))) ((key, row) :: seen) buffer
    | .write key row =>
      rules.writes seen buffer key row ∧ obeys post (next (.ok (store.reply op none))) seen
          (if autocommits = true then buffer
            else Function.update buffer key (some row))

variable {store rules autocommits}

variable {post : α → List (K × Option V) → Rows K V → Prop} {op : S.Op} {seen : List (K × Option V)}
  {buffer : Rows K V} {key : K}

/-- What the rules ask of an effect, by what it touches. -/
theorem obeys_effect (next : Except ε (S.Reply op) → Program S ε α) :
    (Program.call op next).obeys store rules autocommits post seen buffer =
      match store.access op with
      | .elsewhere =>
        (next (.ok (store.reply op none))).obeys store rules autocommits post seen buffer
      | .read key locks =>
        rules.reads key locks ∧
          match buffer key with
          | some row => (next (.ok (store.reply op (some row)))).obeys store rules autocommits
              post seen buffer
          | none => ∀ row, (next (.ok (store.reply op row))).obeys store rules autocommits
              post ((key, row) :: seen) buffer
      | .write key row =>
        rules.writes seen buffer key row ∧
          (next (.ok (store.reply op none))).obeys store rules autocommits post seen
            (if autocommits = true then buffer
              else Function.update buffer key (some row)) := by
  rw [obeys]

/-- One effect of both: what goes on after any reply carries the rules over. -/
theorem obeys_call {other : β → List (K × Option V) → Rows K V → Prop}
    {next : Except ε (S.Reply op) → Program S ε α} {onward : Except ε (S.Reply op) → Program S ε β}
    (carries : ∀ reply seen buffer, (next reply).obeys store rules autocommits post seen buffer →
        (onward reply).obeys store rules autocommits other seen buffer)
    (obeyed : (Program.call op next).obeys store rules autocommits post seen buffer) :
    (Program.call op onward).obeys store rules autocommits other seen
      buffer := by
  rw [obeys_effect] at obeyed ⊢
  split at obeyed <;> grind

theorem obeys_mono {weaker : α → List (K × Option V) → Rows K V → Prop}
    (implies : ∀ value seen buffer, post value seen buffer → weaker value seen buffer)
    {program : Program S ε α} (obeyed : program.obeys store rules autocommits post seen buffer) :
    program.obeys store rules autocommits weaker seen buffer := by
  induction program generalizing seen buffer with
  | pure value => exact implies _ _ _ obeyed
  | throw error => trivial
  | call op next ih => grind [obeys_call]

theorem obeys_bind {post : β → List (K × Option V) → Rows K V → Prop}
    {first : Program S ε α} {rest : α → Program S ε β} (obeyed : first.obeys store rules autocommits
      (fun value => (rest value).obeys store rules autocommits post) seen buffer) :
    (first >>= rest).obeys store rules autocommits post seen buffer := by
  show (first.bind rest).obeys _ _ _ _ _ _
  induction first generalizing seen buffer with
  | pure value => exact obeyed
  | throw error => trivial
  | call op next ih => grind [Program.bind, obeys_call]

/-- The rule for an effect that touches no row, in front of the rest. -/
theorem obeys_elsewhere {post : β → List (K × Option V) → Rows K V → Prop}
    {rest : S.Reply op → Program S ε β}
    (touches : store.access op = .elsewhere)
    (onward : (rest (store.reply op none)).obeys store rules autocommits post seen buffer) :
    (perform op >>= rest).obeys store rules autocommits post seen buffer := by
  show Program.obeys _ _ _ _ (.call op _) _ _
  rw [obeys_effect, touches]
  exact onward

/-- The rule for a read: of the session's own row, or of a committed one. -/
theorem obeys_reading {post : β → List (K × Option V) → Rows K V → Prop}
    {rest : S.Reply op → Program S ε β} {locks : Bool}
    (touches : store.access op = .read key locks) (allowed : rules.reads key locks)
    (own : ∀ row, buffer key = some row →
      (rest (store.reply op (some row))).obeys store rules autocommits post seen buffer)
    (committed : buffer key = none → ∀ row,
      (rest (store.reply op row)).obeys store rules autocommits post ((key, row) :: seen) buffer) :
    (perform op >>= rest).obeys store rules autocommits post seen buffer := by
  show Program.obeys _ _ _ _ (.call op _) _ _
  rw [obeys_effect, touches]
  refine ⟨allowed, ?_⟩
  split
  next row written => exact own row written
  next unwritten => exact committed unwritten

theorem obeys_writing {post : β → List (K × Option V) → Rows K V → Prop}
    {rest : S.Reply op → Program S ε β} {row : V}
    (touches : store.access op = .write key row) (allowed : rules.writes seen buffer key row)
    (onward : (rest (store.reply op none)).obeys store rules autocommits post seen
      (if autocommits = true then buffer
        else Function.update buffer key (some row))) :
    (perform op >>= rest).obeys store rules autocommits post seen buffer := by
  show Program.obeys _ _ _ _ (.call op _) _ _
  rw [obeys_effect, touches]
  exact ⟨allowed, onward⟩

/-- A check that throws, in front of the rest of the program. -/
theorem obeys_guard (test : Prop) [Decidable test] {error : ε} {rest : PUnit → Program S ε α}
    (continues : ¬ test → (rest ⟨⟩).obeys store rules autocommits post seen buffer) :
    (if test then Program.throw error >>= rest else rest ⟨⟩).obeys store rules
      autocommits post seen buffer := by
  split
  next => trivial
  next fails => exact continues fails

theorem obeys_branch (test : Prop) [Decidable test] {yes no : Program S ε α}
    (taken : test → yes.obeys store rules autocommits post seen buffer)
    (skipped : ¬ test → no.obeys store rules autocommits post seen buffer) :
    (if test then yes else no).obeys store rules autocommits post seen
      buffer := by grind

/-- The rule for loops: an invariant, indexed by the elements done. -/
theorem obeys_forM {body : α → Program S ε PUnit}
    (invariant : List α → List (K × Option V) → Rows K V → Prop)
    (iteration : ∀ done item seen buffer, invariant done seen buffer →
      (body item).obeys store rules autocommits (fun _ => invariant (done ++ [item])) seen buffer)
    (items : List α) (done : List α) (start : invariant done seen buffer) :
    (items.forM body).obeys store rules autocommits
      (fun _ => invariant (done ++ items)) seen buffer := by
  induction items generalizing done seen buffer with
  | nil =>
    rw [List.append_nil]
    exact start
  | cons head tail ih =>
    show (body head >>= fun _ => tail.forM body).obeys _ _ _ _ _ _
    grind [obeys_bind, obeys_mono]

end Program

section

variable [DecidableEq K] (work : Workload S ε ι K V) (rules : ι → Rules K V)
  (post : ι → List (K × Option V) → Rows K V → Prop)

/-- What is left of a session keeps the rules of its program. -/
def Session.Obeys (session : Session S ε ι K V) : Prop :=
  session.rest.obeys work.store (rules session.name)
    (work.autocommits session.name) (fun _ => post session.name) session.seen session.buffer

/-- Every program keeps its rules from the start. -/
def Workload.Obeys : Prop := ∀ name, (work.program name).obeys work.store (rules name)
    (work.autocommits name) (fun _ => post name) [] fun _ => none

/-- Every session keeps its rules. -/
def Engine.Obeys (engine : Engine S ε ι K V) : Prop :=
  ∀ slot session, engine.sessions slot = some session → session.Obeys work rules post

variable {work rules post} {engine : Engine S ε ι K V}

theorem Engine.obeys_start (rows : Rows K V) :
    (Engine.start rows : Engine S ε ι K V).Obeys work rules post :=
  fun _ _ found => nomatch found

variable {session : Session S ε ι K V} {op : S.Op} {key : K} {row : V}

/-- A read keeps the rules, and so does what follows it. -/
theorem Session.Obeys.read {next : Except ε (S.Reply op) → Program S ε Unit}
    {locks : Bool} (obeyed : session.Obeys work rules post) (awaits : session.rest = .call op next)
    (touches : work.store.access op = .read key locks) (rows : Rows K V) :
    (rules session.name).reads key locks ∧ (session.reading
        (next (.ok (work.store.reply op (overlay session.buffer rows key))))
        key rows).Obeys work rules post := by
  rw [Session.Obeys, awaits, Program.obeys_effect, touches] at obeyed
  obtain ⟨allowed, onward⟩ := obeyed
  refine ⟨allowed, ?_⟩
  rw [Session.Obeys, Session.reading, overlay]
  grind

/-- A write keeps the rules. -/
theorem Session.Obeys.write {next : Except ε (S.Reply op) → Program S ε Unit}
    (obeyed : session.Obeys work rules post) (awaits : session.rest = .call op next)
    (touches : work.store.access op = .write key row) :
    (rules session.name).writes session.seen session.buffer key row := by
  simp_all [Session.Obeys, Program.obeys_effect]

/-- What follows a write of a transaction keeps the rules. -/
theorem Session.Obeys.writing {next : Except ε (S.Reply op) → Program S ε Unit}
    (obeyed : session.Obeys work rules post) (awaits : session.rest = .call op next)
    (touches : work.store.access op = .write key row)
    (transacts : work.autocommits session.name = false) :
    (session.writing (next (.ok (work.store.reply op none))) key row).Obeys
      work rules post := by simp_all [Session.Obeys, Program.obeys_effect, Session.writing]

/-- The next turn of a session that obeys leaves one that does. -/
theorem Engine.Obeys.resume (obeyed : engine.Obeys work rules post)
    {other : Engine S ε ι K V} (same : other.sessions = engine.sessions)
    {slot : ℕ} (onward : session.Obeys work rules post) :
    (other.resume slot session).Obeys work rules post := by
  intro holder present found
  rw [Engine.resume, same] at found
  simp only [Function.update_apply] at found
  split at found
  next =>
      cases found
      exact onward
  next => exact obeyed holder present found

theorem Engine.Obeys.leave (obeyed : engine.Obeys work rules post)
    (slot : ℕ) : (engine.leave slot).Obeys work rules post := by
  intro holder present found
  simp only [Engine.leave, Function.update_apply] at found
  split at found
  next => cases found
  next => exact obeyed holder present found

/-- Every turn keeps every session to its rules. -/
theorem Engine.Obeys.step (lawful : work.Obeys rules post)
    (obeyed : engine.Obeys work rules post) (turn : EngineTurn ι) :
    (engine.step work turn).Obeys work rules post := by
  have moves := engine.step_moves work turn
  generalize engine.step work turn = after at moves ⊢
  cases moves with
  | stays => exact obeyed
  | begins unused => exact obeyed.resume rfl (lawful _)
  | leaves slot => exact obeyed.leave slot
  | commits found ended => exact obeyed.leave _
  | passes found awaits touches =>
    apply obeyed.resume rfl
    have before := obeyed _ _ found
    simp_all [Session.Obeys, Program.obeys_effect]
  | looks found awaits touches free =>
    exact obeyed.resume rfl ((obeyed _ _ found).read awaits touches engine.rows).2
  | reads found awaits touches granted =>
    exact obeyed.resume rfl ((obeyed _ _ found).read awaits touches engine.rows).2
  | writes found awaits touches granted transacts =>
    exact obeyed.resume rfl ((obeyed _ _ found).writing awaits touches transacts)
  | publishes found awaits touches granted autocommits =>
    apply obeyed.resume rfl
    have before := obeyed _ _ found
    simp_all [Session.Obeys, Program.obeys_effect]

end

/-! ### The store behind a handler -/

/-- The rows of the store are part of the state of a handler, as far as some
of its effects go. -/
structure RowStore.Behind (store : RowStore S K V) [DecidableEq K]
    (H : Handler S σ) (rows : σ → Rows K V) (among : S.Op → Prop) : Prop where
  reply : ∀ op, among op → ∀ state, (H.act op state).1 =
    match store.access op with
    | .read key _ => store.reply op (rows state key)
    | _ => store.reply op none
  rows : ∀ op, among op → ∀ state, rows (H.act op state).2 =
    match store.access op with
    | .write key row => Function.update (rows state) key (some row)
    | _ => rows state

/-- A program alone on the store is the program run by the handler. -/
theorem RowStore.alone_eq_exec [DecidableEq K] {store : RowStore S K V}
    {H : Handler S σ} {rows : σ → Rows K V} {among : S.Op → Prop}
    (behind : store.Behind H rows among) {program : Program S ε α}
    (uses : program.Uses among) (state : σ) :
    store.alone program (rows state) =
      ((H.exec program [] state).1, rows (H.exec program [] state).2) := by
  induction program generalizing state with
  | pure value => rfl
  | throw error => rfl
  | call op next ih =>
    have reply := behind.reply op uses.1 state
    have after := behind.rows op uses.1 state
    have onward := ih (.ok (H.act op state).1) (uses.2 _) (H.act op state).2
    show _ = ((H.exec (next (.ok (H.act op state).1)) [] (H.act op state).2).1,
      rows (H.exec (next (.ok (H.act op state).1)) [] (H.act op state).2).2)
    rw [← onward, RowStore.alone]
    grind

end Effects
