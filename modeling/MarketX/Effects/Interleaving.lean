/-
Module: MarketX.Effects.Interleaving
Purpose: Several programs running at once on one state, one effect at a time
  in any order: the rely-guarantee calculus for the single programs, and pools
  of programs that follow a protocol from phase to phase.
Trusted boundary: none
Main exports: Thread, Pool, Turn, Pool.step, Protocol, Program.Follows, follows_bind
-/
import Mathlib.Algebra.Order.BigOperators.Group.List
import Mathlib.Tactic.Abel
import MarketX.Effects.Program

namespace Effects

variable {S : Signature} {σ ε α β ι κ : Type}

/-! ### Pools of threads -/

/-- What a thread has done: its effects, the latest first, each with the
state it met. -/
abbrev Past (S : Signature) (σ : Type) := List (S.Op × σ)

/-- A call under way: its name, what it has done, and what is left of its
program. -/
structure Thread (S : Signature) (σ ε ι : Type) where
  name : ι
  past : Past S σ
  rest : Program S ε Unit

/-- The shared state and the calls under way. -/
structure Pool (S : Signature) (σ ε ι : Type) where
  state : σ
  threads : List (Thread S σ ε ι)

/-- What the scheduler decides: to start a call, to let one perform its next
effect, which may throw, or to let the surroundings change. -/
inductive Turn (ε ι κ : Type) where
  | spawn (name : ι)
  | perform (index : ℕ) (fault : Option ε)
  | outside (change : κ)

/-- The next effect of a thread, on the current state. -/
def Thread.advance (H : Handler S σ) (thread : Thread S σ ε ι)
    (fault : Option ε) (state : σ) : Thread S σ ε ι × σ :=
  match thread.rest with
  | .call op next =>
    let done := H.perform op fault state
    ({ thread with past := (op, state) :: thread.past, rest := next done.1 }, done.2)
  | _ => (thread, state)

/-- What the effect of this turn is to throw. -/
def Turn.fault? : Turn ε ι κ → Option ε
  | .perform _ fault => fault
  | _ => none

def Pool.step (H : Handler S σ) (program : ι → Program S ε Unit)
    (change : κ → σ → σ) (pool : Pool S σ ε ι) : Turn ε ι κ → Pool S σ ε ι
  | .spawn name =>
    { pool with threads := pool.threads ++ [⟨name, [], program name⟩] }
  | .perform index fault =>
    match pool.threads[index]? with
    | none => pool
    | some thread =>
      let moved := thread.advance H fault pool.state
      { state := moved.2, threads := pool.threads.set index moved.1 }
  | .outside input => { pool with state := change input pool.state }

/-- The thread whose turn it is, and the effect it performs. -/
def Pool.mover? (pool : Pool S σ ε ι) :
    Turn ε ι κ → Option (Thread S σ ε ι × S.Op)
  | .perform index _ => do
      let thread ← pool.threads[index]?
      let op ← thread.rest.next?
      pure (thread, op)
  | _ => none

/-- The effect acts instead of throwing. -/
def Handler.acts (H : Handler S σ) (op : S.Op) (fault : Option ε) : Bool :=
  fault.isNone || !H.mayFail op

theorem Handler.acts_cases {H : Handler S σ} {op : S.Op} {fault : Option ε}
    (acts : H.acts op fault = true) : fault = none ∨ H.mayFail op = false := by
  simp_all [Handler.acts]

/-! ### The calculus -/

/-- How a thread and the others get along.  While a thread that has done
`past` waits to perform an effect, the others change the state within
`rely`; what holds of the state its effect acts on by the way the threads
are scheduled, it `presumes`; and what it promises of the state its effect
meets, it `ensures`. -/
structure Contract (S : Signature) (σ : Type) where
  rely : Past S σ → S.Op → σ → σ → Prop
  presumes : Past S σ → S.Op → σ → Prop
  ensures : Past S σ → S.Op → σ → Prop
  rely_refl : ∀ past op state, rely past op state state
  rely_trans : ∀ {past op first second third}, rely past op first second →
    rely past op second third → rely past op first third

/-- Every effect of the program keeps the contract, and every execution that
ends, ends in `post`, whatever fails and whatever the other threads do. -/
def rg (H : Handler S σ) (contract : Contract S σ) :
    Program S ε α → (Except ε α → Past S σ → σ → Prop) → Past S σ → σ → Prop
  | .pure value, post, past, state => post (.ok value) past state
  | .throw error, post, past, state => post (.error error) past state
  | .call op next, post, past, state =>
    ∀ met, contract.rely past op state met → contract.ensures past op met ∧
        (contract.presumes past op met → rg H contract (next (.ok (H.act op met).1)) post
            ((op, met) :: past) (H.act op met).2) ∧ (H.mayFail op = true → ∀ error,
          rg H contract (next (.error error)) post ((op, met) :: past) met)

section

variable {H : Handler S σ} {contract : Contract S σ}

variable {program : Program S ε α} {post : Except ε α → Past S σ → σ → Prop} {past : Past S σ}
  {state : σ} {op : S.Op}

theorem rg_mono
    {post' : Except ε α → Past S σ → σ → Prop} (holds : rg H contract program post past state)
    (weaker : ∀ result past state, post result past state → post' result past state) :
    rg H contract program post' past state := by
  induction program generalizing past state with
  | pure value => exact weaker _ _ _ holds
  | throw error => exact weaker _ _ _ holds
  | call op next ih =>
    intro met relied
    obtain ⟨ensured, after, failed⟩ := holds met relied
    simp_all

/-- The postcondition the first half of a sequence has to reach. -/
def andThenAt (rest : α → Past S σ → σ → Prop) (post : Except ε β → Past S σ → σ → Prop) :
    Except ε α → Past S σ → σ → Prop
  | .ok value, past, state => rest value past state
  | .error error, past, state => post (.error error) past state

@[simp] theorem andThenAt_ok (rest : α → Past S σ → σ → Prop)
    (post : Except ε β → Past S σ → σ → Prop) (value : α) (past : Past S σ) (state : σ) :
    andThenAt rest post (.ok value) past state = rest value past state := rfl

@[simp] theorem andThenAt_error (rest : α → Past S σ → σ → Prop)
    (post : Except ε β → Past S σ → σ → Prop) (error : ε) (past : Past S σ) (state : σ) :
    andThenAt rest post (.error error) past state =
      post (.error error) past state := rfl

@[simp] theorem rg_pure (value : α)
    (post : Except ε α → Past S σ → σ → Prop) (past : Past S σ) (state : σ) :
    rg H contract (pure value : Program S ε α) post past state =
      post (.ok value) past state := rfl

@[simp] theorem rg_throw (error : ε)
    (post : Except ε α → Past S σ → σ → Prop) (past : Past S σ) (state : σ) :
    rg H contract (throw error : Program S ε α) post past state =
      post (.error error) past state := rfl

@[simp] theorem rg_bind (first : Program S ε α)
    (rest : α → Program S ε β) (post : Except ε β → Past S σ → σ → Prop)
    (past : Past S σ) (state : σ) :
    rg H contract (first >>= rest) post past state = rg H contract first
        (andThenAt (fun value => rg H contract (rest value) post) post)
        past state := by
  show rg H contract (first.bind rest) post past state = _
  induction first generalizing past state <;> simp_all [Program.bind, rg]

@[simp] theorem rg_attempt (body : Program S ε α)
    (post : Except ε (Except ε α) → Past S σ → σ → Prop) (past : Past S σ) (state : σ) :
    rg H contract body.attempt post past state =
      rg H contract body (fun outcome => post (.ok outcome)) past state := by
  induction body generalizing past state <;> simp_all [Program.attempt, rg]

/-- Dropping the returned value leaves nothing else to keep. -/
theorem rg_discard (holds : rg H contract program (fun _ _ _ => True) past state) :
    rg H contract (program >>= fun _ => (pure () : Program S ε Unit))
      (fun _ _ _ => True) past state := by
  rw [rg_bind]
  apply rg_mono holds
  intro result later after _
  cases result <;> trivial

theorem rg_perform {post : Except ε (S.Reply op) → Past S σ → σ → Prop}
    (holds : ∀ met, contract.rely past op state met → contract.ensures past op met ∧
        (contract.presumes past op met →
          post (.ok (H.act op met).1) ((op, met) :: past) (H.act op met).2) ∧
        ∀ error, post (.error error) ((op, met) :: past) met) :
    rg H contract (Program.perform op) post past state := by
  intro met relied
  obtain ⟨ensured, acted, failed⟩ := holds met relied
  exact ⟨ensured, acted, fun _ => failed⟩

/-- The loop rule, with an invariant indexed by the elements to come. -/
theorem rg_foldlM {body : β → α → Program S ε β} {items : List α} {acc : β}
    {post : Except ε β → Past S σ → σ → Prop}
    (invariant : List α → β → σ → Prop) (start : invariant items acc state)
    (iteration : ∀ head tail acc past current, invariant (head :: tail) acc current →
        rg H contract (body acc head)
          (andThenAt (fun next _ => invariant tail next) post) past current)
    (finish : ∀ acc past current, invariant [] acc current → post (.ok acc) past current) :
    rg H contract (items.foldlM body acc) post past state := by
  induction items generalizing acc past state with
  | nil => exact finish acc past state start
  | cons head tail ih =>
    rw [List.foldlM_cons, rg_bind]
    apply rg_mono (iteration head tail acc past state start)
    intro result past after reached
    cases result <;> simp_all

/-- A relation that the rely and every effect stay within relates the first
state to the last. -/
theorem rg_within {relation : σ → σ → Prop} [IsPreorder σ relation]
    (relied : ∀ {past op state met}, contract.rely past op state met → relation state met)
    (acted : ∀ {past op met}, contract.ensures past op met →
      contract.presumes past op met → relation met
    (H.act op met).2) (holds : rg H contract program post past state) :
    rg H contract program (fun result past after => post result past after ∧ relation state after)
      past state := by
  have moved : ∀ {start}, relation start state → rg H contract program (fun result past after =>
        post result past after ∧ relation start after) past state := by
    induction program generalizing past state with
    | pure value => exact fun reached => ⟨holds, reached⟩
    | throw error => exact fun reached => ⟨holds, reached⟩
    | call op next ih =>
      intro start reached met here
      obtain ⟨ensured, after, failed⟩ := holds met here
      have reachedMet := trans_of relation reached (relied here)
      exact ⟨ensured, fun presumed => ih _ (after presumed)
          (trans_of relation reachedMet (acted ensured presumed)), fun fails error =>
          ih _ (failed fails error) reachedMet⟩
  exact moved (refl_of relation state)

/-- A program whose effects are all of a kind that the contract asks nothing
of keeps it, and adds only such effects to the past. -/
theorem rg_of_uses {among : S.Op → Prop}
    (ensured : ∀ past op met, among op → contract.ensures past op met) (uses : program.Uses among)
    (past : Past S σ) (state : σ) :
    rg H contract program (fun _ later _ => ∃ added, later = added ++ past ∧
        ∀ entry ∈ added, among entry.1) past state := by
  induction program generalizing past state with
  | pure value => exact ⟨[], rfl, nofun⟩
  | throw error => exact ⟨[], rfl, nofun⟩
  | call op next ih =>
    have extended : ∀ met reply after, rg H contract (next reply)
          (fun _ later _ => ∃ added, later = added ++ past ∧
            ∀ entry ∈ added, among entry.1) ((op, met) :: past) after := by
      intro met reply after
      apply rg_mono (ih reply (uses.2 reply) _ after)
      rintro _ later _ ⟨added, rfl, each⟩
      refine ⟨added ++ [(op, met)], by simp, ?_⟩
      intro entry member
      rcases List.mem_append.mp member with earlier | here
      · exact each entry earlier
      · rw [List.mem_singleton.mp here]
        exact uses.1
    intro met relied
    exact ⟨ensured past op met uses.1, fun _ => extended met _ _, fun _ error => extended met _ _⟩

/-- Interference within the rely of the next effect does no harm. -/
theorem rg_stable {next : Except ε (S.Reply op) → Program S ε α} {met : σ}
    (holds : rg H contract (.call op next) post past state)
    (relied : contract.rely past op state met) :
    rg H contract (.call op next) post past met :=
  fun later relied' => holds later (contract.rely_trans relied relied')

end

/-! ### Sound pools -/

section

variable {H : Handler S σ} {program : ι → Program S ε Unit} {contract : ι → Contract S σ}

/-- A thread keeps its contract to the end. -/
def Thread.Sound (H : Handler S σ) (contract : ι → Contract S σ) (state : σ)
    (thread : Thread S σ ε ι) : Prop :=
  rg H (contract thread.name) thread.rest (fun _ _ _ => True) thread.past state

/-- All threads of the pool keep theirs. -/
def Pool.Sound (H : Handler S σ) (contract : ι → Contract S σ) (pool : Pool S σ ε ι) : Prop :=
  ∀ thread ∈ pool.threads, thread.Sound H contract pool.state

/-- A change of the state that a thread relies on. -/
def Thread.Tolerates (contract : ι → Contract S σ) (thread : Thread S σ ε ι)
    (state after : σ) : Prop := ∀ op, thread.rest.next? = some op →
    (contract thread.name).rely thread.past op state after

variable {thread : Thread S σ ε ι} {state : σ} {op : S.Op} {pool : Pool S σ ε ι}

theorem Thread.Sound.tolerates {after : σ}
    (sound : thread.Sound H contract state) (tolerates : thread.Tolerates contract state after) :
    thread.Sound H contract after := by
  obtain ⟨name, past, rest⟩ := thread
  cases rest with
  | pure => trivial
  | throw => trivial
  | call op next => exact rg_stable sound (tolerates op rfl)

/-- A sound thread ensures what its contract says of its next effect. -/
theorem Thread.Sound.ensures
    (sound : thread.Sound H contract state) (awaits : thread.rest.next? = some op) :
    (contract thread.name).ensures thread.past op state := by
  obtain ⟨name, past, rest⟩ := thread
  cases rest with
  | pure => cases awaits
  | throw => cases awaits
  | call op next =>
    cases awaits
    exact (sound state ((contract name).rely_refl past op state)).1

theorem Thread.Sound.advance (sound : thread.Sound H contract state) (fault : Option ε)
    (presumed : ∀ op, thread.rest.next? = some op → H.acts op fault = true →
      (contract thread.name).presumes thread.past op state) :
    (thread.advance H fault state).1.Sound H contract (thread.advance H fault state).2 := by
  obtain ⟨name, past, rest⟩ := thread
  cases rest with
  | pure => exact sound
  | throw => exact sound
  | call op next =>
    obtain ⟨_, after, failed⟩ := sound state ((contract name).rely_refl past op state)
    have presumed := presumed op rfl
    simp only [Thread.advance, Handler.perform]
    cases fault with
    | none => exact after (presumed rfl)
    | some error =>
      by_cases fails : H.mayFail op = true
      · simp only [fails, if_true]
        exact failed fails error
      · simp only [fails]
        exact after (presumed (by simp [Handler.acts, fails]))

theorem Pool.Sound.ensures (sound : pool.Sound H contract) {turn : Turn ε ι κ}
    (moves : pool.mover? turn = some (thread, op)) :
    (contract thread.name).ensures thread.past op pool.state := by
  cases turn with
  | perform index fault =>
    simp only [Pool.mover?, Option.bind_eq_bind, Option.bind_eq_some_iff] at moves
    obtain ⟨moving, found, moved, awaits, same⟩ := moves
    cases same
    exact (sound thread (List.mem_of_getElem? found)).ensures awaits
  | spawn | outside => cases moves

theorem Handler.perform_state (H : Handler S σ) (op : S.Op) (fault : Option ε) (state : σ) :
    (H.perform op fault state).2 =
      if H.acts op fault then (H.act op state).2 else state := by
  unfold Handler.perform Handler.acts
  grind

/-- A turn leaves the state alone, lets the surroundings change it, or lets
the effect of one thread act on it. -/
theorem Pool.step_state_cases (H : Handler S σ)
    (program : ι → Program S ε Unit) (change : κ → σ → σ)
    (pool : Pool S σ ε ι) (turn : Turn ε ι κ) :
    (pool.step H program change turn).state = pool.state ∨ (∃ input, turn = .outside input ∧
        (pool.step H program change turn).state = change input pool.state) ∨
      ∃ index fault thread op, turn = .perform index fault ∧
        pool.mover? turn = some (thread, op) ∧ H.acts op fault = true ∧
        (pool.step H program change turn).state = (H.act op pool.state).2 := by
  cases turn with
  | spawn => exact .inl rfl
  | outside input => exact .inr (.inl ⟨input, rfl, rfl⟩)
  | perform index fault =>
    simp only [Pool.step, Pool.mover?]
    cases found : pool.threads[index]? with
    | none => exact .inl rfl
    | some thread =>
      obtain ⟨name, past, rest⟩ := thread
      cases rest with
      | pure => exact .inl rfl
      | throw => exact .inl rfl
      | call op next =>
        simp only [Thread.advance, Handler.perform_state]
        cases acts : H.acts op fault with
        | false => exact .inl rfl
        | true => exact .inr (.inr ⟨index, fault, _, op, rfl, rfl, acts, rfl⟩)

/-- A pool stays sound when every thread that does not move tolerates the
change, the thread that moves finds what it presumes, and every new thread
starts out sound. -/
theorem Pool.Sound.step {change : κ → σ → σ}
    (sound : pool.Sound H contract) (turn : Turn ε ι κ) (spawned : ∀ name,
      rg H (contract name) (program name) (fun _ _ _ => True) [] pool.state)
    (presumed : ∀ index fault thread op, turn = .perform index fault →
      pool.mover? turn = some (thread, op) → H.acts op fault = true →
        (contract thread.name).presumes thread.past op pool.state)
    (tolerated : ∀ other thread, pool.threads[other]? = some thread →
      (∀ fault, turn ≠ .perform other fault) → thread.Tolerates contract pool.state
          (pool.step H program change turn).state) :
    (pool.step H program change turn).Sound H contract := by
  cases turn with
  | spawn name =>
    intro thread member
    rcases List.mem_append.mp member with old | new
    · exact sound thread old
    · cases List.mem_singleton.mp new
      exact spawned name
  | outside input =>
    intro thread member
    obtain ⟨index, found⟩ := List.mem_iff_getElem?.mp member
    exact (sound thread member).tolerates (tolerated index thread found fun _ same => by cases same)
  | perform index fault =>
    unfold Pool.step at tolerated ⊢
    cases found : pool.threads[index]? with
    | none =>
      simp only [found] at tolerated ⊢
      exact sound
    | some moving =>
      simp only [found] at tolerated ⊢
      intro thread member
      obtain ⟨other, bound, rfl⟩ := List.mem_iff_getElem.mp member
      rw [List.length_set] at bound
      by_cases same : index = other
      · subst same
        rw [List.getElem_set_self]
        apply (sound moving (List.mem_of_getElem? found)).advance fault
        simp_all [Pool.mover?]
      · rw [List.getElem_set_ne same]
        have stays : pool.threads[other]? = some pool.threads[other] :=
          List.getElem?_eq_getElem bound
        apply (sound _ (List.getElem_mem bound)).tolerates
        grind

end

end Effects

namespace Effects

variable {S : Signature} {σ ε α β ι κ γ : Type}

/-- What a program may do in each phase, where each effect leads, and in
which phases the program may return. -/
structure Protocol (S : Signature) (γ : Type) where
  start : γ
  after : γ → S.Op → γ
  allows : γ → S.Op → Prop
  ends : γ → Prop

/-- Each effect of the program is allowed in the phase it comes in, an effect
that throws ends the program, and the program returns as `post` says. -/
def Program.Follows (protocol : Protocol S γ) :
    Program S ε α → (α → γ → Prop) → γ → Prop
  | .pure value, post, phase => post value phase
  | .throw _, _, _ => True
  | .call op next, post, phase =>
    protocol.allows phase op ∧ (∀ error, next (.error error) = .throw error) ∧
        ∀ reply, Follows protocol (next (.ok reply)) post (protocol.after phase op)

section

variable {protocol : Protocol S γ} {phase : γ}

theorem follows_bind {first : Program S ε α} {rest : α → Program S ε β} {post : β → γ → Prop}
    (follows : first.Follows protocol
      (fun value later => (rest value).Follows protocol post later) phase) :
    (first >>= rest).Follows protocol post phase := by
  induction first generalizing phase with
  | pure value => exact follows
  | throw error => trivial
  | call op next ih =>
    obtain ⟨allowed, bails, continues⟩ := follows
    refine ⟨allowed, fun error => ?_, fun reply => ih _ (continues reply)⟩
    show (next (.error error)).bind rest = .throw error
    rw [bails error]
    rfl

theorem follows_perform {op : S.Op} {post : S.Reply op → γ → Prop}
    (allowed : protocol.allows phase op)
    (continues : ∀ reply, post reply (protocol.after phase op)) :
    (Program.perform op : Program S ε (S.Reply op)).Follows protocol post
      phase :=
  ⟨allowed, fun _ => rfl, continues⟩

theorem follows_guard (test : Prop) [Decidable test] {error : ε}
    {rest : PUnit → Program S ε α} {post : α → γ → Prop}
    (continues : ¬ test → (rest ⟨⟩).Follows protocol post phase) :
    (if test then Program.throw error >>= rest else rest ⟨⟩).Follows protocol
      post phase := by
  split
  next => trivial
  next passed => exact continues passed

end

/-! ### Threads -/

def Program.returned : Program S ε α → Bool
  | .pure _ => true
  | _ => false

def Program.thrown : Program S ε α → Bool
  | .throw _ => true
  | _ => false

/-- The phase that a thread has reached. -/
def Protocol.phase (protocol : Protocol S γ) (past : Past S σ) : γ :=
  past.foldr (fun entry phase => protocol.after phase entry.1) protocol.start

def Thread.Follows (protocol : ι → Protocol S γ) (thread : Thread S σ ε ι) :
    Prop := thread.rest.Follows (protocol thread.name) (fun _ => (protocol thread.name).ends)
    ((protocol thread.name).phase thread.past)

def Pool.Follows (protocol : ι → Protocol S γ) (pool : Pool S σ ε ι) : Prop :=
  ∀ thread ∈ pool.threads, thread.Follows protocol

/-! ### Turns -/

/-- The thread after an effect that was answered so. -/
def Thread.answered (thread : Thread S σ ε ι) (op : S.Op) (state : σ)
    (rest : Program S ε Unit) : Thread S σ ε ι :=
  { thread with past := (op, state) :: thread.past, rest }

/-- What a turn makes of a pool. -/
inductive Pool.Moved (H : Handler S σ) (program : ι → Program S ε Unit)
    (change : κ → σ → σ) (pool : Pool S σ ε ι) :
    Turn ε ι κ → Pool S σ ε ι → Prop where
  | stays {turn : Turn ε ι κ} : Moved H program change pool turn pool
  | spawns {name : ι} :
      Moved H program change pool (.spawn name)
        ⟨pool.state, pool.threads ++ [⟨name, [], program name⟩]⟩
  | changes {input : κ} :
      Moved H program change pool (.outside input) ⟨change input pool.state, pool.threads⟩
  | acts {turn : Turn ε ι κ} {front back : List (Thread S σ ε ι)}
      {thread : Thread S σ ε ι} {op : S.Op} {next : Except ε (S.Reply op) → Program S ε Unit}
      (threads : pool.threads = front ++ thread :: back) (rest : thread.rest = .call op next)
      (moves : pool.mover? turn = some (thread, op)) (acts : H.acts op turn.fault? = true) :
      Moved H program change pool turn ⟨(H.act op pool.state).2, front ++
          thread.answered op pool.state (next (.ok (H.act op pool.state).1)) :: back⟩
  | fails {turn : Turn ε ι κ} {front back : List (Thread S σ ε ι)}
      {thread : Thread S σ ε ι} {op : S.Op} {error : ε}
      {next : Except ε (S.Reply op) → Program S ε Unit}
      (threads : pool.threads = front ++ thread :: back) (rest : thread.rest = .call op next) :
      Moved H program change pool turn ⟨pool.state, front ++
          thread.answered op pool.state (next (.error error)) :: back⟩

theorem Pool.step_moved (H : Handler S σ) (program : ι → Program S ε Unit)
    (change : κ → σ → σ) (pool : Pool S σ ε ι) (turn : Turn ε ι κ) :
    pool.Moved H program change turn (pool.step H program change turn) := by
  cases turn with
  | spawn name => exact .spawns
  | outside input => exact .changes
  | perform index fault =>
    cases found : pool.threads[index]? with
    | none =>
      simp only [Pool.step, found]
      exact .stays
    | some thread =>
      have threads : pool.threads = pool.threads.take index ++
            thread :: pool.threads.drop (index + 1) := by
        grind [List.drop_eq_getElem_cons, List.take_append_drop]
      have set : ∀ moved, pool.threads.set index moved = pool.threads.take index ++
            moved :: pool.threads.drop (index + 1) := by grind
      simp only [Pool.step, found, set]
      cases rest : thread.rest with
      | pure value =>
        simp only [Thread.advance, rest, ← threads]
        exact .stays
      | throw error =>
        simp only [Thread.advance, rest, ← threads]
        exact .stays
      | call op next =>
        have moves : pool.mover? (.perform index fault : Turn ε ι κ) =
            some (thread, op) := by simp [Pool.mover?, found, rest, Program.next?]
        simp only [Thread.advance, rest, Handler.perform]
        cases fault with
        | none => exact .acts threads rest moves rfl
        | some error =>
          by_cases fails : H.mayFail op = true
          · simp only [fails, if_true]
            exact .fails threads rest
          · simp only [fails]
            apply Moved.acts threads rest moves
            simp [Handler.acts, Turn.fault?, fails]

section

variable {H : Handler S σ} {program : ι → Program S ε Unit}
  {change : κ → σ → σ} {protocol : ι → Protocol S γ} {pool after : Pool S σ ε ι} {turn : Turn ε ι κ}

theorem Pool.Follows.moved (follows : pool.Follows protocol)
    (moved : pool.Moved H program change turn after)
    (spawned : ∀ name, (program name).Follows (protocol name)
      (fun _ => (protocol name).ends) (protocol name).start) :
    after.Follows protocol := by
  have replaced : ∀ {front back : List (Thread S σ ε ι)} {old new : Thread S σ ε ι} {state : σ},
        pool.threads = front ++ old :: back → new.Follows protocol →
          Pool.Follows protocol ⟨state, front ++ new :: back⟩ := by
    intro front back old new state threads here thread member
    rcases List.mem_append.mp member with before | member
    · exact follows thread (by simp [threads, before])
    rcases List.mem_cons.mp member with rfl | behind
    · exact here
    · exact follows thread (by simp [threads, behind])
  cases moved with
  | stays | changes => exact follows
  | @spawns name =>
    intro thread member
    rcases List.mem_append.mp member with old | new
    · exact follows thread old
    · cases List.mem_singleton.mp new
      exact spawned name
  | @acts _ front back thread op next threads rest moves acts =>
    have here := follows thread (by simp [threads])
    rw [Thread.Follows, rest] at here
    exact replaced threads (here.2.2 _)
  | @fails _ front back thread op error next threads rest =>
    have here := follows thread (by simp [threads])
    rw [Thread.Follows, rest] at here
    apply replaced threads
    rw [Thread.Follows, Thread.answered, here.2.1 error]
    trivial

end

/-! ### Sums over the threads -/

section

variable {pool : Pool S σ ε ι} {M : Type} [AddCommMonoid M]

/-- What the threads weigh together. -/
def Pool.tally (pool : Pool S σ ε ι) (weight : Thread S σ ε ι → M) : M :=
  (pool.threads.map weight).sum

theorem Pool.tally_replace (weight : Thread S σ ε ι → M) (state : σ)
    {front back : List (Thread S σ ε ι)} {old : Thread S σ ε ι}
    (threads : pool.threads = front ++ old :: back) (new : Thread S σ ε ι) :
    Pool.tally ⟨state, front ++ new :: back⟩ weight + weight old =
      pool.tally weight + weight new := by
  simp only [Pool.tally, threads, List.map_append, List.map_cons, List.sum_append, List.sum_cons]
  abel

theorem Pool.tally_spawn (weight : Thread S σ ε ι → M) (state : σ) (new : Thread S σ ε ι) :
    Pool.tally ⟨state, pool.threads ++ [new]⟩ weight = pool.tally weight + weight new := by
  simp [Pool.tally]

end

/-! ### Holdings -/

section

variable {M : Type} [AddCommMonoid M] [PartialOrder M]
  {protocol : ι → Protocol S γ} {weight : ι → γ → M} {pool : Pool S σ ε ι}

/-- What a thread holds in its phase; one that has thrown holds nothing. -/
def Thread.holding (protocol : ι → Protocol S γ) (weight : ι → γ → M)
    (thread : Thread S σ ε ι) : M :=
  if thread.rest.thrown then 0
  else weight thread.name ((protocol thread.name).phase thread.past)

theorem Thread.holding_nonneg (nonneg : ∀ name phase, 0 ≤ weight name phase)
    (thread : Thread S σ ε ι) : 0 ≤ thread.holding protocol weight := by grind [Thread.holding]

variable [IsOrderedAddMonoid M]

theorem Pool.holdings_nonneg (protocol : ι → Protocol S γ)
    (nonneg : ∀ name phase, 0 ≤ weight name phase) (pool : Pool S σ ε ι) :
    0 ≤ pool.tally (Thread.holding protocol weight) := by
  apply List.sum_nonneg
  intro value member
  obtain ⟨thread, _, rfl⟩ := List.mem_map.mp member
  exact thread.holding_nonneg nonneg

variable {front back : List (Thread S σ ε ι)} {thread : Thread S σ ε ι}

/-- With an effect that acts, a thread holds what belongs to the next phase,
or nothing. -/
theorem Pool.holdings_acts (protocol : ι → Protocol S γ)
    (nonneg : ∀ name phase, 0 ≤ weight name phase) {op : S.Op}
    {next : Except ε (S.Reply op) → Program S ε Unit}
    (threads : pool.threads = front ++ thread :: back)
    (rest : thread.rest = .call op next) (met state : σ) (continued : Program S ε Unit) :
    Pool.tally ⟨state, front ++ thread.answered op met continued :: back⟩
          (Thread.holding protocol weight) +
        weight thread.name ((protocol thread.name).phase thread.past) ≤
      pool.tally (Thread.holding protocol weight) + weight thread.name ((protocol thread.name).after
          ((protocol thread.name).phase thread.past) op) := by
  have before : thread.holding protocol weight =
      weight thread.name ((protocol thread.name).phase thread.past) := by
    simp [Thread.holding, rest, Program.thrown]
  have moved : (thread.answered op met continued).holding protocol weight ≤
      weight thread.name ((protocol thread.name).after
        ((protocol thread.name).phase thread.past) op) := by
    unfold Thread.holding
    split
    next => exact nonneg _ _
    next => exact le_rfl
  rw [← before, Pool.tally_replace _ _ threads]
  gcongr

theorem Pool.holdings_fails (protocol : ι → Protocol S γ)
    (nonneg : ∀ name phase, 0 ≤ weight name phase)
    (threads : pool.threads = front ++ thread :: back) (op : S.Op) (met state : σ) (error : ε) :
    Pool.tally ⟨state, front ++ thread.answered op met (.throw error) :: back⟩
        (Thread.holding protocol weight) ≤
      pool.tally (Thread.holding protocol weight) := by
  have nothing : (thread.answered op met (.throw error)).holding protocol weight = 0 := rfl
  have replaced := Pool.tally_replace (Thread.holding protocol weight) state
    threads (thread.answered op met (.throw error))
  rw [nothing, add_zero] at replaced
  rw [← replaced]
  exact le_add_of_nonneg_right (thread.holding_nonneg nonneg)

end

end Effects
