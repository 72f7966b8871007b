/-
Module: MarketX.Effects.Dialogues
Purpose: Programs whose next effect depends on what they have seen, each with
  a phase that remembers it, also across effects that fail; pools of such
  programs, and the invariants of their states and phases.
Trusted boundary: none
Main exports: Dialogue, Program.Speaks, speaks_bind, speaks_perform_bind
-/
import MarketX.Effects.Interleaving
import MarketX.Effects.Runs

namespace Effects

variable {S : Signature} {σ ε α β ι κ γ : Type}

/-- The phases of a program: where it starts, what it may do in a phase after
what it has done, where an effect on a state leads that acts, or that throws,
and in which phases the program may end. -/
structure Dialogue (S : Signature) (σ γ : Type) where
  start : γ
  allows : Past S σ → γ → S.Op → Prop
  acted : γ → S.Op → σ → γ
  failed : γ → S.Op → σ → γ
  ends : γ → Prop

/-- Whatever states its effects meet and whichever of them throw, each effect
of the program is allowed in the phase it comes in, and the program ends as
`post` says. -/
def Program.Speaks (H : Handler S σ) (dialogue : Dialogue S σ γ) :
    Program S ε α → (Except ε α → Past S σ → γ → Prop) → Past S σ → γ → Prop
  | .pure value, post, past, phase => post (.ok value) past phase
  | .throw error, post, past, phase => post (.error error) past phase
  | .call op next, post, past, phase =>
    dialogue.allows past phase op ∧ ∀ met, Speaks H dialogue (next (.ok (H.act op met).1)) post
          ((op, met) :: past) (dialogue.acted phase op met) ∧ (H.mayFail op = true → ∀ error,
          Speaks H dialogue (next (.error error)) post ((op, met) :: past)
            (dialogue.failed phase op met))

section

variable {H : Handler S σ} {dialogue : Dialogue S σ γ} {past : Past S σ} {phase : γ}

variable {post : Except ε α → Past S σ → γ → Prop} {op : S.Op}

theorem Program.Speaks.mono {program : Program S ε α} {post' : Except ε α → Past S σ → γ → Prop}
    (speaks : program.Speaks H dialogue post past phase)
    (weaker : ∀ result past phase, post result past phase → post' result past phase) :
    program.Speaks H dialogue post' past phase := by
  induction program generalizing past phase with
  | pure value => exact weaker _ _ _ speaks
  | throw error => exact weaker _ _ _ speaks
  | call op next ih =>
    obtain ⟨allowed, continues⟩ := speaks
    refine ⟨allowed, fun met => ⟨?_, fun fails error => ?_⟩⟩
    · exact ih _ (continues met).1
    · exact ih _ ((continues met).2 fails error)

/-- The second half of a sequence starts in the phase the first one leads to,
and an exception of the first half is that of the whole. -/
def thenSpeaks (H : Handler S σ) (dialogue : Dialogue S σ γ)
    (rest : α → Program S ε β) (post : Except ε β → Past S σ → γ → Prop) :
    Except ε α → Past S σ → γ → Prop
  | .ok value, past, phase =>
    (rest value).Speaks H dialogue post past phase
  | .error error, past, phase => post (.error error) past phase

theorem speaks_bind {first : Program S ε α} {rest : α → Program S ε β}
    {post : Except ε β → Past S σ → γ → Prop}
    (speaks : first.Speaks H dialogue (thenSpeaks H dialogue rest post) past phase) :
    (first >>= rest).Speaks H dialogue post past phase := by
  induction first generalizing past phase with
  | pure value => exact speaks
  | throw error => exact speaks
  | call op next ih =>
    obtain ⟨allowed, continues⟩ := speaks
    refine ⟨allowed, fun met => ⟨?_, fun fails error => ?_⟩⟩
    · exact ih _ (continues met).1
    · exact ih _ ((continues met).2 fails error)

theorem speaks_perform {post : Except ε (S.Reply op) → Past S σ → γ → Prop}
    (allowed : dialogue.allows past phase op)
    (acted : ∀ met, post (.ok (H.act op met).1) ((op, met) :: past) (dialogue.acted phase op met))
    (failed : H.mayFail op = true → ∀ met error, post (.error error) ((op, met) :: past)
        (dialogue.failed phase op met)) :
    (Program.perform op : Program S ε (S.Reply op)).Speaks H dialogue post
      past phase :=
  ⟨allowed, fun met => ⟨acted met, fun fails => failed fails met⟩⟩

/-- The rule for an effect in front of the rest of a program. -/
theorem speaks_perform_bind {rest : S.Reply op → Program S ε α}
    (allowed : dialogue.allows past phase op)
    (acted : ∀ met, (rest (H.act op met).1).Speaks H dialogue post
      ((op, met) :: past) (dialogue.acted phase op met))
    (failed : H.mayFail op = true → ∀ met error, post (.error error) ((op, met) :: past)
        (dialogue.failed phase op met)) :
    (Program.perform op >>= rest).Speaks H dialogue post past phase :=
  speaks_bind (speaks_perform allowed acted failed)

theorem speaks_attempt {body : Program S ε α} {post : Except ε (Except ε α) → Past S σ → γ → Prop}
    (speaks : body.Speaks H dialogue
      (fun outcome past phase => post (.ok outcome) past phase) past phase) :
    body.attempt.Speaks H dialogue post past phase := by
  induction body generalizing past phase with
  | pure value => exact speaks
  | throw error => exact speaks
  | call op next ih =>
    obtain ⟨allowed, continues⟩ := speaks
    refine ⟨allowed, fun met => ⟨?_, fun fails error => ?_⟩⟩
    · exact ih _ (continues met).1
    · exact ih _ ((continues met).2 fails error)

theorem speaks_branch (test : Prop) [Decidable test] {yes no : Program S ε α}
    (taken : test → yes.Speaks H dialogue post past phase)
    (skipped : ¬ test → no.Speaks H dialogue post past phase) :
    (if test then yes else no).Speaks H dialogue post past phase := by grind

end

/-! ### Pools -/

/-- The threads of a pool, each with its phase. -/
abbrev Cast (S : Signature) (σ ε ι γ : Type) := List (Thread S σ ε ι × γ)

section

variable {front back : List α} {role : α}

/-- With one role replaced, the others are those of before. -/
theorem mem_replaced {new : α} (member : role ∈ front ++ new :: back) :
    role = new ∨ role ∈ front ++ back := by grind

theorem mem_of_others (member : role ∈ front ++ back) (here : α) :
    role ∈ front ++ here :: back := by grind

theorem countP_replaced (counts : α → Bool) (front back : List α) (here : α) :
    (front ++ here :: back).countP counts =
      (front ++ back).countP counts + if counts here then 1 else 0 := by grind

theorem others_not_counted {counts : α → Bool} {here : α}
    (one : (front ++ here :: back).countP counts ≤ 1) (counted : counts here = true) :
    ∀ other ∈ front ++ back, counts other = false := by
  rw [countP_replaced, if_pos counted] at one
  grind

end

section

variable (H : Handler S σ) (program : ι → Program S ε Unit)
  (change : κ → σ → σ) (dialogue : ι → Dialogue S σ γ)

/-- A thread goes on from its phase. -/
def Thread.Speaks (thread : Thread S σ ε ι) (phase : γ) : Prop :=
  thread.rest.Speaks H (dialogue thread.name)
    (fun _ _ => (dialogue thread.name).ends) thread.past phase

/-- The cast lists the threads of the pool, and each goes on from its
phase. -/
structure Pool.Spoken (pool : Pool S σ ε ι) (cast : Cast S σ ε ι γ) :
    Prop where
  threads : pool.threads = cast.map Prod.fst
  speaks : ∀ role ∈ cast, role.1.Speaks H dialogue role.2

/-- What a turn makes of a state and a cast. -/
inductive Pool.Spoke (pool : Pool S σ ε ι) (cast : Cast S σ ε ι γ) :
    Turn ε ι κ → σ → Cast S σ ε ι γ → Prop where
  | stays {turn : Turn ε ι κ} : Spoke pool cast turn pool.state cast
  | spawns {name : ι} :
      Spoke pool cast (.spawn name) pool.state
        (cast ++ [(⟨name, [], program name⟩, (dialogue name).start)])
  | changes {input : κ} :
      Spoke pool cast (.outside input) (change input pool.state) cast
  | acts {turn : Turn ε ι κ} {front back : Cast S σ ε ι γ}
      {thread : Thread S σ ε ι} {phase : γ} {op : S.Op} {rest : Program S ε Unit}
      (split : cast = front ++ (thread, phase) :: back)
      (moves : pool.mover? turn = some (thread, op))
      (allowed : (dialogue thread.name).allows thread.past phase op)
      (acts : H.acts op turn.fault? = true) :
      Spoke pool cast turn (H.act op pool.state).2 (front ++ (thread.answered op pool.state rest,
            (dialogue thread.name).acted phase op pool.state) :: back)
  | fails {turn : Turn ε ι κ} {front back : Cast S σ ε ι γ}
      {thread : Thread S σ ε ι} {phase : γ} {op : S.Op} {error : ε} {rest : Program S ε Unit}
      (split : cast = front ++ (thread, phase) :: back)
      (moves : pool.mover? turn = some (thread, op))
      (allowed : (dialogue thread.name).allows thread.past phase op)
      (exposed : H.mayFail op = true) (throws : turn.fault? = some error) :
      Spoke pool cast turn pool.state (front ++ (thread.answered op pool.state rest,
            (dialogue thread.name).failed phase op pool.state) :: back)

variable {H program change dialogue}

variable {pool : Pool S σ ε ι} {cast : Cast S σ ε ι γ}

theorem Pool.Spoken.replace {state : σ} {front back : Cast S σ ε ι γ} {old : Thread S σ ε ι × γ}
    (spoken : pool.Spoken H dialogue (front ++ old :: back))
    (new : Thread S σ ε ι × γ) (speaks : new.1.Speaks H dialogue new.2) :
    Pool.Spoken H dialogue ⟨state, pool.threads.set front.length new.1⟩ (front ++ new :: back) := by
  constructor
  · simp [spoken.threads]
  · intro role member
    grind [speaks]

/-- The thread whose turn it is goes on from its phase: its effect acts, or
it throws. -/
theorem Pool.Spoken.moves (program : ι → Program S ε Unit) (change : κ → σ → σ)
    (spoken : pool.Spoken H dialogue cast) {turn : Turn ε ι κ} {thread : Thread S σ ε ι} {op : S.Op}
    (moves : pool.mover? turn = some (thread, op)) :
    ∃ front phase back rest, cast = front ++ (thread, phase) :: back ∧
      (dialogue thread.name).allows thread.past phase op ∧ ((H.acts op turn.fault? = true ∧
            (pool.step H program change turn).state = (H.act op pool.state).2 ∧
            (pool.step H program change turn).Spoken H dialogue
              (front ++ (thread.answered op pool.state rest,
                (dialogue thread.name).acted phase op pool.state) :: back)) ∨
          (H.acts op turn.fault? = false ∧ (pool.step H program change turn).state = pool.state ∧
            (pool.step H program change turn).Spoken H dialogue
              (front ++ (thread.answered op pool.state rest,
                (dialogue thread.name).failed phase op pool.state) :: back))) := by
  cases turn with
  | spawn name => cases moves
  | outside input => cases moves
  | perform index fault =>
    obtain ⟨found, next, rest⟩ : pool.threads[index]? = some thread ∧
        ∃ next, thread.rest = .call op next := by
      cases found : pool.threads[index]? with
      | none => simp [Pool.mover?, found] at moves
      | some other => cases rest : other.rest <;> grind [Pool.mover?, Program.next?]
    obtain ⟨phase, listed⟩ : ∃ phase, cast[index]? = some (thread, phase) := by
      simpa [spoken.threads] using found
    obtain ⟨bound, here⟩ := List.getElem?_eq_some_iff.mp listed
    obtain ⟨front, back, split, length⟩ :
        ∃ front back, cast = front ++ (thread, phase) :: back ∧ front.length = index := by
      refine ⟨cast.take index, cast.drop (index + 1), ?_, ?_⟩
      · rw [← here, ← List.drop_eq_getElem_cons bound, List.take_append_drop]
      · rw [List.length_take]
        omega
    subst split length
    have speaks := spoken.speaks (thread, phase) (by simp)
    rw [Thread.Speaks, rest] at speaks
    obtain ⟨allowed, continues⟩ := speaks
    obtain ⟨acted, failed⟩ := continues pool.state
    have stepped : pool.step H program change (.perform front.length fault) =
        ⟨(H.perform op fault pool.state).2, pool.threads.set front.length
          (thread.answered op pool.state (next (H.perform op fault pool.state).1))⟩ := by
      simp only [Pool.step, found, Thread.advance, rest, Thread.answered]
    rw [stepped]
    by_cases acts : H.acts op fault = true
    · have done : H.perform op fault pool.state =
          (.ok (H.act op pool.state).1, (H.act op pool.state).2) := by
        rcases Handler.acts_cases acts with rfl | spared
        · rfl
        · cases fault <;> simp [Handler.perform, spared]
      rw [done]
      exact ⟨front, phase, back, _, rfl, allowed, .inl ⟨acts, rfl,
        spoken.replace (thread.answered op pool.state _, _) acted⟩⟩
    · obtain ⟨error, rfl⟩ : ∃ error, fault = some error := by
        cases fault with
        | none => exact absurd rfl acts
        | some error => exact ⟨error, rfl⟩
      have fails : H.mayFail op = true := by simpa [Handler.acts] using acts
      have done : H.perform op (some error) pool.state = (.error error, pool.state) := if_pos fails
      rw [done]
      exact ⟨front, phase, back, _, rfl, allowed, .inr ⟨Bool.eq_false_iff.mpr acts, rfl,
          spoken.replace (thread.answered op pool.state _, _) (failed fails error)⟩⟩

/-- Without a mover a turn of a thread changes nothing. -/
theorem Pool.step_idle {index : ℕ} {fault : Option ε}
    (idle : pool.mover? (.perform index fault : Turn ε ι κ) = none) :
    pool.step H program change (.perform index fault) = pool := by
  cases found : pool.threads[index]? with
  | none => simp only [Pool.step, found]
  | some thread =>
    obtain ⟨bound, here⟩ := List.getElem?_eq_some_iff.mp found
    have same : pool.threads.set index thread = pool.threads := by
      rw [← here, List.set_getElem_self]
    cases rest : thread.rest <;> simp_all [Pool.step, Thread.advance, Pool.mover?, Program.next?]

/-- Every turn moves the cast along its dialogues. -/
theorem Pool.Spoken.step (spoken : pool.Spoken H dialogue cast)
    (spawned : ∀ name, (program name).Speaks H (dialogue name)
      (fun _ _ => (dialogue name).ends) [] (dialogue name).start) (turn : Turn ε ι κ) :
    ∃ after, Pool.Spoke H program change dialogue pool cast turn
        (pool.step H program change turn).state after ∧
      (pool.step H program change turn).Spoken H dialogue after := by
  cases turn with
  | outside input => exact ⟨cast, .changes, spoken.threads, spoken.speaks⟩
  | spawn name =>
    refine ⟨_, .spawns, ?_, ?_⟩
    · simp [Pool.step, spoken.threads]
    · intro role member
      rcases List.mem_append.mp member with old | new
      · exact spoken.speaks role old
      · rw [List.mem_singleton.mp new]
        exact spawned name
  | perform index fault =>
    cases mover : pool.mover? (.perform index fault : Turn ε ι κ) with
    | none =>
      rw [Pool.step_idle mover]
      exact ⟨cast, .stays, spoken⟩
    | some moving =>
      obtain ⟨thread, op⟩ := moving
      obtain ⟨front, phase, back, rest, rfl, allowed,
        ⟨acts, state, after⟩ | ⟨throws, state, after⟩⟩ := spoken.moves program change mover
      · rw [state]
        exact ⟨_, .acts rfl mover allowed acts, after⟩
      · rw [state]
        obtain ⟨exposed, error, fault⟩ : H.mayFail op = true ∧ ∃ error, fault = some error := by
          cases fault with
          | none => cases throws
          | some error => simp_all [Handler.acts]
        exact ⟨_, .fails rfl mover allowed exposed fault, after⟩

/-- What every turn of a pool keeps that meets the condition holds at the end
of every run whose turns meet it. -/
theorem Pool.spoken_invariant (invariant : σ → Cast S σ ε ι γ → Prop)
    {condition : Pool S σ ε ι → Turn ε ι κ → Prop}
    (spawned : ∀ name, (program name).Speaks H (dialogue name)
      (fun _ _ => (dialogue name).ends) [] (dialogue name).start)
    (preserved : ∀ pool cast turn state after,
      pool.Spoken H dialogue cast → invariant pool.state cast → condition pool turn →
          Pool.Spoke H program change dialogue pool cast turn state after → invariant state after)
    {start : σ} (initially : invariant start []) {turns : List (Turn ε ι κ)}
    (along : Along (Pool.step H program change) condition ⟨start, []⟩ turns) :
    ∃ cast, (run (Pool.step H program change) ⟨start, []⟩ turns).Spoken H dialogue cast ∧
      invariant (run (Pool.step H program change) ⟨start, []⟩ turns).state
        cast := by
  have steps : ∀ pool turn, (∃ cast, pool.Spoken H dialogue cast ∧ invariant pool.state cast) →
        condition pool turn → ∃ cast, (pool.step H program change turn).Spoken H dialogue cast ∧
            invariant (pool.step H program change turn).state cast := by
    rintro pool turn ⟨cast, spoken, holds⟩ met
    obtain ⟨after, spoke, spokenAfter⟩ := spoken.step spawned turn
    exact ⟨after, spokenAfter, preserved _ _ _ _ _ spoken holds met spoke⟩
  exact run_invariant steps ⟨[], ⟨rfl, nofun⟩, initially⟩ along

end

end Effects
