/-
Module: MarketX.Effects.Traces
Purpose: Which effects an execution performs and which of them throw, with the
  calculus of weakest preconditions for it; and the loops in which each item is
  tried by itself, turn by turn.
Trusted boundary: none
Main exports: Handler.trace, Handler.trace_bind_ok, Handler.trace_attempt_bind
-/
import MarketX.Effects.Schedules

namespace Effects

namespace Program

variable {S : Signature} {ε α β : Type}

/-- No `try` in the program: what an effect throws, the program throws. -/
def Unguarded : Program S ε α → Prop
  | .pure _ | .throw _ => True
  | .call _ next => (∀ error, next (.error error) = .throw error) ∧
      ∀ reply, Unguarded (next (.ok reply))

theorem unguarded_perform (op : S.Op) :
    (perform op : Program S ε (S.Reply op)).Unguarded :=
  ⟨fun _ => rfl, fun _ => trivial⟩

theorem Unguarded.bind {first : Program S ε α} {rest : α → Program S ε β}
    (front : first.Unguarded) (back : ∀ value, (rest value).Unguarded) :
    (first >>= rest).Unguarded := by
  induction first with
  | pure value => exact back value
  | throw error => trivial
  | call op next ih =>
    refine ⟨fun error => ?_, fun reply => ih _ (front.2 reply)⟩
    show (next (.error error)).bind rest = .throw error
    rw [front.1]
    rfl

theorem Unguarded.foldlM {body : β → α → Program S ε β}
    (each : ∀ acc item, (body acc item).Unguarded) (items : List α)
    (acc : β) : (items.foldlM body acc).Unguarded := by
  induction items generalizing acc with
  | nil => trivial
  | cons head tail ih => exact (each acc head).bind ih

theorem Uses.foldlM {among : S.Op → Prop} {body : β → α → Program S ε β}
    (each : ∀ acc item, (body acc item).Uses among) (items : List α)
    (acc : β) : (items.foldlM body acc).Uses among := by
  induction items generalizing acc with
  | nil => trivial
  | cons head tail ih => exact (each acc head).bind ih

/-- The first effect of the program is that one, and every other is one of
those. -/
def Begins (op : S.Op) (among : S.Op → Prop) : Program S ε α → Prop
  | .call first next => first = op ∧ ∀ reply, (next reply).Uses among
  | _ => False

theorem begins_perform (op : S.Op) (among : S.Op → Prop) :
    (perform op : Program S ε (S.Reply op)).Begins op among := by
  refine ⟨rfl, fun reply => ?_⟩
  cases reply <;> trivial

theorem Begins.bind {op : S.Op} {among : S.Op → Prop}
    {first : Program S ε α} {rest : α → Program S ε β} (front : first.Begins op among)
    (back : ∀ value, (rest value).Uses among) :
    (first >>= rest).Begins op among := by
  cases first with
  | pure value => exact front.elim
  | throw error => exact front.elim
  | call op next => exact ⟨front.1, fun reply => (front.2 reply).bind back⟩

end Program

namespace Handler

variable {S : Signature} {σ ε α β : Type} (H : Handler S σ)

/-- The effects of an execution, oldest first, and whether each one threw. -/
def trace : Program S ε α → List (Option ε) → σ → List (S.Op × Bool)
  | .pure _, _, _ | .throw _, _, _ => []
  | .call op next, faults, state =>
    let done := H.perform op (faults.headD none) state
    (op, !done.1.isOk) :: trace (next done.1) faults.tail done.2

theorem trace_call (op : S.Op) (next : Except ε (S.Reply op) → Program S ε α)
    (faults : List (Option ε)) (state : σ) :
    H.trace (.call op next) faults state =
      (op, !(H.perform op (faults.headD none) state).1.isOk) ::
        H.trace (next (H.perform op (faults.headD none) state).1) faults.tail
          (H.perform op (faults.headD none) state).2 := rfl

variable {H}

variable {first program : Program S ε α} {rest : α → Program S ε β} {faults : List (Option ε)}
  {state : σ} {value : α} {error : ε} {among : S.Op → Prop} {op : S.Op}
  {post : Except ε α → σ → Prop} {γ : Type} {items : List α}

theorem trace_bind_ok (returns : (H.exec first faults state).1 = .ok value) :
    H.trace (first >>= rest) faults state = H.trace first faults state ++
        H.trace (rest value) (H.leftover first faults state) (H.exec first faults state).2 := by
  induction first generalizing faults state with
  | pure returned =>
    cases returns
    rfl
  | throw error => cases returns
  | call op next ih => exact congrArg (List.cons _) (ih _ returns)

theorem trace_bind_error (throws : (H.exec first faults state).1 = .error error) :
    H.trace (first >>= rest) faults state = H.trace first faults state := by
  induction first generalizing faults state with
  | pure returned => cases throws
  | throw thrown => rfl
  | call op next ih => exact congrArg (List.cons _) (ih _ throws)

/-- What follows a `try` is performed on the outcome. -/
theorem trace_attempt_bind {body : Program S ε α} {rest : Except ε α → Program S ε β} :
    H.trace (body.attempt >>= rest) faults state = H.trace body faults state ++
        H.trace (rest (H.exec body faults state).1)
          (H.leftover body faults state) (H.exec body faults state).2 := by
  induction body generalizing faults state with
  | pure value => rfl
  | throw error => rfl
  | call op next ih => exact congrArg (List.cons _) (ih _)

theorem trace_uses (uses : program.Uses among) (faults : List (Option ε)) (state : σ) :
    ∀ entry ∈ H.trace program faults state, among entry.1 := by
  induction program generalizing faults state with
  | pure value => exact List.forall_mem_nil _
  | throw error => exact List.forall_mem_nil _
  | call op next ih => exact List.forall_mem_cons.mpr ⟨uses.1, ih _ (uses.2 _) _ _⟩

theorem trace_perform_acts {rest : S.Reply op → Program S ε α}
    (acts : faults.headD none = none ∨ H.mayFail op = false) :
    H.trace (Program.perform op >>= rest) faults state = (op, false) ::
        H.trace (rest (H.act op state).1) faults.tail (H.act op state).2 := by
  show H.trace (.call op _) faults state = _
  rw [trace_call]
  cases fault : faults.headD none with
  | none => rfl
  | some error =>
    rw [fault] at acts
    simp only [perform, acts.resolve_left (Option.some_ne_none error)]
    rfl

theorem trace_perform_fails {rest : S.Reply op → Program S ε α}
    (fails : faults.headD none = some error) (exposed : H.mayFail op = true) :
    H.trace (Program.perform op >>= rest) faults state = [(op, true)] := by
  show H.trace (.call op _) faults state = _
  simp only [trace_call, perform, fails, exposed, if_true]
  rfl

theorem trace_begins (begins : program.Begins op among) (faults : List (Option ε)) (state : σ) :
    ∃ threw later, H.trace program faults state = (op, threw) :: later ∧
      ∀ entry ∈ later, among entry.1 := by
  cases program with
  | pure value => exact begins.elim
  | throw error => exact begins.elim
  | call first next =>
    obtain ⟨rfl, uses⟩ := begins
    exact ⟨_, _, rfl, trace_uses (uses _) _ _⟩

/-- Without a `try` a program that returns has seen no effect throw. -/
theorem trace_of_ok (unguarded : program.Unguarded)
    (returns : (H.exec program faults state).1 = .ok value) :
    ∀ entry ∈ H.trace program faults state, entry.2 = false := by
  induction program generalizing faults state with
  | pure value => exact List.forall_mem_nil _
  | throw error => exact List.forall_mem_nil _
  | call op next ih =>
    simp only [exec_call] at returns
    simp only [trace_call, List.forall_mem_cons]
    cases result : (H.perform op (faults.headD none) state).1 with
    | error error =>
      rw [result, unguarded.1] at returns
      cases returns
    | ok reply =>
      rw [result] at returns
      exact ⟨rfl, ih _ (unguarded.2 reply) returns⟩

/-- Where none of the spared effects throws, what the calculus promises when
they never do holds of the outcome. -/
theorem wp_sound_traced {spared : S.Op → Bool} (holds : (H.shield spared).wp program post state)
    (spares : ∀ entry ∈ H.trace program faults state,
      spared entry.1 = true → entry.2 = false) :
    post (H.exec program faults state).1 (H.exec program faults state).2 := by
  induction program generalizing faults state with
  | pure value => exact holds
  | throw error => exact holds
  | call op next ih =>
    simp only [trace_call, List.forall_mem_cons] at spares
    obtain ⟨here, later⟩ := spares
    rw [exec_call]
    cases fault : faults.headD none with
    | none =>
      rw [fault] at later
      exact ih _ holds.1 later
    | some error =>
      rw [fault] at here later
      by_cases fails : H.mayFail op = true
      · simp only [perform, fails, if_true] at here later ⊢
        have unspared : spared op = false := by simp_all [Except.toBool]
        have mayFail : (H.shield spared).mayFail op = true := by simp [shield, fails, unspared]
        exact ih _ (holds.2 mayFail error) later
      · simp only [perform, fails] at later ⊢
        exact ih _ holds.1 later

/-- What the calculus promises when an effect that has thrown may throw and
no other. -/
theorem wp_sound_trace [DecidableEq S.Op] (faults : List (Option ε)) (holds : (H.shield fun op =>
      (op, true) ∉ H.trace program faults state).wp program post state) :
    post (H.exec program faults state).1 (H.exec program faults state).2 := by
  apply H.wp_sound_traced holds
  simp_all

/-! ### Weakest preconditions of what is performed -/

variable (H) in
/-- The states from which every execution of a program, whatever fails, ends
in `post`, which is told what was performed on the way. -/
def wpTraced : Program S ε α → (Except ε α → List (S.Op × Bool) → σ → Prop) → σ → Prop
  | .pure value, post, state => post (.ok value) [] state
  | .throw error, post, state => post (.error error) [] state
  | .call op next, post, state =>
    wpTraced (next (.ok (H.act op state).1))
        (fun result later => post result ((op, false) :: later)) (H.act op state).2 ∧
      (H.mayFail op = true → ∀ error, wpTraced (next (.error error))
        (fun result later => post result ((op, true) :: later)) state)

theorem wpTraced_sound {post : Except ε α → List (S.Op × Bool) → σ → Prop}
    (holds : H.wpTraced program post state) (faults : List (Option ε)) :
    post (H.exec program faults state).1 (H.trace program faults state)
      (H.exec program faults state).2 := by
  induction program generalizing post faults state with
  | pure value => exact holds
  | throw error => exact holds
  | call op next ih =>
    rw [exec_call, trace_call]
    cases fault : faults.headD none with
    | none => exact ih _ holds.1 _
    | some error =>
      by_cases fails : H.mayFail op = true
      · simp only [perform, fails, if_true]
        exact ih _ (holds.2 fails error) _
      · simp only [perform, fails]
        exact ih _ holds.1 _

theorem wpTraced_mono {post post' : Except ε α → List (S.Op × Bool) → σ → Prop}
    (holds : H.wpTraced program post state)
    (weaker : ∀ result performed after, post result performed after →
      post' result performed after) :
    H.wpTraced program post' state := by
  induction program generalizing post post' state with
  | pure value => exact weaker _ _ _ holds
  | throw error => exact weaker _ _ _ holds
  | call op next ih =>
    exact ⟨ih _ holds.1 fun _ _ => weaker _ _,
      fun fails error => ih _ (holds.2 fails error) fun _ _ => weaker _ _⟩

@[simp] theorem wpTraced_pure (value : α)
    (post : Except ε α → List (S.Op × Bool) → σ → Prop) (state : σ) :
    H.wpTraced (pure value : Program S ε α) post state = post (.ok value) [] state := rfl

@[simp] theorem wpTraced_throw (error : ε)
    (post : Except ε α → List (S.Op × Bool) → σ → Prop) (state : σ) :
    H.wpTraced (throw error : Program S ε α) post state = post (.error error) [] state := rfl

@[simp] theorem wpTraced_perform (op : S.Op)
    (post : Except ε (S.Reply op) → List (S.Op × Bool) → σ → Prop) (state : σ) :
    H.wpTraced (Program.perform op) post state =
      (post (.ok (H.act op state).1) [(op, false)] (H.act op state).2 ∧ (H.mayFail op = true →
          ∀ error, post (.error error) [(op, true)] state)) := rfl

/-- What the first half of a sequence has to reach. -/
def andThenTraced (rest : α → (Except ε β → List (S.Op × Bool) → σ → Prop) → σ → Prop)
    (post : Except ε β → List (S.Op × Bool) → σ → Prop) :
    Except ε α → List (S.Op × Bool) → σ → Prop
  | .ok value, performed, state =>
    rest value (fun result later => post result (performed ++ later)) state
  | .error error, performed, state => post (.error error) performed state

@[simp] theorem andThenTraced_ok
    (rest : α → (Except ε β → List (S.Op × Bool) → σ → Prop) → σ → Prop)
    (post : Except ε β → List (S.Op × Bool) → σ → Prop) (value : α)
    (performed : List (S.Op × Bool)) (state : σ) :
    andThenTraced rest post (.ok value) performed state =
      rest value (fun result later => post result (performed ++ later)) state := rfl

@[simp] theorem wpTraced_bind (first : Program S ε α) (rest : α → Program S ε β)
    (post : Except ε β → List (S.Op × Bool) → σ → Prop) (state : σ) :
    H.wpTraced (first >>= rest) post state =
      H.wpTraced first (andThenTraced (fun value => H.wpTraced (rest value)) post) state := by
  show H.wpTraced (first.bind rest) post state = _
  induction first generalizing post state with
  | pure value => rfl
  | throw error => rfl
  | call op next ih =>
    -- the first effect stands in front of the rest in both halves
    have inFront : ∀ threw, andThenTraced (fun value => H.wpTraced (rest value))
        (fun result later => post result ((op, threw) :: later)) = fun result later => andThenTraced
            (fun value => H.wpTraced (rest value)) post result ((op, threw) :: later) := by
      intro threw
      funext result later reached
      cases result <;> rfl
    simp only [Program.bind, wpTraced, ih, inFront]

/-- What the body of a `try` has to reach. -/
def orElseTraced (handler : ε → (Except ε α → List (S.Op × Bool) → σ → Prop) → σ → Prop)
    (post : Except ε α → List (S.Op × Bool) → σ → Prop) :
    Except ε α → List (S.Op × Bool) → σ → Prop
  | .ok value, performed, state => post (.ok value) performed state
  | .error error, performed, state =>
    handler error (fun result later => post result (performed ++ later)) state

@[simp] theorem wpTraced_tryCatch (body : Program S ε α) (handler : ε → Program S ε α)
    (post : Except ε α → List (S.Op × Bool) → σ → Prop) (state : σ) :
    H.wpTraced (Program.tryCatch body handler) post state =
      H.wpTraced body (orElseTraced (fun error => H.wpTraced (handler error)) post) state := by
  show H.wpTraced (body.attempt.bind _) post state = _
  induction body generalizing post state with
  | pure value => rfl
  | throw error => rfl
  | call op next ih =>
    have inFront : ∀ threw, orElseTraced (fun error => H.wpTraced (handler error))
        (fun result later => post result ((op, threw) :: later)) = fun result later => orElseTraced
            (fun error => H.wpTraced (handler error)) post result ((op, threw) :: later) := by
      intro threw
      funext result later reached
      cases result <;> rfl
    simp only [Program.attempt, Program.bind, wpTraced, ih, inFront]

/-- A program that uses some effects only, each of which keeps an
invariant. -/
theorem wpTraced_of_uses {invariant : σ → Prop}
    (kept : ∀ op state, among op → invariant state → invariant (H.act op state).2)
    (uses : program.Uses among) (holds : invariant state) :
    H.wpTraced program (fun _ performed after =>
      (∀ entry ∈ performed, among entry.1) ∧ invariant after) state := by
  induction program generalizing state with
  | pure value => exact ⟨List.forall_mem_nil _, holds⟩
  | throw error => exact ⟨List.forall_mem_nil _, holds⟩
  | call op next ih =>
    have further : ∀ reply threw {reached : σ}, invariant reached →
        H.wpTraced (next reply) (fun _ later after =>
          (∀ entry ∈ (op, threw) :: later, among entry.1) ∧ invariant after)
          reached := fun reply threw reached continues =>
      wpTraced_mono (ih reply (uses.2 reply) continues) fun _ _ _ both =>
          ⟨List.forall_mem_cons.mpr ⟨uses.1, both.1⟩, both.2⟩
    exact ⟨further _ false (kept op state uses.1 holds),
      fun _ error => further (.error error) true holds⟩

/-! ### Loops that try each item by itself -/

/-- One turn of such a loop: where it starts. -/
structure Iteration (σ ε α : Type) where
  item : α
  faults : List (Option ε)
  state : σ

variable (H)

section

variable (body : α → Program S ε β)

/-- How a turn ends. -/
def Iteration.done (turn : Iteration σ ε α) : Except ε β × σ :=
  H.exec (body turn.item) turn.faults turn.state

def turns : List α → List (Option ε) → σ → List (Iteration σ ε α)
  | [], _, _ => []
  | item :: rest, faults, state =>
    ⟨item, faults, state⟩ :: turns rest (H.leftover (body item) faults state)
        (H.exec (body item) faults state).2

/-- The state after the last turn. -/
def afterTurns : List α → List (Option ε) → σ → σ
  | [], _, state => state
  | item :: rest, faults, state =>
    afterTurns rest (H.leftover (body item) faults state) (H.exec (body item) faults state).2

end

variable {H} {body : α → Program S ε β}

theorem exec_turns (count : γ → Except ε β → γ) (items : List α)
    (acc : γ) (faults : List (Option ε)) (state : σ) :
    H.exec (items.foldlM (fun acc item =>
        (body item).attempt >>= fun result => pure (count acc result)) acc)
        faults state =
      (.ok ((H.turns body items faults state).foldl
        (fun acc turn => count acc (turn.done H body).1) acc),
        H.afterTurns body items faults state) := by
  induction items generalizing acc faults state with
  | nil => rfl
  | cons item rest ih =>
    rw [List.foldlM_cons, Program.bind_assoc, exec_attempt_bind]
    exact ih _ _ _

theorem trace_turns (count : γ → Except ε β → γ) (items : List α)
    (acc : γ) (faults : List (Option ε)) (state : σ) :
    H.trace (items.foldlM (fun acc item =>
        (body item).attempt >>= fun result => pure (count acc result)) acc)
        faults state =
      (H.turns body items faults state).flatMap fun turn =>
        H.trace (body turn.item) turn.faults turn.state := by
  induction items generalizing acc faults state with
  | nil => rfl
  | cons item rest ih =>
    rw [List.foldlM_cons, Program.bind_assoc, trace_attempt_bind]
    exact congrArg (_ ++ ·) (ih _ _ _)

theorem turns_items (items : List α) (faults : List (Option ε)) (state : σ) :
    (H.turns body items faults state).map Iteration.item = items := by
  induction items generalizing faults state with
  | nil => rfl
  | cons item rest ih => exact congrArg (List.cons item) (ih _ _)

/-- What every turn keeps of the items to come and the state holds where each
turn starts, and at the end. -/
theorem turns_forall (body : α → Program S ε β) (invariant : List α → σ → Prop)
    (preserved : ∀ item rest faults state, invariant (item :: rest) state →
      invariant rest
    (H.exec (body item) faults state).2) (start : invariant items state) (faults : List
    (Option ε)) :
    (∀ turn ∈ H.turns body items faults state, ∃ rest, invariant (turn.item :: rest) turn.state ∧
        H.afterTurns body items faults state = H.afterTurns body rest
            (H.leftover (body turn.item) turn.faults turn.state) (turn.done H body).2) ∧
      invariant [] (H.afterTurns body items faults state) := by
  induction items generalizing faults state with
  | nil => exact ⟨List.forall_mem_nil _, start⟩
  | cons item rest ih =>
    obtain ⟨each, last⟩ := ih (preserved item rest faults state start) (H.leftover _ faults state)
    exact ⟨List.forall_mem_cons.mpr ⟨⟨rest, start, rfl⟩, each⟩, last⟩

theorem turns_append (entries : σ → List γ) (added : Iteration σ ε α → List γ)
    (each : ∀ turn ∈ H.turns body items faults state,
      entries (turn.done H body).2 = entries turn.state ++ added turn) :
    entries (H.afterTurns body items faults state) =
      entries state ++ (H.turns body items faults state).flatMap added := by
  induction items generalizing faults state with
  | nil => simp [turns, afterTurns]
  | cons item rest ih =>
    obtain ⟨first, others⟩ := List.forall_mem_cons.mp each
    rw [afterTurns, ih others, turns, List.flatMap_cons, ← List.append_assoc]
    exact congrArg (· ++ _) first

theorem flatMap_chosen (chosen : α → Bool) (image : α → γ) (items : List α) :
    (items.flatMap fun item => if chosen item then [image item] else []) =
      (items.filter chosen).map image := by
  induction items with
  | nil => rfl
  | cons item rest ih => grind

end Handler

end Effects
