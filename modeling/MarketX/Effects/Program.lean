/-
Module: MarketX.Effects.Program
Purpose: Programs whose only contact with the outside are effects that may
  fail, their execution under a schedule of failures, and the weakest
  precondition calculus the proofs about them use.
Trusted boundary: none
Main exports: Signature, Program, Handler, Handler.exec
-/
import Mathlib.Tactic.Common

namespace Effects

/-!
A program is a tree: it returns, throws, or performs one effect and goes on
with the answer.  The continuation of an effect receives either the reply or
the exception the effect threw, so that `try`/`catch` is an ordinary function
on programs.  What an effect does is not part of the program: a `Handler`
interprets it on a state.  The same tree is run alone (`Handler.exec`) or
step by step among other programs (`Effects.Interleaving`).
-/

/-- The effects a program may perform, and the type of the answer to each. -/
structure Signature where
  Op : Type
  Reply : Op → Type

/-- A program over the effects of `S` that throws exceptions in `ε` and
returns an `α`. -/
inductive Program (S : Signature) (ε α : Type) where
  | pure (value : α)
  | throw (error : ε)
  | call (op : S.Op) (next : Except ε (S.Reply op) → Program S ε α)

namespace Program

variable {S : Signature} {ε α β : Type}

/-- Sequential composition: an exception of the first program skips the
second. -/
def bind : Program S ε α → (α → Program S ε β) → Program S ε β
  | .pure value, rest => rest value
  | .throw error, _ => .throw error
  | .call op next, rest => .call op fun reply => (next reply).bind rest

/-- Run a program and hand its outcome, exception or value, to the
continuation as a value. -/
def attempt : Program S ε α → Program S ε (Except ε α)
  | .pure value => .pure (.ok value)
  | .throw error => .pure (.error error)
  | .call op next => .call op fun reply => (next reply).attempt

/-- `try body catch handler`. -/
def tryCatch (body : Program S ε α) (handler : ε → Program S ε α) :
    Program S ε α := body.attempt.bind fun
    | .ok value => .pure value
    | .error error => handler error

/-- One effect; its exception, if it throws, is the program's. -/
def perform (op : S.Op) : Program S ε (S.Reply op) := .call op fun
    | .ok reply => .pure reply
    | .error error => .throw error

instance : Monad (Program S ε) where
  pure := .pure
  bind := .bind

instance : MonadExceptOf ε (Program S ε) where
  throw := .throw
  tryCatch := .tryCatch

theorem bind_assoc {γ : Type} (program : Program S ε α)
    (first : α → Program S ε β) (second : β → Program S ε γ) :
    program >>= first >>= second = program >>= fun value => first value >>= second := by
  induction program with
  | pure value => rfl
  | throw error => rfl
  | call op next ih => exact congrArg (Program.call op) (funext ih)

/-- The effect a program performs next, if it performs one. -/
def next? : Program S ε α → Option S.Op
  | .call op _ => some op
  | _ => none

end Program

/-- The meaning of the effects of `S` on a state.  An effect that `mayFail`
can throw any exception instead of acting, and then leaves the state
alone. -/
structure Handler (S : Signature) (σ : Type) where
  act : (op : S.Op) → σ → S.Reply op × σ
  mayFail : S.Op → Bool

namespace Handler

variable {S : Signature} {σ ε α β : Type} (H : Handler S σ)

/-- One effect under one entry of a failure schedule. -/
def perform (op : S.Op) (fault : Option ε) (state : σ) :
    Except ε (S.Reply op) × σ :=
  match fault with
  | none => (.ok (H.act op state).1, (H.act op state).2)
  | some error =>
    if H.mayFail op then (.error error, state)
    else (.ok (H.act op state).1, (H.act op state).2)

/-- Run a program alone.  The schedule says, effect by effect, which one
throws what; past its end no effect fails. -/
def exec : Program S ε α → List (Option ε) → σ → Except ε α × σ
  | .pure value, _, state => (.ok value, state)
  | .throw error, _, state => (.error error, state)
  | .call op next, faults, state =>
    let done := H.perform op (faults.headD none) state
    exec (next done.1) faults.tail done.2

theorem exec_call (op : S.Op) (next : Except ε (S.Reply op) → Program S ε α)
    (faults : List (Option ε)) (state : σ) :
    H.exec (.call op next) faults state =
      H.exec (next (H.perform op (faults.headD none) state).1) faults.tail
        (H.perform op (faults.headD none) state).2 := rfl

/-- The states from which every execution of a program, whatever fails, ends
in `post`. -/
def wp : Program S ε α → (Except ε α → σ → Prop) → σ → Prop
  | .pure value, post, state => post (.ok value) state
  | .throw error, post, state => post (.error error) state
  | .call op next, post, state =>
    wp (next (.ok (H.act op state).1)) post (H.act op state).2 ∧
      (H.mayFail op = true → ∀ error, wp (next (.error error)) post state)

/-- The calculus is sound: what `wp` promises holds of the outcome under
every failure schedule. -/
theorem wp_sound {program : Program S ε α} {post : Except ε α → σ → Prop} {state : σ}
    (holds : H.wp program post state) (faults : List (Option ε)) :
    post (H.exec program faults state).1 (H.exec program faults state).2 := by
  induction program generalizing faults state with
  | pure value => exact holds
  | throw error => exact holds
  | call op next ih =>
    rw [exec_call]
    cases fault : faults.headD none with
    | none => exact ih _ holds.1 _
    | some error =>
      by_cases fails : H.mayFail op = true
      · simp only [perform, fails, if_true]
        exact ih _ (holds.2 fails error) _
      · simp only [perform, fails]
        exact ih _ holds.1 _

theorem wp_mono {program : Program S ε α} {post post' : Except ε α → σ → Prop} {state : σ}
    (holds : H.wp program post state)
    (weaker : ∀ result after, post result after → post' result after) :
    H.wp program post' state := by
  induction program generalizing state with
  | pure value => exact weaker _ _ holds
  | throw error => exact weaker _ _ holds
  | call op next ih => exact ⟨ih _ holds.1, fun fails error => ih _ (holds.2 fails error)⟩

/-- The calculus is complete: nothing is asked that some schedule does not
bring about. -/
theorem wp_iff_exec {program : Program S ε α} {post : Except ε α → σ → Prop} {state : σ} :
    H.wp program post state ↔ ∀ faults, post (H.exec program faults state).1
        (H.exec program faults state).2 := by
  refine ⟨H.wp_sound, fun always => ?_⟩
  induction program generalizing state with
  | pure value => exact always []
  | throw error => exact always []
  | call op next ih =>
    refine ⟨ih _ fun faults => always (none :: faults), fun fails error => ih _ fun faults => ?_⟩
    have reached := always (some error :: faults)
    simpa [exec_call, perform, fails] using reached

theorem wp_congr {program : Program S ε α} {post post' : Except ε α → σ → Prop} {state : σ}
    (same : ∀ result after, post result after ↔ post' result after) :
    H.wp program post state ↔ H.wp program post' state :=
  ⟨fun holds => H.wp_mono holds fun result after => (same result after).mp,
    fun holds => H.wp_mono holds fun result after => (same result after).mpr⟩

theorem wp_of_forall {program : Program S ε α} {post : Except ε α → σ → Prop}
    (always : ∀ result after, post result after) (state : σ) :
    H.wp program post state := by
  induction program generalizing state with
  | pure value => exact always _ _
  | throw error => exact always _ _
  | call op next ih => exact ⟨ih _ _, fun _ _ => ih _ _⟩

/-! ### One rule per way of building a program -/

@[simp] theorem wp_pure (value : α) (post : Except ε α → σ → Prop) (state : σ) :
    H.wp (pure value : Program S ε α) post state = post (.ok value) state := rfl

@[simp] theorem wp_throw (error : ε) (post : Except ε α → σ → Prop) (state : σ) :
    H.wp (throw error : Program S ε α) post state = post (.error error) state := rfl

@[simp] theorem wp_perform (op : S.Op) (post : Except ε (S.Reply op) → σ → Prop) (state : σ) :
    H.wp (Program.perform op) post state = (post (.ok (H.act op state).1) (H.act op state).2 ∧
        (H.mayFail op = true → ∀ error, post (.error error) state)) := rfl

/-- The postcondition the first half of a sequence has to reach. -/
def andThen (rest : α → σ → Prop) (post : Except ε β → σ → Prop) :
    Except ε α → σ → Prop
  | .ok value, state => rest value state
  | .error error, state => post (.error error) state

@[simp] theorem andThen_ok (rest : α → σ → Prop)
    (post : Except ε β → σ → Prop) (value : α) (state : σ) :
    andThen rest post (.ok value) state = rest value state := rfl

@[simp] theorem andThen_error (rest : α → σ → Prop)
    (post : Except ε β → σ → Prop) (error : ε) (state : σ) :
    andThen rest post (.error error) state = post (.error error) state := rfl

@[simp] theorem wp_bind (first : Program S ε α) (rest : α → Program S ε β)
    (post : Except ε β → σ → Prop) (state : σ) :
    H.wp (first >>= rest) post state =
      H.wp first (andThen (fun value => H.wp (rest value) post) post)
        state := by
  show H.wp (first.bind rest) post state = _
  induction first generalizing state <;> simp_all [Program.bind, wp]

@[simp] theorem wp_attempt (body : Program S ε α)
    (post : Except ε (Except ε α) → σ → Prop) (state : σ) :
    H.wp body.attempt post state = H.wp body (fun outcome => post (.ok outcome)) state := by
  induction body generalizing state <;> simp_all [Program.attempt, wp]

@[simp] theorem wp_ite (test : Prop) [Decidable test]
    (yes no : Program S ε α) (post : Except ε α → σ → Prop) (state : σ) :
    H.wp (if test then yes else no) post state =
      if test then H.wp yes post state else H.wp no post state := by
  split <;> rfl

theorem wp_branch (test : Prop) [Decidable test] {yes no : Program S ε α}
    {post : Except ε α → σ → Prop} {state : σ} (taken : test → H.wp yes post state)
    (skipped : ¬ test → H.wp no post state) :
    H.wp (if test then yes else no) post state := by simp_all

/-- A check that throws, in front of the rest of the program. -/
theorem wp_guard (test : Prop) [Decidable test] {error : ε}
    {rest : PUnit → Program S ε α} {post : Except ε α → σ → Prop} {state : σ}
    (refused : test → post (.error error) state) (continues : ¬ test → H.wp (rest ⟨⟩) post state) :
    H.wp (if test then Program.throw error >>= rest else rest ⟨⟩) post
      state := by
  split
  next holds => exact refused holds
  next fails => exact continues fails

/-- The rule for loops with an accumulator: an invariant, indexed by the
elements still to come, that every iteration carries one element further. -/
theorem wp_foldlM {body : β → α → Program S ε β} {items : List α} {acc : β}
    {post : Except ε β → σ → Prop} {state : σ}
    (invariant : List α → β → σ → Prop) (start : invariant items acc state)
    (iteration : ∀ head tail acc current, invariant (head :: tail) acc current →
        H.wp (body acc head) (andThen (invariant tail) post) current)
    (finish : ∀ acc current, invariant [] acc current → post (.ok acc) current) :
    H.wp (items.foldlM body acc) post state := by
  induction items generalizing acc state with
  | nil => exact finish acc state start
  | cons head tail ih =>
    rw [List.foldlM_cons, wp_bind]
    refine H.wp_mono (iteration head tail acc state start) ?_
    intro result after reached
    cases result <;> simp_all

/-- The rule for loops that collect a value for each element. -/
theorem wp_mapM {body : α → Program S ε β} {items : List α}
    {post : Except ε (List β) → σ → Prop} {state : σ}
    (invariant : List α → List β → σ → Prop) (start : invariant items [] state)
    (iteration : ∀ head tail values current, invariant (head :: tail) values current →
        H.wp (body head) (andThen (fun value => invariant tail (values ++ [value])) post) current)
    (finish : ∀ values current, invariant [] values current → post (.ok values) current) :
    H.wp (items.mapM body) post state := by
  -- the loop collects the values in reverse
  have loop : ∀ items collected current, invariant items collected.reverse current →
        H.wp (List.mapM.loop body items collected) post current := by
    intro items
    induction items with
    | nil => exact fun collected => finish collected.reverse
    | cons head tail ih =>
      intro collected current reached
      show H.wp (body head >>= fun value =>
        List.mapM.loop body tail (value :: collected)) post current
      rw [wp_bind]
      refine H.wp_mono (iteration head tail _ current reached) ?_
      intro result after reached
      cases result <;> simp_all
  exact loop items [] state start

/-- The rule for loops without an accumulator: what one iteration does, and
how it goes together with what the rest of the loop does. -/
theorem wp_forM {body : α → Program S ε PUnit} (relation : List α → σ → Bool → σ → Prop)
    (done : ∀ state, relation [] state true state) (iteration : ∀ item state, H.wp (body item)
      (fun result after => relation [item] state result.isOk after) state)
    (stopped : ∀ head tail state after, relation [head] state false after →
      relation (head :: tail) state false after) (next : ∀ head tail state middle returns after,
      relation [head] state true middle → relation tail middle returns after →
        relation (head :: tail) state returns after) (items : List α) (state : σ) :
    H.wp (items.forM body) (fun result after => relation items state result.isOk after) state := by
  induction items generalizing state with
  | nil => exact done state
  | cons head tail ih =>
    show H.wp (body head >>= fun _ => tail.forM body) _ state
    rw [wp_bind]
    apply H.wp_mono (iteration head state)
    intro result middle front
    cases result with
    | error error => exact stopped head tail state middle front
    | ok value =>
      apply H.wp_mono (ih middle)
      intro result after back
      exact next head tail state middle _ after front back

/-- Dropping the returned value leaves nothing else to prove. -/
theorem wp_discard {program : Program S ε α} {post : Except ε Unit → σ → Prop} {state : σ}
    (holds : H.wp program (fun result => post (result.map fun _ => ())) state) :
    H.wp (program >>= fun _ => (pure () : Program S ε Unit)) post state := by
  rw [wp_bind]
  refine H.wp_mono holds ?_
  intro result after reached
  cases result <;> exact reached

/-- Dropping the returned value changes neither the effects nor whether the
program throws. -/
theorem exec_discard (program : Program S ε α) (faults : List (Option ε)) (state : σ) :
    H.exec (program >>= fun _ => (pure () : Program S ε Unit)) faults state =
      ((H.exec program faults state).1.map fun _ => (), (H.exec program faults state).2) := by
  show H.exec (program.bind _) faults state = _
  induction program generalizing faults state with
  | pure value => rfl
  | throw error => rfl
  | call op next ih => simp only [Program.bind, exec_call, ih]

/-! ### Executions in which nothing fails -/

theorem exec_bind (first : Program S ε α) (rest : α → Program S ε β) (state : σ) :
    H.exec (first >>= rest) [] state =
      match H.exec first [] state with
      | (.ok value, after) => H.exec (rest value) [] after
      | (.error error, after) => (.error error, after) := by
  show H.exec (first.bind rest) [] state = _
  induction first generalizing state <;> simp_all [Program.bind, exec]

theorem exec_attempt (body : Program S ε α) (state : σ) :
    H.exec body.attempt [] state = (.ok (H.exec body [] state).1, (H.exec body [] state).2) := by
  induction body generalizing state <;> simp_all [Program.attempt, exec]

theorem exec_forM {body : α → Program S ε PUnit} {step : σ → α → σ} (each : ∀ item state,
      H.exec (body item) [] state = (.ok ⟨⟩, step state item)) (items : List α) (state : σ) :
    H.exec (items.forM body) [] state = (.ok ⟨⟩, items.foldl step state) := by
  induction items generalizing state with
  | nil => rfl
  | cons head tail ih => simp_all [exec_bind]

/-! ### Effects that are known not to fail -/

/-- The handler in which some effects never throw. -/
def shield (spared : S.Op → Bool) : Handler S σ where
  act := H.act
  mayFail op := H.mayFail op && !spared op

@[simp] theorem shield_none : H.shield (fun _ => false) = H := by simp [shield]

/-- The schedule lets every spared effect of this execution succeed. -/
def Spares (spared : S.Op → Bool) : Program S ε α → List (Option ε) → σ → Prop
  | .pure _, _, _ | .throw _, _, _ => True
  | .call op next, faults, state =>
    (spared op = true → faults.headD none = none) ∧
      Spares spared (next (H.perform op (faults.headD none) state).1)
        faults.tail (H.perform op (faults.headD none) state).2

instance Spares.decidable [DecidableEq ε] (spared : S.Op → Bool) :
    ∀ (program : Program S ε α) (faults : List (Option ε)) (state : σ),
      Decidable (H.Spares spared program faults state)
  | .pure _, _, _ | .throw _, _, _ => inferInstanceAs (Decidable True)
  | .call op next, faults, state =>
    have := Spares.decidable spared (next (H.perform op (faults.headD none) state).1) faults.tail
      (H.perform op (faults.headD none) state).2
    inferInstanceAs (Decidable (_ ∧ _))

theorem spares_nil (spared : S.Op → Bool) (program : Program S ε α)
    (state : σ) : H.Spares spared program [] state := by
  induction program generalizing state with
  | pure value => trivial
  | throw error => trivial
  | call op next ih => exact ⟨fun _ => rfl, ih _ _⟩

/-- Whatever is spared, an effect acts or, if it is exposed, throws. -/
theorem wp_shield_perform (spared : S.Op → Bool) (op : S.Op)
    (post : Except ε (S.Reply op) → σ → Prop) (state : σ) :
    (H.shield spared).wp (Program.perform op) post state ↔
      post (.ok (H.act op state).1) (H.act op state).2 ∧ (H.mayFail op = true → spared op = false →
          ∀ error, post (.error error) state) := by simp [shield]

/-- Under a schedule that spares some effects, what the calculus promises
when they never throw holds of the outcome. -/
theorem wp_sound_spared {spared : S.Op → Bool} {program : Program S ε α}
    {post : Except ε α → σ → Prop} {state : σ} (holds : (H.shield spared).wp program post state)
    {faults : List (Option ε)} (spares : H.Spares spared program faults state) :
    post (H.exec program faults state).1 (H.exec program faults state).2 := by
  induction program generalizing faults state with
  | pure value => exact holds
  | throw error => exact holds
  | call op next ih =>
    obtain ⟨here, after⟩ := spares
    rw [exec_call]
    cases fault : faults.headD none with
    | none =>
      rw [fault] at after
      exact ih _ holds.1 after
    | some error =>
      rw [fault] at here after
      by_cases fails : H.mayFail op = true
      · have unspared : spared op = false := by simp_all
        have mayFail : (H.shield spared).mayFail op = true := by simp [shield, fails, unspared]
        simp only [perform, fails, if_true] at after ⊢
        exact ih _ (holds.2 mayFail error) after
      · simp only [perform, fails] at after ⊢
        exact ih _ holds.1 after

end Handler

/-! ### Programs that use some effects only -/

namespace Program

/-- Every effect the program can perform is one of those. -/
def Uses (among : S.Op → Prop) : Program S ε α → Prop
  | .pure _ | .throw _ => True
  | .call op next => among op ∧ ∀ reply, Uses among (next reply)

theorem Uses.mono {among wider : S.Op → Prop} {program : Program S ε α}
    (uses : program.Uses among) (implies : ∀ op, among op → wider op) :
    program.Uses wider := by
  induction program with
  | pure value => trivial
  | throw error => trivial
  | call op next ih => exact ⟨implies op uses.1, fun reply => ih reply (uses.2 reply)⟩

theorem uses_perform {among : S.Op → Prop} {op : S.Op} (one : among op) :
    (Program.perform op : Program S ε (S.Reply op)).Uses among := by
  refine ⟨one, fun reply => ?_⟩
  cases reply <;> trivial

theorem Uses.bind {among : S.Op → Prop} {first : Program S ε α}
    {rest : α → Program S ε β} (front : first.Uses among)
    (back : ∀ value, (rest value).Uses among) :
    (first >>= rest).Uses among := by
  induction first with
  | pure value => exact back value
  | throw error => trivial
  | call op next ih => exact ⟨front.1, fun reply => ih reply (front.2 reply)⟩

theorem Uses.attempt {among : S.Op → Prop} {body : Program S ε α}
    (uses : body.Uses among) : body.attempt.Uses among := by
  induction body with
  | pure value => trivial
  | throw error => trivial
  | call op next ih => exact ⟨uses.1, fun reply => ih reply (uses.2 reply)⟩

theorem Uses.guard {among : S.Op → Prop} (test : Prop) [Decidable test]
    {error : ε} {rest : PUnit → Program S ε α} (continues : (rest ⟨⟩).Uses among) :
    (if test then Program.throw error >>= rest else rest ⟨⟩).Uses among := by
  split
  next => trivial
  next => exact continues

theorem Uses.branch {among : S.Op → Prop} (test : Prop) [Decidable test]
    {yes no : Program S ε α} (taken : yes.Uses among)
    (skipped : no.Uses among) : (if test then yes else no).Uses among := by
  split
  next => exact taken
  next => exact skipped

theorem Uses.forM {among : S.Op → Prop} {body : α → Program S ε PUnit}
    (each : ∀ item, (body item).Uses among) (items : List α) :
    (items.forM body).Uses among := by
  induction items with
  | nil => trivial
  | cons head tail ih => exact (each head).bind fun _ => ih

end Program

end Effects
