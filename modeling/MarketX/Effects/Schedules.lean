/-
Module: MarketX.Effects.Schedules
Purpose: What is left of a failure schedule when a program has run; runs
  under a list that names only the effects that may throw; and programs over
  coarse effects that stand for programs over finer ones.
Trusted boundary: none
Main exports: Handler.leftover, Handler.exec_bind_ok, Handler.exec_bind_error
-/
import MarketX.Effects.Program

namespace Effects.Handler

variable {S : Signature} {σ ε α β : Type} (H : Handler S σ)

/-- The entries of the schedule that an execution does not come to. -/
def leftover :
    Program S ε α → List (Option ε) → σ → List (Option ε)
  | .pure _, faults, _ | .throw _, faults, _ => faults
  | .call op next, faults, state =>
    let done := H.perform op (faults.headD none) state
    leftover (next done.1) faults.tail done.2

variable {H}

/-- What follows a program that has returned runs under what is left. -/
theorem exec_bind_ok {first : Program S ε α} {rest : α → Program S ε β}
    {faults : List (Option ε)} {state : σ} {value : α}
    (returns : (H.exec first faults state).1 = .ok value) :
    H.exec (first >>= rest) faults state = H.exec (rest value) (H.leftover first faults state)
        (H.exec first faults state).2 := by
  induction first generalizing faults state with
  | pure returned =>
    cases returns
    rfl
  | throw error => cases returns
  | call op next ih => exact ih _ returns

theorem exec_bind_error {first : Program S ε α} {rest : α → Program S ε β}
    {faults : List (Option ε)} {state : σ} {error : ε}
    (throws : (H.exec first faults state).1 = .error error) :
    H.exec (first >>= rest) faults state = (.error error, (H.exec first faults state).2) := by
  induction first generalizing faults state with
  | pure returned => cases throws
  | throw thrown =>
    cases throws
    rfl
  | call op next ih => exact ih _ throws

/-- A program that has come to an effect, which acts. -/
theorem exec_call_acts {op : S.Op} {next : Except ε (S.Reply op) →
      Program S ε α} {faults : List (Option ε)} {state : σ}
    (acts : faults.headD none = none ∨ H.mayFail op = false) :
    H.exec (.call op next) faults state = H.exec (next (.ok (H.act op state).1)) faults.tail
        (H.act op state).2 := by
  rw [exec_call]
  cases fault : faults.headD none <;> simp_all [perform]

theorem exec_call_throws {op : S.Op} {next : Except ε (S.Reply op) →
      Program S ε α} {faults : List (Option ε)} {state : σ} {error : ε}
    (throws : faults.headD none = some error) (exposed : H.mayFail op = true) :
    H.exec (.call op next) faults state =
      H.exec (next (.error error)) faults.tail state := by
  simp only [exec_call, perform, throws, exposed, if_true]

/-- An effect that acts, in front of the rest of a program. -/
theorem exec_perform_acts {op : S.Op} {rest : S.Reply op → Program S ε α}
    {faults : List (Option ε)} {state : σ}
    (acts : faults.headD none = none ∨ H.mayFail op = false) :
    H.exec (Program.perform op >>= rest) faults state =
      H.exec (rest (H.act op state).1) faults.tail (H.act op state).2 := by
  show H.exec (.call op _) faults state = _
  rw [exec_call]
  cases fault : faults.headD none with
  | none => rfl
  | some error =>
    rw [fault] at acts
    simp only [perform, acts.resolve_left (Option.some_ne_none error)]
    rfl

theorem exec_perform_fails {op : S.Op} {rest : S.Reply op → Program S ε α}
    {faults : List (Option ε)} {state : σ} {error : ε}
    (fails : faults.headD none = some error) (exposed : H.mayFail op = true) :
    H.exec (Program.perform op >>= rest) faults state = (.error error, state) := by
  show H.exec (.call op _) faults state = _
  simp only [exec_call, perform, fails, exposed, if_true]
  rfl

theorem exec_attempt_bind {body : Program S ε α}
    {rest : Except ε α → Program S ε β} {faults : List (Option ε)} {state : σ} :
    H.exec (body.attempt >>= rest) faults state = H.exec (rest (H.exec body faults state).1)
        (H.leftover body faults state) (H.exec body faults state).2 := by
  induction body generalizing faults state with
  | pure value => rfl
  | throw error => rfl
  | call op next ih => exact ih _

/-! ### Reading, deciding, writing -/

/-- The first two effects under the schedule do not throw. -/
def answered (faults : List (Option ε)) : Bool :=
  (faults.headD none).isNone && (faults.tail.headD none).isNone

/-- A program that reads once, decides by what it reads, and writes once. -/
def readDecideWrite {γ : Type} (read : S.Op)
    (decision : S.Reply read → Except ε γ) (write : γ → S.Op) :
    Program S ε Unit := Program.perform read >>= fun reply =>
    match decision reply with
    | .error error => throw error
    | .ok value => Program.perform (write value) >>= fun _ => pure ()

/-- It writes what it decides for, if both effects are answered. -/
theorem exec_readDecideWrite {γ : Type} {read : S.Op}
    {decision : S.Reply read → Except ε γ} {write : γ → S.Op} {state : σ}
    (reads : (H.act read state).2 = state)
    (exposed : H.mayFail read = true ∧ ∀ value, H.mayFail (write value) = true)
    (faults : List (Option ε)) :
    (H.exec (readDecideWrite read decision write) faults state).2 =
      match decision (H.act read state).1 with
      | .error _ => state
      | .ok value =>
        if answered faults then (H.act (write value) state).2 else state := by
  unfold readDecideWrite answered
  cases first : faults.headD none with
  | some error =>
    rw [exec_perform_fails first exposed.1]
    cases decision (H.act read state).1 <;> rfl
  | none =>
    rw [exec_perform_acts (.inl first), reads]
    cases decision (H.act read state).1 with
    | error error => rfl
    | ok value =>
      cases second : faults.tail.headD none with
      | some error => simp_all [exec_perform_fails]
      | none => exact congrArg Prod.snd (exec_perform_acts (.inl second))

end Effects.Handler

namespace Effects.Handler

variable {S : Signature} {σ ε α β : Type} (H : Handler S σ)

/-- Run a program alone.  Each effect that may throw takes one entry of the
script, which says whether it does; past its end no effect throws. -/
def play : Program S ε α → List (Option ε) → σ → Except ε α × List (Option ε) × σ
  | .pure value, script, state => (.ok value, script, state)
  | .throw error, script, state => (.error error, script, state)
  | .call op next, script, state =>
    if H.mayFail op then
      match script.headD none with
      | none => play (next (.ok (H.act op state).1)) script.tail (H.act op state).2
      | some error => play (next (.error error)) script.tail state
    else play (next (.ok (H.act op state).1)) script (H.act op state).2

theorem play_call (op : S.Op) (next : Except ε (S.Reply op) → Program S ε α)
    (script : List (Option ε)) (state : σ) :
    H.play (.call op next) script state =
      if H.mayFail op then
        match script.headD none with
        | none => H.play (next (.ok (H.act op state).1)) script.tail (H.act op state).2
        | some error => H.play (next (.error error)) script.tail state
      else H.play (next (.ok (H.act op state).1)) script (H.act op state).2 := by rw [play]

/-! ### One rule per way of building a program -/

variable {H} in
theorem play_safe {op : S.Op} (safe : H.mayFail op = false) (script : List (Option ε)) (state : σ) :
    H.play (Program.perform op) script state =
      (.ok (H.act op state).1, script, (H.act op state).2) := by
  rw [Program.perform, play_call, if_neg (Bool.eq_false_iff.mp safe)]
  rfl

variable {H} in
theorem play_acts {op : S.Op} (fails : H.mayFail op = true)
    {script : List (Option ε)} (acts : script.headD none = none) (state : σ) :
    H.play (Program.perform op) script state =
      (.ok (H.act op state).1, script.tail, (H.act op state).2) := by
  rw [Program.perform, play_call, if_pos fails, acts]
  rfl

variable {H} in
theorem play_throws {op : S.Op} (fails : H.mayFail op = true) {script : List (Option ε)} {error : ε}
    (throws : script.headD none = some error) (state : σ) :
    H.play (Program.perform op) script state = (.error error, script.tail, state) := by
  rw [Program.perform, play_call, if_pos fails, throws]
  rfl

theorem play_bind (first : Program S ε α) (rest : α → Program S ε β)
    (script : List (Option ε)) (state : σ) :
    H.play (first >>= rest) script state =
      match H.play first script state with
      | (.ok value, left, after) => H.play (rest value) left after
      | (.error error, left, after) => (.error error, left, after) := by
  show H.play (first.bind rest) script state = _
  induction first generalizing script state <;> grind [Program.bind, play]

theorem play_attempt (body : Program S ε α) (script : List (Option ε)) (state : σ) :
    H.play body.attempt script state =
      (.ok (H.play body script state).1, (H.play body script state).2) := by
  induction body generalizing script state <;> grind [Program.attempt, play]

variable {H}

theorem play_bind_ok {first : Program S ε α} {rest : α → Program S ε β}
    {script left : List (Option ε)} {state after : σ} {value : α}
    (returns : H.play first script state = (.ok value, left, after)) :
    H.play (first >>= rest) script state = H.play (rest value) left after := by
  rw [play_bind, returns]

theorem play_bind_error {first : Program S ε α} {rest : α → Program S ε β}
    {script left : List (Option ε)} {state after : σ} {error : ε}
    (throws : H.play first script state = (.error error, left, after)) :
    H.play (first >>= rest) script state = (.error error, left, after) := by rw [play_bind, throws]

/-- An effect that never throws: the program goes on with its reply. -/
theorem play_safe_bind {op : S.Op} {rest : S.Reply op → Program S ε α}
    (safe : H.mayFail op = false) (script : List (Option ε)) (state : σ) :
    H.play (Program.perform op >>= rest) script state =
      H.play (rest (H.act op state).1) script (H.act op state).2 :=
  play_bind_ok (play_safe safe script state)

/-- Dropping the returned value changes nothing else. -/
theorem play_discard (program : Program S ε α) (script : List (Option ε)) (state : σ) :
    (H.play (program >>= fun _ => pure ()) script state).2 = (H.play program script state).2 := by
  rw [play_bind]
  obtain ⟨outcome, left, after⟩ := H.play program script state
  cases outcome <;> rfl

theorem play_attempt_bind {body : Program S ε α}
    {rest : Except ε α → Program S ε β} {script left : List (Option ε)}
    {state after : σ} {outcome : Except ε α}
    (ends : H.play body script state = (outcome, left, after)) :
    H.play (body.attempt >>= rest) script state =
      H.play (rest outcome) left after := by
  refine play_bind_ok ?_
  rw [play_attempt, ends]

/-- An effect that may throw: it stops the program, or the program goes
on. -/
theorem play_ask {op : S.Op} {rest : S.Reply op → Program S ε α}
    {script : List (Option ε)} {state : σ} (fails : H.mayFail op = true)
    (post : Except ε α × List (Option ε) × σ → Prop)
    (throws : ∀ error, script.headD none = some error → post (.error error, script.tail, state))
    (acts : script.headD none = none → post (H.play (rest (H.act op state).1) script.tail
        (H.act op state).2)) :
    post (H.play (Program.perform op >>= rest) script state) := by
  cases entry : script.headD none with
  | some error => grind [play_bind_error, play_throws]
  | none =>
    rw [play_bind_ok (play_acts fails entry state)]
    exact acts entry

/-- So many calls in a row are answered. -/
def answeredUpTo (count : ℕ) (script : List (Option ε)) : Bool :=
  (script.take count).all Option.isNone

theorem answeredUpTo_succ (count : ℕ) (script : List (Option ε)) :
    answeredUpTo (count + 1) script =
      ((script.headD none).isNone && answeredUpTo count script.tail) := by
  cases script <;> simp [answeredUpTo]

/-! ### The same runs under schedules -/

variable (H)

end Effects.Handler

namespace Effects

variable {S T : Signature} {σ ε α β : Type}

/-- Go on with the outcome of a program that has been attempted. -/
def Program.rethrow (rest : α → Program S ε β) : Except ε α → Program S ε β
  | .ok value => rest value
  | .error error => .throw error

/-- Each effect replaced by the program it stands for. -/
def Program.expand (meaning : (op : S.Op) → Program T ε (S.Reply op)) :
    Program S ε α → Program T ε α
  | .pure value => .pure value
  | .throw error => .throw error
  | .call op next =>
    (meaning op).attempt.bind fun reply => (next reply).expand meaning

theorem bind_pure (program : Program S ε α) : program >>= pure = program := by
  induction program with
  | pure value => rfl
  | throw error => rfl
  | call op next ih => exact congrArg (Program.call op) (funext ih)

/-- An exception that is caught only to be thrown again. -/
theorem attempt_rethrow (body : Program S ε α) (rest : α → Program S ε β) :
    body.attempt >>= Program.rethrow rest = body >>= rest := by
  induction body with
  | pure value => rfl
  | throw error => rfl
  | call op next ih => exact congrArg (Program.call op) (funext ih)

section

variable {meaning : (op : S.Op) → Program T ε (S.Reply op)}

theorem expand_bind (first : Program S ε α) (rest : α → Program S ε β) :
    (first >>= rest).expand meaning =
      first.expand meaning >>= fun value => (rest value).expand meaning := by
  show (first.bind rest).expand meaning = _
  induction first with
  | pure value => rfl
  | throw error => rfl
  | call op next ih =>
    simp only [Program.bind, Program.expand, ih]
    exact (Program.bind_assoc (meaning op).attempt _ _).symm

/-- A sequence stands for the sequence of what its halves stand for. -/
theorem expand_then {first : Program S ε α} {rest : α → Program S ε β}
    {front : Program T ε α} {back : α → Program T ε β} (stands : first.expand meaning = front)
    (continues : ∀ value, (rest value).expand meaning = back value) :
    (first >>= rest).expand meaning = front >>= back := by simp_all [expand_bind]

theorem expand_perform (op : S.Op) :
    (Program.perform op : Program S ε (S.Reply op)).expand meaning =
      meaning op := by
  have outcome :
      (Program.perform op : Program S ε (S.Reply op)).expand meaning =
        (meaning op).attempt >>= Program.rethrow pure := by
    refine congrArg ((meaning op).attempt.bind ·) (funext fun reply => ?_)
    cases reply <;> rfl
  rw [outcome, attempt_rethrow, bind_pure]

/-- Where each effect acts as the program it stands for, a program alone does
what its expansion does. -/
theorem exec_expand {coarse : Handler S σ} {fine : Handler T σ}
    (stands : ∀ op state, fine.exec (meaning op) [] state =
      (.ok (coarse.act op state).1, (coarse.act op state).2))
    (program : Program S ε α) (state : σ) :
    fine.exec (program.expand meaning) [] state = coarse.exec program [] state := by
  induction program generalizing state with
  | pure value => rfl
  | throw error => rfl
  | call op next ih =>
    show fine.exec ((meaning op).attempt >>= fun reply =>
      (next reply).expand meaning) [] state = _
    rw [fine.exec_bind, fine.exec_attempt, stands]
    exact ih _ _

end

end Effects
