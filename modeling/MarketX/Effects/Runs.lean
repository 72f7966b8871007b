/-
Module: MarketX.Effects.Runs
Purpose: Runs of a deterministic step function over a list of inputs, the
  predicate that every step of a run meets a condition, the invariant rules,
  and the values that something observed takes on along a run; loops that go
  on until there is a result; and what is answered to some of the inputs.
Trusted boundary: none
Main exports: run, Along, Along.mono, Along.iff
-/
import Mathlib.Data.List.Chain

namespace Effects

variable {σ κ : Type} (step : σ → κ → σ)

/-- The state after a sequence of inputs. -/
def run (start : σ) (inputs : List κ) : σ := inputs.foldl step start

@[simp] theorem run_nil (start : σ) : run step start [] = start := rfl

@[simp] theorem run_cons (start : σ) (head : κ) (tail : List κ) :
    run step start (head :: tail) = run step (step start head) tail := rfl

/-- Every step of the run meets a condition on the input and the state it is
taken in. -/
def Along (condition : σ → κ → Prop) : σ → List κ → Prop
  | _, [] => True
  | start, head :: tail => condition start head ∧ Along condition (step start head) tail

instance Along.decidable (condition : σ → κ → Prop)
    [∀ state input, Decidable (condition state input)] :
    ∀ start inputs, Decidable (Along step condition start inputs)
  | _, [] => inferInstanceAs (Decidable True)
  | start, head :: tail =>
    have := Along.decidable condition (step start head) tail
    inferInstanceAs (Decidable (_ ∧ _))

variable {step}

variable {condition : σ → κ → Prop} {start : σ} {inputs : List κ} {invariant holds : σ → Prop}

theorem Along.mono {weaker : σ → κ → Prop} (along : Along step condition start inputs)
    (implies : ∀ state input, condition state input → weaker state input) :
    Along step weaker start inputs := by
  induction inputs generalizing start with
  | nil => trivial
  | cons head tail ih => exact ⟨implies _ _ along.1, ih along.2⟩

theorem along_of_forall {condition : κ → Prop} (each : ∀ input ∈ inputs, condition input) :
    Along step (fun _ input => condition input) start inputs := by
  induction inputs generalizing start with
  | nil => trivial
  | cons head tail ih =>
    exact ⟨each head List.mem_cons_self, ih
      fun input member => each input (List.mem_cons_of_mem head member)⟩

theorem Along.and {other : σ → κ → Prop} (first : Along step condition start inputs)
    (second : Along step other start inputs) :
    Along step (fun state input => condition state input ∧ other state input)
      start inputs := by
  induction inputs generalizing start with
  | nil => trivial
  | cons head tail ih => exact ⟨⟨first.1, second.1⟩, ih first.2 second.2⟩

/-- Along a run that meets a condition, two others are met alike where each
step that meets it meets them alike. -/
theorem Along.iff {first second : σ → κ → Prop} (along : Along step condition start inputs)
    (alike : ∀ state input, condition state input → (first state input ↔ second state input)) :
    Along step first start inputs ↔ Along step second start inputs := by
  induction inputs generalizing start with
  | nil => exact Iff.rfl
  | cons head tail ih => exact and_congr (alike start head along.1) (ih along.2)

theorem Along.append_iff {front back : List κ} :
    Along step condition start (front ++ back) ↔ Along step condition start front ∧
        Along step condition (run step start front) back := by
  induction front generalizing start <;> simp_all [Along, and_assoc]

/-- A property that every step meeting the condition preserves holds at the
end of every run whose steps meet it. -/
theorem run_invariant (preserved : ∀ state input, invariant state → condition state input →
      invariant (step state input)) (initially : invariant start)
    (along : Along step condition start inputs) :
    invariant (run step start inputs) := by
  induction inputs generalizing start with
  | nil => exact initially
  | cons head tail ih => exact ih (preserved _ _ initially along.1) along.2

/-- A property that every step preserves holds at the end of every run. -/
theorem run_preserves (preserved : ∀ state input, invariant state →
      invariant (step state input)) (initially : invariant start) (inputs : List κ) :
    invariant (run step start inputs) := by induction inputs generalizing start <;> simp_all

/-- Under an invariant, a condition that implies a second one at each step
implies it along the run. -/
theorem along_of_invariant {conclusion : σ → κ → Prop}
    (preserved : ∀ state input, invariant state → condition state input →
      invariant (step state input))
    (implies : ∀ state input, invariant state → condition state input → conclusion state input)
    (initially : invariant start)
    (along : Along step condition start inputs) :
    Along step conclusion start inputs := by
  induction inputs generalizing start with
  | nil => trivial
  | cons head tail ih =>
    exact ⟨implies _ _ initially along.1, ih (preserved _ _ initially along.1) along.2⟩

/-- Under an invariant, a property that a step establishes or keeps holds at
the end of a run iff it held at the start or some step established it. -/
theorem run_holds_iff {establishes : σ → κ → Prop}
    (preserved : ∀ state input, invariant state → condition state input →
      invariant (step state input)) (turn : ∀ state input, invariant state → condition state input →
      (holds (step state input) ↔ holds state ∨ establishes state input))
    (initially : invariant start)
    (along : Along step condition start inputs) :
    holds (run step start inputs) ↔
      holds start ∨ ∃ front input back, inputs = front ++ input :: back ∧
        establishes (run step start front) input := by
  induction inputs generalizing start with
  | nil => simp
  | cons head tail ih =>
    rw [run_cons, ih (preserved _ _ initially along.1) along.2, turn _ _ initially along.1]
    constructor
    · rintro ((before | now) | ⟨front, input, back, split, later⟩)
      · exact .inl before
      · exact .inr ⟨[], head, tail, rfl, now⟩
      · exact .inr ⟨head :: front, input, back, by rw [split]; rfl, later⟩
    · rintro (before | ⟨front, input, back, split, established⟩)
      · exact .inl (.inl before)
      · cases front with
        | nil =>
          cases split
          exact .inl (.inr established)
        | cons first front =>
          cases split
          exact .inr ⟨front, input, back, rfl, established⟩

theorem run_append (start : σ) (front back : List κ) :
    run step start (front ++ back) = run step (run step start front) back := List.foldl_append

/-- Where a property cannot be told from the state alone: under an invariant
that implies it and that every step meeting the condition keeps, it holds
wherever a run comes to, iff every step meets the condition that it needs. -/
theorem reached_iff_along_of_invariant (implies : ∀ state, invariant state → holds state)
    (needs : ∀ state input, invariant state → holds (step state input) → condition state input)
    (preserved : ∀ state input, invariant state → condition state input →
      invariant (step state input)) (initially : invariant start) :
    (∀ front back, inputs = front ++ back → holds (run step start front)) ↔
      Along step condition start inputs := by
  constructor
  · intro reached
    induction inputs generalizing start with
    | nil => trivial
    | cons head tail ih =>
      have met : condition start head := needs start head initially (reached [head] tail rfl)
      refine ⟨met, ih (preserved _ _ initially met) ?_⟩
      intro front back split
      exact reached (head :: front) back (by rw [split]; rfl)
  · rintro along front back rfl
    exact implies _ (run_invariant preserved initially (Along.append_iff.mp along).1)

/-- A property holds wherever a run comes to, iff every step meets the
condition under which a step keeps it. -/
theorem reached_iff_along
    (kept_iff : ∀ state input, holds state → (holds (step state input) ↔ condition state input))
    (initially : holds start) :
    (∀ front back, inputs = front ++ back → holds (run step start front)) ↔
      Along step condition start inputs := reached_iff_along_of_invariant (fun _ held => held)
    (fun state input held => (kept_iff state input held).mp)
    (fun state input held => (kept_iff state input held).mpr) initially

section

variable {relation : σ → σ → Prop} [IsPreorder σ relation]

/-- Steps that move along a preorder carry the start along it. -/
theorem Along.related {start : σ} {inputs : List κ}
    (along : Along step (fun state input => relation state (step state input))
      start inputs) : relation start (run step start inputs) := by
  induction inputs generalizing start with
  | nil => exact refl_of relation start
  | cons head tail ih => exact trans_of relation along.1 (ih along.2)

/-- Of any two states of a run the earlier one is related to the later one,
iff every step relates the states before and after it. -/
theorem related_iff_along {start : σ} {inputs : List κ} :
    (∀ front middle back, inputs = front ++ middle ++ back →
      relation (run step start front) (run step start (front ++ middle))) ↔
      Along step (fun state input => relation state (step state input)) start
        inputs := by
  constructor
  · intro any
    induction inputs generalizing start with
    | nil => trivial
    | cons head tail ih =>
      refine ⟨any [] [head] tail rfl, ih ?_⟩
      intro front middle back split
      exact any (head :: front) middle back (by rw [split]; rfl)
  · rintro along front middle back rfl
    rw [run_append]
    exact (Along.append_iff.mp (Along.append_iff.mp along).1).2.related

end

/-! ### What is observed along a run -/

section

variable {α : Type}

/-- What is observed stays, begins, or moves along a relation. -/
inductive Moves (initial : α → Prop) (relation : α → α → Prop) :
    Option α → Option α → Prop where
  | stays {value : Option α} : Moves initial relation value value
  | begins {value : α} (first : initial value) :
      Moves initial relation none (some value)
  | moves {value next : α} (related : relation value next) :
      Moves initial relation (some value) (some next)

variable (step) [DecidableEq α] (observe : σ → Option α)

/-- The values that are taken on during a run, one after the other. -/
def changes (start : σ) : List κ → List α
  | [] => []
  | head :: tail =>
    if observe (step start head) = observe start then
      changes (step start head) tail
    else
      (observe (step start head)).toList ++ changes (step start head) tail

variable {step observe} {initial : α → Prop} {relation : α → α → Prop}

theorem changes_isChain (moves : ∀ state input, Moves initial relation (observe state)
      (observe (step state input))) (start : σ) (inputs : List κ) :
    List.IsChain relation ((observe start).toList ++ changes step observe start inputs) := by
  induction inputs generalizing start with
  | nil =>
    cases observe start with
    | none => exact .nil
    | some value => exact .singleton value
  | cons head tail ih =>
    have behind := ih (step start head)
    have moved := moves start head
    rw [changes]
    split
    next same => rwa [← same]
    next other =>
      generalize observe start = before at moved other ⊢
      generalize observe (step start head) = after at moved other behind ⊢
      cases moved <;> simp_all

theorem changes_head? (moves : ∀ state input, Moves initial relation
      (observe state) (observe (step state input)))
    {start : σ} (unseen : observe start = none) (inputs : List κ) :
    ∀ value ∈ (changes step observe start inputs).head?, initial value := by
  induction inputs generalizing start with
  | nil => exact fun value member => nomatch member
  | cons head tail ih =>
    have moved := moves start head
    rw [unseen] at moved
    rw [changes, unseen]
    generalize seen : observe (step start head) = after at moved ⊢
    cases moved <;> grind

/-- The last one of the values is the one observed now. -/
theorem changes_getLast? (moves : ∀ state input, Moves initial relation
      (observe state) (observe (step state input))) (start : σ) (inputs : List κ) :
    ((observe start).toList ++ changes step observe start inputs).getLast? =
      observe (run step start inputs) := by
  induction inputs generalizing start with
  | nil =>
    rw [changes, List.append_nil, run_nil]
    cases observe start <;> rfl
  | cons head tail ih =>
    have behind := ih (step start head)
    have moved := moves start head
    rw [changes, run_cons, ← behind]
    split
    next same => rw [same]
    next other =>
      generalize observe start = before at moved other ⊢
      generalize observe (step start head) = after at moved other ⊢
      cases moved <;> simp_all

end

/-! ### Loops -/

section

variable {ρ : Type} {turn : σ → σ ⊕ ρ}

/-- A loop, each turn of which goes on or ends with a result; after so many
turns it is given up. -/
def loop (turn : σ → σ ⊕ ρ) : ℕ → σ → Option ρ
  | 0, _ => none
  | turns + 1, state =>
    match turn state with
    | .inl next => loop turn turns next
    | .inr result => some result

theorem loop_le {turns more : ℕ} {state : σ} {result : ρ}
    (ends : loop turn turns state = some result) (le : turns ≤ more) :
    loop turn more state = some result := by
  induction turns generalizing more state with
  | zero => cases ends
  | succ turns ih =>
    cases more with
    | zero => exact absurd le (Nat.not_succ_le_zero _)
    | succ more => grind [loop]

/-- What holds at the start and is kept by every turn that goes on holds in
the turn that ends. -/
theorem loop_invariant {invariant : σ → Prop} {post : ρ → Prop}
    (kept : ∀ state next, invariant state → turn state = .inl next → invariant next)
    (final : ∀ state result, invariant state → turn state = .inr result → post result)
    {turns : ℕ} {state : σ} {result : ρ} (initially : invariant state)
    (ends : loop turn turns state = some result) : post result := by
  induction turns generalizing state <;> grind [loop]

/-- A measure that every turn lowers bounds the turns. -/
theorem loop_of_measure (measure : σ → ℕ) (lowers : ∀ state next, turn state = .inl next →
      measure next < measure state) {turns : ℕ} {state : σ} (enough : measure state < turns) :
    ∃ result, loop turn turns state = some result := by
  induction turns generalizing state with
  | zero => exact absurd enough (Nat.not_lt_zero _)
  | succ turns ih =>
    rw [loop]
    split <;> grind

end

end Effects

namespace Effects

variable {σ κ β : Type} (step : σ → κ → σ × β)

/-- The answers to the inputs that are watched, in their order. -/
def outputs (watches : κ → Bool) : σ → List κ → List β
  | _, [] => []
  | state, input :: inputs =>
    if watches input then
      (step state input).2 :: outputs watches (step state input).1 inputs
    else
      outputs watches (step state input).1 inputs

/-- The states alone. -/
def advance (state : σ) (input : κ) : σ := (step state input).1

variable {step}

/-- The watched inputs are answered as in the run of only the kept ones, where
a relation between the two states survives a kept input on both sides, and any
other on one. -/
theorem outputs_filter {watches keeps : κ → Bool} {condition : σ → κ → Prop}
    (related : σ → σ → Prop) (watched : ∀ input, watches input = true → keeps input = true)
    (kept : ∀ state other input, related state other → condition state input → keeps input = true →
        related (advance step state input) (advance step other input) ∧ (watches input = true →
            (step state input).2 = (step other input).2))
    (dropped : ∀ state other input, related state other →
      condition state input → keeps input = false → related (advance step state input) other)
    {start other : σ} {inputs : List κ} (initially : related start other)
    (along : Along (advance step) condition start inputs) :
    outputs step watches start inputs =
      outputs step watches other (inputs.filter keeps) := by
  induction inputs generalizing start other with
  | nil => rfl
  | cons head tail ih =>
    by_cases keeping : keeps head = true
    · obtain ⟨later, same⟩ := kept _ _ head initially along.1 keeping
      have rest := ih later along.2
      rw [List.filter_cons_of_pos keeping, outputs, outputs]
      split
      next watching => exact congrArg₂ List.cons (same watching) rest
      next => exact rest
    · have unwatched : ¬ watches head = true :=
        fun watching => keeping (watched head watching)
      rw [List.filter_cons_of_neg keeping, outputs, if_neg unwatched]
      exact ih (dropped _ _ head initially along.1 (eq_false_of_ne_true keeping)) along.2

/-- The watched inputs are answered as by another step function, where a
relation between the two states survives every input. -/
theorem outputs_simulated {σ' : Type} {step' : σ' → κ → σ' × β}
    {watches : κ → Bool} {condition : σ → κ → Prop} (related : σ → σ' → Prop)
    (simulated : ∀ state other input, related state other → condition state input →
        related (advance step state input) (advance step' other input) ∧ (watches input = true →
            (step state input).2 = (step' other input).2))
    {start : σ} {other : σ'} {inputs : List κ} (initially : related start other)
    (along : Along (advance step) condition start inputs) :
    outputs step watches start inputs =
      outputs step' watches other inputs := by
  induction inputs generalizing start other with
  | nil => rfl
  | cons head tail ih =>
    obtain ⟨later, same⟩ := simulated _ _ head initially along.1
    have rest := ih later along.2
    rw [outputs, outputs]
    split
    next watching => exact congrArg₂ List.cons (same watching) rest
    next => exact rest

end Effects
