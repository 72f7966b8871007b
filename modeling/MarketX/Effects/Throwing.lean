/-
Module: MarketX.Effects.Throwing
Purpose: When a computation without effects, built by binding and by mapping
  over a list, gets through without throwing; and computations that write a
  state, which stays as they have left it when they throw.
Trusted boundary: none
Main exports: Succeeds, bind_eq_ok, map_eq_ok, succeeds_bind
-/
import Mathlib.Tactic.Common

namespace Effects

variable {ε α β : Type}

/-- The computation does not throw. -/
def Succeeds (outcome : Except ε α) : Prop := ∃ value, outcome = .ok value

@[simp] theorem succeeds_ok (value : α) :
    Succeeds (.ok value : Except ε α) := ⟨value, rfl⟩

@[simp] theorem succeeds_pure (value : α) :
    Succeeds (pure value : Except ε α) := ⟨value, rfl⟩

@[simp] theorem not_succeeds_error (error : ε) :
    ¬ Succeeds (.error error : Except ε α) := by
  rintro ⟨value, same⟩
  cases same

theorem not_succeeds {outcome : Except ε α} :
    ¬ Succeeds outcome ↔ ∃ error, outcome = .error error := by
  cases outcome with
  | error error => simp
  | ok value => simp

variable {first : Except ε α} {next : α → Except ε β} {value : β} {list : List α}

theorem bind_eq_ok :
    first >>= next = .ok value ↔ ∃ middle, first = .ok middle ∧ next middle = .ok value := by
  cases first <;> simp [bind, Except.bind]

theorem map_eq_ok {next : α → β} :
    first.map next = .ok value ↔ ∃ middle, first = .ok middle ∧ next middle = value := by
  cases first <;> simp [Except.map]

theorem succeeds_bind :
    Succeeds (first >>= next) ↔ ∃ middle, first = .ok middle ∧ Succeeds (next middle) := by
  constructor
  · rintro ⟨value, done⟩
    obtain ⟨middle, started, finished⟩ := bind_eq_ok.mp done
    exact ⟨middle, started, value, finished⟩
  · rintro ⟨middle, started, value, finished⟩
    exact ⟨value, bind_eq_ok.mpr ⟨middle, started, finished⟩⟩

/-- One element that throws is enough for the list to. -/
theorem succeeds_mapM {each : α → Except ε β} :
    Succeeds (list.mapM each) ↔ ∀ element ∈ list, Succeeds (each element) := by
  induction list with
  | nil => simp
  | cons head tail ih =>
    rw [List.mapM_cons, succeeds_bind, List.forall_mem_cons, ← ih]
    constructor
    · rintro ⟨value, started, finished⟩
      obtain ⟨values, others, _⟩ := succeeds_bind.mp finished
      exact ⟨⟨value, started⟩, ⟨values, others⟩⟩
    · rintro ⟨⟨value, started⟩, ⟨values, others⟩⟩
      exact ⟨value, started, succeeds_bind.mpr ⟨values, others, succeeds_pure _⟩⟩

theorem succeeds_foldlM {next : β → α → Except ε β}
    (each : ∀ element ∈ list, ∀ state, Succeeds (next state element))
    (start : β) : Succeeds (list.foldlM next start) := by
  induction list generalizing start with
  | nil => exact succeeds_pure start
  | cons head tail ih =>
    obtain ⟨middle, started⟩ := each head List.mem_cons_self start
    have others : ∀ element ∈ tail, ∀ state, Succeeds (next state element) :=
      fun element member => each element (List.mem_cons_of_mem head member)
    exact succeeds_bind.mpr ⟨middle, started, ih others middle⟩

/-! ### Computations that write -/

/-- A computation on a state.  What it has written stays when it throws. -/
abbrev Writing (σ ε : Type) := ExceptT ε (StateM σ)

namespace Writing

variable {σ γ : Type}

theorem get_bind (next : σ → Writing σ ε α) (state : σ) :
    (get >>= next) state = next state state := rfl

theorem bind_apply (first : Writing σ ε α) (next : α → Writing σ ε β) (state : σ) :
    (first >>= next) state =
      match first state with
      | (.ok value, after) => next value after
      | (.error error, after) => (.error error, after) := by
  show ExceptT.bindCont next (first state).1 (first state).2 = _
  rcases first state with ⟨_ | _, _⟩ <;> rfl

theorem forM_cons (head : α) (tail : List α) (each : α → Writing σ ε PUnit) :
    (head :: tail).forM each = each head >>= fun _ => tail.forM each := rfl

/-- The computation leaves what is observed as it is. -/
def Keeps (observe : σ → γ) (call : Writing σ ε α) : Prop :=
  ∀ state, observe (call state).2 = observe state

variable {observe : σ → γ}

theorem Keeps.bind {call : Writing σ ε α} {next : α → Writing σ ε β} (first : Keeps observe call)
    (others : ∀ value, Keeps observe (next value)) :
    Keeps observe (call >>= next) := by
  intro state
  have before := first state
  rw [bind_apply]
  rcases outcome : call state with ⟨_ | value, after⟩
  · rw [outcome] at before
    exact before
  · rw [outcome] at before
    exact (others value after).trans before

theorem Keeps.forM {call : α → Writing σ ε PUnit} {list : List α}
    (each : ∀ element ∈ list, Keeps observe (call element)) :
    Keeps observe (list.forM call) := by
  induction list with
  | nil => exact fun _ => rfl
  | cons head tail ih =>
    obtain ⟨first, others⟩ := List.forall_mem_cons.mp each
    exact first.bind fun _ => ih others

end Writing

end Effects
