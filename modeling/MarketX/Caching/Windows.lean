/-
Module: MarketX.Caching.Windows
Purpose: Times that are admitted up to a limit in windows that follow one
  another, and how many of them lie in any interval as long as a window; the
  window that opens with the first time after the one before; and times of
  which no interval of a length has too many.
Trusted boundary: none
Main exports: Tumbling, Tumbling.lets_in, Tumbling.reopen, Tumbling.openRight
-/
import Mathlib.Algebra.Order.Group.Defs
import Mathlib.Tactic.Common

namespace Caching

variable {α : Type} [AddCommGroup α] [LinearOrder α]

/-- The current window has been opened at a time and has admitted so many;
all times lie before its end, not more than the limit in the length before it,
and in any interval as long as a window at most twice as many. -/
structure Tumbling (width : α) (limit : ℕ) (opened : α) (used : ℕ)
    (times : List α) : Prop where
  within : used ≤ limit
  before : ∀ time ∈ times, time < opened + width
  current : times.countP (opened ≤ ·) ≤ used
  previous : times.countP (fun time => opened - width ≤ time ∧ time < opened) ≤ limit
  openRight : ∀ start, times.countP (fun time => start ≤ time ∧ time < start + width) ≤ 2 * limit
  openLeft : ∀ start, times.countP (fun time => start < time ∧ time ≤ start + width) ≤ 2 * limit

theorem countP_le_add {β : Type} {test first second : β → Bool} (covers : ∀ item, test item = true →
      first item = true ∨ second item = true) (items : List β) :
    items.countP test ≤ items.countP first + items.countP second := by induction items <;> grind

namespace Tumbling

variable {width opened now : α} {limit used : ℕ} {times : List α}

theorem nil (width : α) (limit : ℕ) (opened : α) :
    Tumbling width limit opened 0 [] := by constructor <;> simp

/-- A window that opens after the end of the current one. -/
theorem reopen [IsOrderedAddMonoid α] (tumbling : Tumbling width limit opened used times)
    (positive : 0 < width) (ended : opened + width ≤ now) :
    Tumbling width limit now 0 times := by
  have before : ∀ time ∈ times, time < now :=
    fun time member => (tumbling.before time member).trans_le ended
  constructor
  · exact Nat.zero_le _
  · exact fun time member =>
      (before time member).trans (lt_add_of_pos_right now positive)
  · simp_all
  · refine le_trans ?_ (tumbling.current.trans tumbling.within)
    apply List.countP_mono_left
    grind
  · exact tumbling.openRight
  · exact tumbling.openLeft

theorem countP_le_of_late {test : α → Bool} (tumbling : Tumbling width limit opened used times)
    (late : ∀ time, test time = true → opened - width ≤ time) :
    times.countP test ≤ limit + used := by
  have split : times.countP test ≤
      times.countP (fun time => opened - width ≤ time ∧ time < opened) +
        times.countP (opened ≤ ·) := by simp_all [countP_le_add, lt_or_ge]
  have current := tumbling.current
  have previous := tumbling.previous
  omega

/-- One more time in the current window, where the limit is not reached. -/
theorem lets_in [IsOrderedAddMonoid α] (tumbling : Tumbling width limit opened used times)
    (started : opened ≤ now) (running : now < opened + width) (room : used < limit) :
    Tumbling width limit opened (used + 1) (now :: times) := by
  -- an interval with the new time begins within the length before the window
  have within : ∀ test : α → Bool, (∀ time, test time = true → opened - width ≤ time) →
        (now :: times).countP test ≤ 2 * limit := by
    intro test late
    have fewer := tumbling.countP_le_of_late late
    rw [List.countP_cons]
    split <;> omega
  constructor
  · exact room
  · exact List.forall_mem_cons.mpr ⟨running, tumbling.before⟩
  · rw [List.countP_cons, if_pos (decide_eq_true started)]
    exact Nat.add_le_add_right tumbling.current 1
  · rw [List.countP_cons, if_neg (by simpa using fun _ => started)]
    exact tumbling.previous
  · intro start
    by_cases covers : start ≤ now ∧ now < start + width
    · grind
    · rw [List.countP_cons, if_neg (by simpa using covers)]
      exact tumbling.openRight start
  · intro start
    by_cases covers : start < now ∧ now ≤ start + width
    · grind
    · rw [List.countP_cons, if_neg (by simpa using covers)]
      exact tumbling.openLeft start

end Tumbling

/-! ### Windows that times open -/

/-- When a window was opened, and how many times lie in it. -/
structure Opened (α : Type) where
  since : α
  count : ℕ
deriving DecidableEq

/-- The window of the latest time, which comes first.  A time that lies after
the end of the window before it opens the next one. -/
def windowOf (width : α) : List α → Option (Opened α)
  | [] => none
  | time :: earlier =>
    match windowOf width earlier with
    | none => some ⟨time, 1⟩
    | some window =>
      if time < window.since + width then
        some { window with count := window.count + 1 }
      else some ⟨time, 1⟩

section

variable {width time : α} {earlier : List α} {window : Opened α}

theorem windowOf_running (before : windowOf width earlier = some window)
    (running : time < window.since + width) :
    windowOf width (time :: earlier) = some { window with count := window.count + 1 } := by
  rw [windowOf, before]
  exact if_pos running

theorem windowOf_lapsed (lapsed : ∀ window,
      windowOf width earlier = some window → window.since + width ≤ time) :
    windowOf width (time :: earlier) = some ⟨time, 1⟩ := by
  rw [windowOf]
  grind

theorem windowOf_pos {times : List α} (open? : windowOf width times = some window) :
    0 < window.count := by cases times <;> grind [windowOf]

end

/-! ### Sliding windows -/

/-- In no interval of the width that is open at one end lie more than so many
of the times. -/
structure Spaced (width : α) (limit : ℕ) (times : List α) : Prop where
  openRight : ∀ start, times.countP (fun time => start ≤ time ∧ time < start + width) ≤ limit
  openLeft : ∀ start, times.countP (fun time => start < time ∧ time ≤ start + width) ≤ limit

theorem Spaced.nil (width : α) (limit : ℕ) : Spaced width limit [] :=
  ⟨fun _ => Nat.zero_le _, fun _ => Nat.zero_le _⟩

theorem Spaced.perm {width : α} {limit : ℕ} {times others : List α}
    (spaced : Spaced width limit times) (same : times.Perm others) :
    Spaced width limit others := by
  constructor
  · intro start
    rw [← same.countP_eq]
    exact spaced.openRight start
  · intro start
    rw [← same.countP_eq]
    exact spaced.openLeft start

/-- One more time, where fewer than the limit are later than the width before
it. -/
theorem Spaced.cons [IsOrderedAddMonoid α] {width now : α} {limit : ℕ}
    {times : List α} (spaced : Spaced width limit times)
    (room : times.countP (now - width < ·) < limit) :
    Spaced width limit (now :: times) := by
  -- an interval with the new time begins within the width before it
  have within : ∀ test : α → Bool, (∀ time, test time = true → now - width < time) →
        (now :: times).countP test ≤ limit := by
    intro test late
    have fewer : times.countP test ≤ times.countP (now - width < ·) :=
      List.countP_mono_left fun time _ holds => decide_eq_true (late time holds)
    rw [List.countP_cons]
    split <;> omega
  constructor
  · intro start
    by_cases covers : start ≤ now ∧ now < start + width
    · grind
    · rw [List.countP_cons, if_neg (by simpa using covers)]
      exact spaced.openRight start
  · intro start
    by_cases covers : start < now ∧ now ≤ start + width
    · grind
    · rw [List.countP_cons, if_neg (by simpa using covers)]
      exact spaced.openLeft start

end Caching
