/-
Module: MarketX.Caching.SortedSet
Purpose: Sets whose members have scores: adding, removing, removing by score,
  and how many members have a score of some kind.
Trusted boundary: none
Main exports: SortedSet, SortedSet.add, SortedSet.remove, SortedSet.removeRange
-/
import Mathlib.Order.Lattice
import Mathlib.Data.List.Nodup

namespace Caching

/-- Members with their scores, each member once. -/
structure SortedSet (μ σ : Type) where
  entries : List (μ × σ)
  nodup : (entries.map Prod.fst).Nodup
deriving DecidableEq

namespace SortedSet

variable {μ σ : Type}

@[ext] theorem ext {set other : SortedSet μ σ}
    (entries : set.entries = other.entries) : set = other := by
  cases set
  cases other
  cases entries
  rfl

def empty : SortedSet μ σ := ⟨[], List.nodup_nil⟩

def card (set : SortedSet μ σ) : ℕ := set.entries.length

instance : Membership μ (SortedSet μ σ) :=
  ⟨fun set member => member ∈ set.entries.map Prod.fst⟩

instance [DecidableEq μ] (member : μ) (set : SortedSet μ σ) :
    Decidable (member ∈ set) := inferInstanceAs (Decidable (member ∈ set.entries.map Prod.fst))

theorem eq_empty_of_card {set : SortedSet μ σ} (none : set.card = 0) :
    set = empty := ext (List.eq_nil_of_length_eq_zero none)

def filter (set : SortedSet μ σ) (keeps : μ × σ → Bool) : SortedSet μ σ where
  entries := set.entries.filter keeps
  nodup := set.nodup.sublist (List.filter_sublist.map Prod.fst)

theorem mem_of_mem_filter {set : SortedSet μ σ} {keeps : μ × σ → Bool}
    {member : μ} (kept : member ∈ set.filter keeps) : member ∈ set :=
  List.map_subset Prod.fst (List.filter_subset_self _) kept

section

variable [DecidableEq μ]

def remove (set : SortedSet μ σ) (member : μ) : SortedSet μ σ :=
  set.filter fun entry => entry.1 ≠ member

theorem not_mem_remove (set : SortedSet μ σ) (member : μ) :
    member ∉ set.remove member := by
  intro found
  obtain ⟨entry, kept, rfl⟩ := List.mem_map.mp found
  simpa using (List.mem_filter.mp kept).2

/-- A member that is there already gets a new score. -/
def add (set : SortedSet μ σ) (member : μ) (score : σ) : SortedSet μ σ where
  entries := (member, score) :: (set.remove member).entries
  nodup := List.nodup_cons.mpr ⟨set.not_mem_remove member, (set.remove member).nodup⟩

theorem mem_entries_add {set : SortedSet μ σ} {member : μ} {score : σ}
    {entry : μ × σ} (found : entry ∈ (set.add member score).entries) :
    entry = (member, score) ∨ entry ∈ set.entries :=
  (List.mem_cons.mp found).imp_right List.mem_of_mem_filter

theorem remove_of_not_mem {set : SortedSet μ σ} {member : μ}
    (new : member ∉ set) : set.remove member = set := by
  apply ext
  apply List.filter_eq_self.mpr
  intro entry found
  apply decide_eq_true
  rintro rfl
  exact new (List.mem_map_of_mem found)

/-- A new member that is added and removed leaves no trace. -/
theorem remove_add {set : SortedSet μ σ} {member : μ} (new : member ∉ set)
    (score : σ) : (set.add member score).remove member = set := by
  apply ext
  calc ((set.add member score).remove member).entries
      = ((member, score) :: (set.remove member).entries).filter
          (fun entry => entry.1 ≠ member) := rfl
    _ = (set.remove member).entries.filter (fun entry => entry.1 ≠ member) :=
        List.filter_cons_of_neg (by simp)
    _ = ((set.remove member).remove member).entries := rfl
    _ = set.entries := by rw [remove_of_not_mem new, remove_of_not_mem new]

end

def removeRange [LinearOrder σ] (set : SortedSet μ σ) (low high : σ) :
    SortedSet μ σ := set.filter fun entry => ¬ (low ≤ entry.2 ∧ entry.2 ≤ high)

/-! ### Counting by score -/

/-- The number of members with a score of a kind. -/
def count (set : SortedSet μ σ) (test : σ → Bool) : ℕ :=
  set.entries.countP fun entry => test entry.2

variable {set : SortedSet μ σ} {test : σ → Bool}

theorem count_le_card : set.count test ≤ set.card := List.countP_le_length

theorem count_filter_le (keeps : μ × σ → Bool) :
    (set.filter keeps).count test ≤ set.count test := List.filter_sublist.countP_le

theorem count_filter {keeps : μ × σ → Bool} (kept : ∀ entry ∈ set.entries, test entry.2 = true →
      keeps entry = true) : (set.filter keeps).count test = set.count test := by
  show (set.entries.filter keeps).countP _ = set.entries.countP _
  rw [List.countP_filter]
  apply List.countP_congr
  simp_all

section

variable [DecidableEq μ] {member : μ} {score : σ}

theorem count_add (new : member ∉ set) :
    (set.add member score).count test = set.count test + if test score then 1 else 0 := by
  show List.countP _ ((member, score) :: (set.remove member).entries) = _
  rw [remove_of_not_mem new, List.countP_cons]
  rfl

theorem count_add_le :
    (set.add member score).count test ≤ set.count test + if test score then 1 else 0 := by
  show List.countP _ ((member, score) :: (set.remove member).entries) ≤ _
  rw [List.countP_cons]
  exact Nat.add_le_add_right (count_filter_le _) _

end

/-- Removing by score leaves the scores out of the range. -/
theorem count_removeRange [LinearOrder σ] {low high : σ}
    (spared : ∀ score, test score = true → high < score) :
    (set.removeRange low high).count test = set.count test := by
  apply count_filter
  simp_all

/-! ### Removing by score twice -/

section

variable [LinearOrder σ] {low high later : σ}

theorem removeRange_comm :
    (set.removeRange low high).removeRange low later =
      (set.removeRange low later).removeRange low high := ext (List.filter_comm ..)

theorem card_removeRange_le :
    (set.removeRange low high).card ≤ set.card := List.length_filter_le ..

/-- The first removal takes nothing that the second one does not. -/
theorem removeRange_removeRange (taken : ∀ entry ∈ set.entries, low ≤ entry.2 → entry.2 ≤ high →
      entry.2 ≤ later) :
    (set.removeRange low high).removeRange low later =
      set.removeRange low later := by
  rw [removeRange_comm]
  apply ext
  apply List.filter_eq_self.mpr
  intro entry kept
  obtain ⟨found, spared⟩ := List.mem_filter.mp kept
  grind

/-- The first removal takes something that the second one does not. -/
theorem card_removeRange_removeRange {entry : μ × σ}
    (found : entry ∈ set.entries) (above : low ≤ entry.2)
    (below : entry.2 ≤ high) (spared : later < entry.2) :
    ((set.removeRange low high).removeRange low later).card < (set.removeRange low later).card := by
  rw [removeRange_comm]
  apply List.length_filter_lt_length_iff_exists.mpr
  refine ⟨entry, List.mem_filter.mpr ⟨found, decide_eq_true ?_⟩, ?_⟩
  · exact fun inside => spared.not_ge inside.2
  · simp [above, below]

end

end SortedSet

end Caching
