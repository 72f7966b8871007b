/-
Module: MarketX.Effects.Totals
Purpose: Append-only logs, the sums over the entries that a test selects and
  the order of the entries; sums over the rows of a table, and how one saved
  row moves them; lines that are weighed one by one or under their keys.
Trusted boundary: none
Main exports: total, total_append, total_le_of_grows, Preceded, Table.total
-/
import Mathlib.Algebra.BigOperators.Ring.Finset
import Mathlib.Algebra.Order.BigOperators.Group.List
import Mathlib.Algebra.Order.Group.Int
import Mathlib.Data.List.Destutter
import Mathlib.Data.List.DropRight
import Mathlib.Data.Rat.Cast.Defs
import Mathlib.Tactic.Abel
import MarketX.Effects.Table

namespace Effects

variable {α M : Type}

/-! ### Sums over selected entries -/

section

variable [AddCommMonoid M] (selects : α → Bool) (weight : α → M)

/-- The weights of the entries that the test selects, added up. -/
def total (log : List α) : M := ((log.filter selects).map weight).sum

@[simp] theorem total_nil : total selects weight [] = 0 := rfl

@[simp] theorem total_append (front back : List α) :
    total selects weight (front ++ back) =
      total selects weight front + total selects weight back := by simp [total]

variable {selects weight}

/-- Appending entries the test does not select changes no sum. -/
theorem total_eq_zero {log : List α} (unselected : ∀ entry ∈ log, selects entry = false) :
    total selects weight log = 0 := by
  have empty : log.filter selects = [] := List.filter_eq_nil_iff.mpr fun entry member => by
      simp [unselected entry member]
  rw [total, empty, List.map_nil, List.sum_nil]

theorem total_eq_sum {log : List α} (selected : ∀ entry ∈ log, selects entry = true) :
    total selects weight log = (log.map weight).sum := by
  rw [total, List.filter_eq_self.mpr selected]

theorem total_congr {other : α → Bool} {log : List α}
    (same : ∀ entry ∈ log, selects entry = other entry) :
    total selects weight log = total other weight log := by
  rw [total, total, List.filter_congr same]

/-- Two tests that never select one entry split the sum of their union. -/
theorem total_or {other : α → Bool} (log : List α)
    (disjoint : ∀ entry, selects entry = true → other entry = false) :
    total (fun entry => selects entry || other entry) weight log =
      total selects weight log + total other weight log := by induction log <;> grind [total]

/-- A log only gains by growing when no selected weight is negative. -/
theorem total_le_of_grows [PartialOrder M] [IsOrderedAddMonoid M]
    {front log : List α} (grows : front <+: log) (nonneg : ∀ entry ∈ log, 0 ≤ weight entry) :
    total selects weight front ≤ total selects weight log := by
  obtain ⟨added, rfl⟩ := grows
  rw [total_append]
  refine le_add_of_nonneg_right (List.sum_nonneg ?_)
  grind

end

/-! ### The order of entries -/

/-- Every entry with a property stands after the entry `earlier`. -/
def Preceded (property : α → Prop) (earlier : α) (log : List α) : Prop :=
  ∀ front entry back, log = front ++ entry :: back → property entry → earlier ∈ front

variable {property : α → Prop} {earlier : α} {log added : List α}

theorem Preceded.of_absent (absent : ∀ entry ∈ log, ¬ property entry) :
    Preceded property earlier log := by
  intro front entry back split holds
  subst split
  exact absurd holds (absent entry (by simp))

/-- New entries with the property need the earlier one to be there. -/
theorem Preceded.append (old : Preceded property earlier log)
    (new : ∀ entry ∈ added, property entry → earlier ∈ log) :
    Preceded property earlier (log ++ added) := by
  intro front entry back split holds
  rcases List.append_eq_append_iff.mp split with
    ⟨gap, rfl, addedEq⟩ | ⟨gap, logEq, tailEq⟩
  · exact List.mem_append_left _ (new entry (by simp [addedEq]) holds)
  · cases gap with
    | nil => grind
    | cons head rest =>
      obtain ⟨rfl, rfl⟩ := List.cons.inj tailEq
      exact old front entry rest logEq holds

/-! ### Entries and what they were written after -/

/-- Every entry stands in a relation to the entries before it. -/
def EachAfter (relation : List α → α → Prop) (log : List α) : Prop :=
  ∀ front entry back, log = front ++ entry :: back → relation front entry

variable {relation : List α → α → Prop}

theorem eachAfter_iff_get :
    EachAfter relation log ↔ ∀ i : Fin log.length, relation (log.take i) (log.get i) := by
  constructor
  · intro each i
    refine each (log.take i) (log.get i) (log.drop (i + 1)) ?_
    rw [List.get_eq_getElem, List.getElem_cons_drop, List.take_append_drop]
  · rintro each front entry back rfl
    have here := each ⟨front.length, by simp⟩
    simpa using here

instance EachAfter.decidable [∀ front entry, Decidable (relation front entry)]
    (log : List α) : Decidable (EachAfter relation log) := decidable_of_iff _ eachAfter_iff_get.symm

theorem EachAfter.concat (each : EachAfter relation log) {entry : α}
    (new : relation log entry) : EachAfter relation (log ++ [entry]) := by
  intro front other back split
  rcases List.append_eq_append_iff.mp split with
    ⟨gap, rfl, addedEq⟩ | ⟨gap, rfl, tailEq⟩
  · cases gap <;> simp_all
  · cases gap with
    | nil => simp_all
    | cons head rest =>
      obtain ⟨rfl, _⟩ := List.cons.inj tailEq
      exact each front other rest rfl

/-! ### The last entries -/

section

variable [DecidableEq α]

theorem destutter'_concat (first entry : α) (entries : List α) :
    (entries ++ [entry]).destutter' (· ≠ ·) first = if (first :: entries).getLast? = some entry then
        entries.destutter' (· ≠ ·) first
      else entries.destutter' (· ≠ ·) first ++ [entry] := by
  induction entries generalizing first with
  | nil => by_cases same : first = entry <;> simp [same]
  | cons next entries ih =>
    by_cases same : first = next
    · simp_all
    · grind [List.destutter'_cons_pos]

/-- Of entries without repetitions in a row, one more is the last one, unless
it repeats it. -/
theorem destutter_concat (entries : List α) (entry : α) :
    (entries ++ [entry]).destutter (· ≠ ·) =
      if entries.getLast? = some entry then entries.destutter (· ≠ ·)
      else entries.destutter (· ≠ ·) ++ [entry] := by
  cases entries with
  | nil => rfl
  | cons first entries => exact destutter'_concat first entry entries

theorem getLast?_destutter (entries : List α) :
    (entries.destutter (· ≠ ·)).getLast? = entries.getLast? := by
  induction entries using List.reverseRecOn with
  | nil => rfl
  | append_singleton entries entry ih => grind [destutter_concat]

omit [DecidableEq α] in
/-- The last `size` entries, kept by taking the oldest away when there is one
too many. -/
theorem rtake_concat (entries : List α) (entry : α) {size : ℕ} (some : 0 < size) :
    (entries ++ [entry]).rtake size = if size < (entries.rtake size ++ [entry]).length then
        (entries.rtake size ++ [entry]).tail
      else entries.rtake size ++ [entry] := by
  obtain ⟨less, rfl⟩ := Nat.exists_eq_succ_of_ne_zero some.ne'
  rw [List.rtake_concat_succ, List.length_append, List.length_singleton,
    List.rtake, List.rtake, List.length_drop]
  split
  next full =>
    rw [List.tail_append_of_ne_nil, List.tail_drop]
    · congr 2
      omega
    · rw [← List.length_pos_iff, List.length_drop]
      omega
  next room =>
    congr 2
    omega

end

end Effects

namespace Effects.Table

variable {α M : Type} [Keyed α]

/-- The weights of all stored rows together. -/
def total [AddCommMonoid M] (table : Table α) (weight : α → M) : M :=
  (table.rows.map weight).sum

section

variable [AddCommMonoid M]

/-- What is stored under a key weighs something, or nothing is stored. -/
def weightAt (table : Table α) (weight : α → M) (key : ℕ) : M :=
  (table.row key).elim 0 weight

theorem total_eq_sum (table : Table α) (weight : α → M) {bound : ℕ} (above : table.next ≤ bound) :
    table.total weight = ∑ key ∈ Finset.range bound, table.weightAt weight key := by
  have listed : ∀ keys : List ℕ, ((keys.filterMap table.row).map weight).sum =
        (keys.map (table.weightAt weight)).sum := by
    intro keys
    induction keys <;> grind [weightAt]
  have unused : ∀ key ∈ Finset.range bound, key ∉ Finset.range table.next →
      table.weightAt weight key = 0 := by
    intro key _ beyond
    cases stored : table.row key with
    | none => simp [weightAt, stored]
    | some row => exact absurd (Finset.mem_range.mpr (table.bounded stored)) beyond
  rw [total, rows, listed, ← Finset.sum_subset (Finset.range_mono above) unused]
  rfl

/-- The new row's weight comes in place of the old one's. -/
theorem total_save (table : Table α) (row : α) (weight : α → M) :
    (table.save row).total weight + table.weightAt weight (Keyed.key row) =
      table.total weight + weight row := by
  have member : Keyed.key row ∈ Finset.range (table.save row).next := by
    rw [Finset.mem_range]
    exact Nat.lt_of_succ_le (Nat.le_max_right _ _)
  have others : ∀ key ∈ (Finset.range (table.save row).next).erase (Keyed.key row),
        (table.save row).weightAt weight key =
          table.weightAt weight key := by simp_all [weightAt, row_save_of_ne]
  have above : table.next ≤ (table.save row).next := Nat.le_max_left _ _
  have here : (table.save row).weightAt weight (Keyed.key row) =
      weight row := by rw [weightAt, row_save_self, Option.elim_some]
  rw [total_eq_sum _ _ le_rfl, total_eq_sum table weight above,
    ← Finset.add_sum_erase _ _ member, ← Finset.add_sum_erase _ _ member,
    Finset.sum_congr rfl others]
  rw [here]
  abel

variable {table : Table α} {row old : α}

theorem total_insert (weight : α → M) (fresh : table.row (Keyed.key row) = none) :
    (table.save row).total weight = table.total weight + weight row := by
  have saved := table.total_save row weight
  rwa [weightAt, fresh, Option.elim_none, add_zero] at saved

theorem total_replace (weight : α → M) (stored : table.row (Keyed.key row) = some old) :
    (table.save row).total weight + weight old = table.total weight + weight row := by
  have saved := table.total_save row weight
  rwa [weightAt, stored, Option.elim_some] at saved

/-- A row comes in place of one that weighs the same. -/
theorem total_kept [IsRightCancelAdd M]
    (weight : α → M) (stored : table.row (Keyed.key row) = some old)
    (same : weight row = weight old) :
    (table.save row).total weight = table.total weight := by grind [total_replace]

/-- A row that is weighed anew while all others weigh the same. -/
theorem total_reweigh (weight weight' : α → M) (stored : table.row (Keyed.key row) = some row)
    (others : ∀ other, Keyed.key other ≠ Keyed.key row → weight' other = weight other) :
    table.total weight' + weight row = table.total weight + weight' row := by
  have member : Keyed.key row ∈ Finset.range table.next :=
    Finset.mem_range.mpr (table.bounded stored)
  have same : ∀ key ∈ (Finset.range table.next).erase (Keyed.key row),
      table.weightAt weight' key = table.weightAt weight key := by
    intro key kept
    unfold weightAt
    cases found : table.row key with
    | none => rfl
    | some other =>
      apply others
      rw [table.keyed found]
      exact Finset.ne_of_mem_erase kept
  have here : ∀ weight : α → M, table.weightAt weight (Keyed.key row) = weight row := by
    intro weight
    rw [weightAt, stored, Option.elim_some]
  rw [total_eq_sum table weight' le_rfl, total_eq_sum table weight le_rfl,
    ← Finset.add_sum_erase _ _ member, ← Finset.add_sum_erase _ _ member,
    Finset.sum_congr rfl same, here, here]
  abel

theorem total_of_no_rows (weight : α → M)
    (noRows : ∀ key, table.row key = none) : table.total weight = 0 := by
  rw [total_eq_sum table weight le_rfl]
  simp_all [weightAt]

end

theorem total_mono [AddCommMonoid M] [PartialOrder M] [IsOrderedAddMonoid M]
    {table : Table α} {weight weight' : α → M}
    (below : ∀ row ∈ table.rows, weight row ≤ weight' row) :
    table.total weight ≤ table.total weight' := List.sum_le_sum below

theorem total_nonneg (table : Table α) {weight : α → ℤ}
    (nonneg : ∀ row, 0 ≤ weight row) : 0 ≤ table.total weight := by
  apply List.sum_nonneg
  simp_all

end Effects.Table

namespace Effects

variable {α κ M : Type} [DecidableEq κ]

/-- What the lines under one key weigh together. -/
def weightUnder [AddCommMonoid M] (lineKey : α → κ) (weight : α → M)
    (lines : List α) (key : κ) : M :=
  (lines.map fun line => if lineKey line = key then weight line else 0).sum

variable {lineKey : α → κ} {weight : α → ℤ} {lines : List α}

theorem weightUnder_nonneg (nonneg : ∀ line, 0 ≤ weight line) (key : κ) :
    0 ≤ weightUnder lineKey weight lines key := by
  apply List.sum_nonneg
  grind

/-- A line weighs no more than all lines under its key. -/
theorem le_weightUnder (nonneg : ∀ line, 0 ≤ weight line) {line : α} (member : line ∈ lines) :
    weight line ≤ weightUnder lineKey weight lines (lineKey line) := by
  refine List.single_le_sum ?_ _ (List.mem_map.mpr ⟨line, member, if_pos rfl⟩)
  grind

theorem weightUnder_intCast (lineKey : α → κ) (weight : α → ℤ) (lines : List α) (key : κ) :
    weightUnder lineKey (fun line => (weight line : ℚ)) lines key =
      weightUnder lineKey weight lines key := by
  unfold weightUnder
  rw [Int.cast_list_sum, List.map_map]
  congr 2
  funext line
  exact (Int.cast_ite _ _ _).symm

/-- Lines valued one by one come to what each key's weight is worth. -/
theorem sum_grouped [NonUnitalNonAssocSemiring M] {weight : α → M} (value : κ → M) {keys : Finset κ}
    (listed : ∀ line ∈ lines, lineKey line ∈ keys) :
    (lines.map fun line => value (lineKey line) * weight line).sum =
      ∑ key ∈ keys, value key * weightUnder lineKey weight lines key := by
  induction lines <;> simp_all [weightUnder, Finset.sum_add_distrib, mul_add]

end Effects
