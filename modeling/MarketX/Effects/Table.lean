/-
Module: MarketX.Effects.Table
Purpose: Tables of rows that carry their own primary key, as a repository
  over a database presents them: look-up by key, insertion under a generated
  key, saving under the row's key, deletion, enumeration of the stored rows;
  and lists that are sorted and cut, as a query does with rows.
Trusted boundary: none
Main exports: Keyed, Table, Table.insert, Table.save
-/
import Mathlib.Data.List.Range
import Mathlib.Data.List.Sort

namespace Effects

/-- Rows with a generated primary key. -/
class Keyed (α : Type) where
  key : α → ℕ

/-- A table: finitely many rows, each stored under its own key, and the key
the next insertion generates.  Keys are never reused. -/
structure Table (α : Type) [Keyed α] where
  next : ℕ
  row : ℕ → Option α
  keyed : ∀ {key a}, row key = some a → Keyed.key a = key
  bounded : ∀ {key a}, row key = some a → key < next

namespace Table

variable {α : Type} [Keyed α]

/-- The table without rows. -/
def empty : Table α where
  next := 0
  row _ := none
  keyed := nofun
  bounded := nofun

instance : Inhabited (Table α) := ⟨empty⟩

/-- Store a row under its own key, replacing the row that was there. -/
def save (table : Table α) (a : α) : Table α where
  next := max table.next (Keyed.key a + 1)
  row := Function.update table.row (Keyed.key a) (some a)
  keyed {key b} stored := by
    by_cases same : key = Keyed.key a
    · subst same
      simp only [Function.update_self, Option.some.injEq] at stored
      rw [stored]
    · rw [Function.update_of_ne same] at stored
      exact table.keyed stored
  bounded {key b} stored := by
    by_cases same : key = Keyed.key a
    · omega
    · rw [Function.update_of_ne same] at stored
      have := table.bounded stored
      omega

/-- Insert a row; the table chooses its key. -/
def insert (table : Table α) (make : ℕ → α) : Table α := table.save (make table.next)

/-- Take away the row under a key, if there is one. -/
def delete (table : Table α) (key : ℕ) : Table α where
  next := table.next
  row := Function.update table.row key none
  keyed {other a} stored := by
    by_cases same : other = key
    · rw [same, Function.update_self] at stored
      cases stored
    · rw [Function.update_of_ne same] at stored
      exact table.keyed stored
  bounded {other a} stored := by
    by_cases same : other = key
    · rw [same, Function.update_self] at stored
      cases stored
    · rw [Function.update_of_ne same] at stored
      exact table.bounded stored

/-- The stored rows, oldest first. -/
def rows (table : Table α) : List α :=
  (List.range table.next).filterMap table.row

@[simp] theorem row_empty (key : ℕ) : (empty : Table α).row key = none := rfl

@[simp] theorem rows_empty : (empty : Table α).rows = [] := rfl

theorem row_save (table : Table α) (a : α) (key : ℕ) :
    (table.save a).row key = if key = Keyed.key a then some a else table.row key := by
  simp [save, Function.update_apply]

@[simp] theorem row_save_self (table : Table α) (a : α) :
    (table.save a).row (Keyed.key a) = some a := by simp [row_save]

variable {key : ℕ} {table : Table α} {a : α}

theorem row_save_of_ne (table : Table α) (a : α) (other : key ≠ Keyed.key a) :
    (table.save a).row key = table.row key := by simp [row_save, other]

theorem row_delete (table : Table α) (key other : ℕ) :
    (table.delete key).row other = if other = key then none else table.row other := by
  simp [delete, Function.update_apply]

theorem row_foldl_delete (keys : List ℕ) (table : Table α) (other : ℕ) :
    (keys.foldl delete table).row other = if other ∈ keys then none else table.row other := by
  induction keys generalizing table <;> grind [row_delete]

/-- Of several savings the last one under a key counts. -/
theorem row_foldl_save (saved : List α) (table : Table α) (key : ℕ) :
    (saved.foldl save table).row key =
      (saved.reverse.find? fun a => Keyed.key a = key).or (table.row key) := by
  induction saved using List.reverseRecOn with
  | nil => rfl
  | append_singleton saved a ih =>
    rw [List.foldl_concat, List.reverse_concat, row_save]
    grind

/-- No row is stored under the key the next insertion generates. -/
@[simp] theorem row_next (table : Table α) : table.row table.next = none := by
  cases stored : table.row table.next with
  | none => rfl
  | some a => exact absurd (table.bounded stored) (Nat.lt_irrefl _)

/-- Saving a stored row back unchanged changes nothing. -/
theorem save_stored (stored : table.row key = some a) : table.save a = table := by
  have keyEq := table.keyed stored
  obtain ⟨next, row, keyed, bounded⟩ := table
  grind [save, mk.injEq]

/-- Of two savings under one key the second one counts. -/
theorem save_save (table : Table α) {b : α} (same : Keyed.key a = Keyed.key b) :
    (table.save a).save b = table.save b := by simp_all [save]

theorem mem_rows :
    a ∈ table.rows ↔ table.row (Keyed.key a) = some a := by
  constructor
  · intro member
    obtain ⟨key, _, stored⟩ := List.mem_filterMap.mp member
    rwa [table.keyed stored]
  · intro stored
    exact List.mem_filterMap.mpr ⟨Keyed.key a, List.mem_range.mpr (table.bounded stored), stored⟩

theorem mem_rows_of_row (stored : table.row key = some a) : a ∈ table.rows := by
  rw [mem_rows, table.keyed stored]
  exact stored

/-- Stored rows with one key are one row. -/
theorem eq_of_key {b : α} (stored : a ∈ table.rows) (storedToo : b ∈ table.rows)
    (same : Keyed.key a = Keyed.key b) : a = b := by
  rw [mem_rows, same] at stored
  exact Option.some.inj (stored.symm.trans (mem_rows.mp storedToo))

theorem forall_rows_save {holds : α → Prop} :
    (∀ row ∈ (table.save a).rows, holds row) ↔ holds a ∧
        ∀ row ∈ table.rows, Keyed.key row ≠ Keyed.key a → holds row := by
  constructor
  · refine fun all => ⟨all a (mem_rows.mpr (row_save_self table a)), ?_⟩
    intro row member other
    refine all row (mem_rows.mpr ?_)
    rw [row_save_of_ne _ _ other]
    exact mem_rows.mp member
  · rintro ⟨new, old⟩ row member
    have stored := mem_rows.mp member
    rw [row_save] at stored
    split at stored
    next same =>
      cases stored
      exact new
    next other => exact old row (mem_rows.mpr stored) other

/-- What is stored under a key that is new stands behind the others. -/
theorem rows_save_of_next_le (new : table.next ≤ Keyed.key a) :
    (table.save a).rows = table.rows ++ [a] := by
  have last : (table.save a).next = table.next + (Keyed.key a - table.next) +
      1 := by
    show max table.next (Keyed.key a + 1) = _
    omega
  have above : ∀ key, table.next ≤ key → table.row key = none := by
    intro key old
    cases stored : table.row key with
    | none => rfl
    | some row => exact absurd (table.bounded stored) old.not_gt
  have front : (List.range table.next).filterMap (table.save a).row =
      table.rows := by
    refine List.filterMap_congr fun key member => ?_
    exact row_save_of_ne table a ((List.mem_range.mp member).trans_le new).ne
  rw [rows, last, List.range_succ, List.range_add, List.filterMap_append,
    List.filterMap_append, front, List.filterMap_map]
  have between : (List.range (Keyed.key a - table.next)).filterMap
      ((table.save a).row ∘ fun offset => table.next + offset) = [] := by
    refine List.filterMap_eq_nil_iff.mpr fun offset member => ?_
    have below := List.mem_range.mp member
    rw [Function.comp_apply, row_save_of_ne _ _ (by omega)]
    exact above _ (Nat.le_add_right _ _)
  simp_all

theorem rows_sorted (table : Table α) :
    table.rows.Pairwise fun a b => Keyed.key a < Keyed.key b := by
  refine List.Pairwise.filterMap table.row ?_ (List.pairwise_lt_range (n := table.next))
  intro key other below a stored b storedOther
  rw [table.keyed stored, table.keyed storedOther]
  exact below

theorem rows_pairwise (table : Table α) :
    table.rows.Pairwise fun a b => Keyed.key a ≠ Keyed.key b :=
  table.rows_sorted.imp fun below => below.ne

/-- Tables that have the same rows of a kind list them alike. -/
theorem filter_rows_congr {other : Table α} {kind : α → Bool}
    (same : ∀ a, kind a = true → (a ∈ table.rows ↔ a ∈ other.rows)) :
    table.rows.filter kind = other.rows.filter kind := by
  refine List.Pairwise.eq_of_mem_iff (table.rows_sorted.filter kind)
    (other.rows_sorted.filter kind) fun a => ?_
  simp_all

end Table

/-! ### Sorted and cut -/

variable {α : Type} {r first : α → α → Prop} {list : List α}

section

variable [DecidableRel r] [Std.Total r] [IsTrans α r]

/-- Elements that come in front of those that are sorted already are inserted
in front of what they are equal to. -/
theorem pairwise_orderedInsert_stable {a : α}
    (sorted : list.Pairwise fun x y => r x y ∧ (r y x → first x y))
    (front : ∀ b ∈ list, first a b) :
    (list.orderedInsert r a).Pairwise fun x y => r x y ∧ (r y x → first x y) := by
  induction list with
  | nil => simp
  | cons b list ih =>
    obtain ⟨least, sorted⟩ := List.pairwise_cons.mp sorted
    obtain ⟨before, front⟩ := List.forall_mem_cons.mp front
    by_cases le : r a b
    · rw [List.orderedInsert_cons_of_le _ _ le]
      refine List.pairwise_cons.mpr ⟨?_, List.pairwise_cons.mpr ⟨least, sorted⟩⟩
      refine List.forall_mem_cons.mpr ⟨⟨le, fun _ => before⟩, ?_⟩
      intro y member
      exact ⟨trans_of r le (least y member).1, fun _ => front y member⟩
    · rw [List.orderedInsert_of_not_le _ _ le]
      refine List.pairwise_cons.mpr ⟨?_, ih sorted front⟩
      intro y member
      rcases (List.mem_orderedInsert r).mp member with rfl | member
      · exact ⟨(Std.Total.total (r := r) b y).resolve_right le, fun back => absurd back le⟩
      · exact least y member

theorem pairwise_insertionSort_stable (ordered : list.Pairwise first) :
    (list.insertionSort r).Pairwise fun x y => r x y ∧ (r y x → first x y) := by
  induction list <;> simp_all [pairwise_orderedInsert_stable]

end

/-- In a list that is in a strict order, the elements that come before one of
them are counted to find it among the first ones. -/
theorem mem_take_iff [DecidableRel r]
    (asymmetric : ∀ {a b}, r a b → ¬ r b a) (ordered : list.Pairwise r)
    {a : α} (member : a ∈ list) (count : ℕ) :
    a ∈ list.take count ↔ (list.countP fun b => r b a) < count := by
  have irreflexive : ∀ a, ¬ r a a := fun _ same => asymmetric same same
  induction list generalizing count with
  | nil => cases member
  | cons head tail ih =>
    obtain ⟨least, ordered⟩ := List.pairwise_cons.mp ordered
    cases count with
    | zero => simp
    | succ count =>
      rcases List.mem_cons.mp member with rfl | later
      · have none : (tail.countP fun b => r b a) = 0 := by simp_all
        simp [irreflexive, none]
      · grind

end Effects
