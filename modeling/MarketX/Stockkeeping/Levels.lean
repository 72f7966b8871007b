/-
Module: MarketX.Stockkeeping.Levels
Purpose: Stock levels: what is on hand, what of it is reserved and what is
  left, the movements between them, and tables of rows that carry levels.
Trusted boundary: none
Main exports: Levels, Levels.Sound, Movement, Movement.apply
-/
import Mathlib.Algebra.Ring.Int.Defs
import Mathlib.Algebra.Order.BigOperators.Group.List
import Mathlib.Algebra.Order.Group.Int
import MarketX.Effects.Table

namespace Stockkeeping

open Effects

/-- Levels of one kind of goods. -/
@[ext] structure Levels where
  quantity : ℤ
  reserved : ℤ
  available : ℤ
deriving DecidableEq

namespace Levels

/-- The levels in which what is not reserved is available. -/
def booked (quantity reserved : ℤ) : Levels :=
  ⟨quantity, reserved, quantity - reserved⟩

/-- The equation holds, and no more is reserved than is there. -/
structure Sound (levels : Levels) : Prop where
  available : levels.available = levels.quantity - levels.reserved
  reserved_nonneg : 0 ≤ levels.reserved
  reserved_le : levels.reserved ≤ levels.quantity

variable {levels : Levels} {quantity reserved : ℤ}

theorem Sound.available_nonneg (sound : levels.Sound) :
    0 ≤ levels.available := by
  have equation := sound.available
  have bound := sound.reserved_le
  omega

theorem eq_booked (equation : levels.available = levels.quantity - levels.reserved) :
    levels = booked levels.quantity levels.reserved := by rw [booked, ← equation]

theorem booked_eq_iff :
    booked quantity reserved = levels ↔ quantity = levels.quantity ∧ reserved = levels.reserved ∧
        levels.available = levels.quantity - levels.reserved := by
  constructor
  · rintro rfl
    exact ⟨rfl, rfl, rfl⟩
  · rintro ⟨rfl, rfl, equation⟩
    exact (eq_booked equation).symm

theorem sound_booked (nonneg : 0 ≤ reserved)
    (bound : reserved ≤ quantity) : (booked quantity reserved).Sound :=
  ⟨rfl, nonneg, bound⟩

end Levels

/-- Taking off a reserved quantity stops at zero. -/
def lowered (reserved amount : ℤ) : ℤ :=
  if reserved - amount < 0 then 0 else reserved - amount

theorem lowered_eq (reserved amount : ℤ) :
    lowered reserved amount = max 0 (reserved - amount) := by
  rw [lowered]
  split <;> omega

variable {reserved : ℤ} {levels after : Levels} {amounts : List ℤ}

theorem lowered_zero (nonneg : 0 ≤ reserved) :
    lowered reserved 0 = reserved := by
  rw [lowered_eq]
  omega

theorem lowered_lowered {second : ℤ} (nonneg : 0 ≤ second) (reserved first : ℤ) :
    lowered (lowered reserved first) second = lowered reserved (first + second) := by
  simp only [lowered_eq]
  omega

/-- What can happen to the levels. -/
inductive Movement where
  | reserve (amount : ℤ)
  | release (amount : ℤ)
  | sell (amount : ℤ)
  | restock (change : ℤ)
deriving DecidableEq

namespace Movement

/-- The levels after a movement; a reservation that is not covered is
refused. -/
def apply : Movement → Levels → Option Levels
  | .reserve amount, levels =>
    if levels.available < amount then none
    else some (.booked levels.quantity (levels.reserved + amount))
  | .release amount, levels => some (.booked levels.quantity (lowered levels.reserved amount))
  | .sell amount, levels =>
    some (.booked (levels.quantity - amount) (lowered levels.reserved amount))
  | .restock change, levels => some (.booked (levels.quantity + change) levels.reserved)

/-- Movements that take nothing off the shelf. -/
def Gentle : Movement → Prop
  | .reserve amount | .release amount | .restock amount => 0 ≤ amount
  | .sell _ => False

/-- Movements that the levels bear. -/
def Borne (levels : Levels) : Movement → Prop
  | .reserve amount | .release amount => 0 ≤ amount
  | .sell amount => 0 ≤ amount ∧ amount ≤ levels.quantity
  | .restock change => 0 ≤ levels.available + change

theorem Gentle.borne {movement : Movement} (gentle : movement.Gentle)
    {levels : Levels} (sound : levels.Sound) : movement.Borne levels := by
  have available := sound.available_nonneg
  cases movement with
  | reserve amount => exact gentle
  | release amount => exact gentle
  | sell amount => exact gentle.elim
  | restock change => exact Int.add_nonneg available gentle

/-- A movement that the levels bear keeps them sound. -/
theorem Borne.sound {levels after : Levels} {movement : Movement}
    (borne : movement.Borne levels) (sound : levels.Sound)
    (applied : movement.apply levels = some after) : after.Sound := by
  obtain ⟨equation, nonneg, bound⟩ := sound
  cases movement with
  | reserve amount =>
    rw [apply] at applied
    split at applied
    · cases applied
    next covered =>
      cases applied
      have positive : 0 ≤ amount := borne
      exact Levels.sound_booked (by omega) (by omega)
  | release amount =>
    cases applied
    have positive : 0 ≤ amount := borne
    grind [lowered_eq, Levels.sound_booked]
  | sell amount =>
    cases applied
    obtain ⟨positive, covered⟩ := borne
    simp_all [lowered_eq, Levels.sound_booked]
  | restock change =>
    cases applied
    have covered : 0 ≤ levels.available + change := borne
    exact Levels.sound_booked nonneg (by omega)

end Movement

/-! ### Several movements -/

/-- One movement after the other. -/
def followAll (movements : List Movement) (levels : Levels) : Option Levels :=
  movements.foldlM (fun levels movement => movement.apply levels) levels

@[simp] theorem followAll_nil (levels : Levels) :
    followAll [] levels = some levels := rfl

theorem followAll_cons (head : Movement) (tail : List Movement) (levels : Levels) :
    followAll (head :: tail) levels = (head.apply levels).bind (followAll tail) := rfl

theorem followAll_append (front back : List Movement) (levels : Levels) :
    followAll (front ++ back) levels = (followAll front levels).bind (followAll back) :=
  List.foldlM_append

/-- Gentle movements keep the levels sound, one by one. -/
theorem followAll_sound {movements : List Movement}
    (gentle : ∀ movement ∈ movements, movement.Gentle)
    (sound : levels.Sound) (followed : followAll movements levels = some after) :
    after.Sound := by
  induction movements generalizing levels with
  | nil =>
    cases followed
    exact sound
  | cons head tail ih =>
    rw [followAll_cons, Option.bind_eq_some_iff] at followed
    obtain ⟨middle, first, rest⟩ := followed
    exact ih (fun movement member => gentle movement (List.mem_cons_of_mem _ member))
      (((gentle head List.mem_cons_self).borne sound).sound sound first) rest

/-- Sales add up, and so does what they take off the reserved quantity. -/
theorem followAll_sells (positive : ∀ amount ∈ amounts, 0 ≤ amount)
    (equation : levels.available = levels.quantity - levels.reserved) (nonneg : 0 ≤ levels.reserved)
    (followed : followAll (amounts.map .sell) levels = some after) :
    after = .booked (levels.quantity - amounts.sum) (lowered levels.reserved amounts.sum) := by
  induction amounts generalizing levels with
  | nil =>
    rw [← Option.some.inj followed, List.sum_nil, sub_zero, lowered_zero nonneg]
    exact Levels.eq_booked equation
  | cons head tail ih =>
    have others : ∀ amount ∈ tail, 0 ≤ amount := fun amount member =>
      positive amount (List.mem_cons_of_mem _ member)
    have lowest : 0 ≤ lowered levels.reserved head := by
      rw [lowered_eq]
      exact le_max_left _ _
    rw [ih others rfl lowest followed, List.sum_cons]
    show Levels.booked (levels.quantity - head - tail.sum)
      (lowered (lowered levels.reserved head) tail.sum) = _
    rw [lowered_lowered (List.sum_nonneg others), sub_sub]

/-- What some reservations have done to the levels: all of them are in the
reserved quantity, and together they took no more than was available. -/
structure Levels.Granted (levels after : Levels) (total : ℤ) : Prop where
  quantity : after.quantity = levels.quantity
  reserved : after.reserved = levels.reserved + total
  bound : total ≤ max 0 (max levels.available (levels.quantity - levels.reserved))
  within_available : 0 ≤ levels.available → levels.quantity - levels.reserved ≤ levels.available →
      total ≤ levels.available

/-- Reservations add up, and never to more than there was. -/
theorem followAll_reserves (positive : ∀ amount ∈ amounts, 0 < amount)
    (followed : followAll (amounts.map .reserve) levels = some after) :
    levels.Granted after amounts.sum := by
  induction amounts generalizing levels with
  | nil =>
    cases followed
    exact ⟨rfl, (add_zero _).symm, le_max_left _ _, fun nonneg _ => nonneg⟩
  | cons head tail ih =>
    rw [List.map_cons, followAll_cons, Movement.apply] at followed
    split at followed
    · cases followed
    next covered =>
      obtain ⟨quantity, reserved, bound, _⟩ := ih
        (fun amount member => positive amount (List.mem_cons_of_mem _ member)) followed
      simp only [Levels.booked] at quantity reserved bound
      rw [List.sum_cons]
      refine ⟨quantity, by rw [reserved, add_assoc], by omega, ?_⟩
      intro nonneg step
      omega

theorem followAll_restocks_booked (changes : List ℤ) (quantity reserved : ℤ) :
    followAll (changes.map .restock) (.booked quantity reserved) =
      some (.booked (quantity + changes.sum) reserved) := by
  induction changes generalizing quantity with
  | nil => rw [List.sum_nil, add_zero]; rfl
  | cons head tail ih =>
    rw [List.map_cons, followAll_cons, List.sum_cons, ← add_assoc]
    exact ih (quantity + head)

theorem followAll_restocks {changes : List ℤ}
    (equation : levels.available = levels.quantity - levels.reserved)
    (followed : followAll (changes.map .restock) levels = some after) :
    after = .booked (levels.quantity + changes.sum) levels.reserved := by
  grind [Levels.eq_booked, followAll_restocks_booked]

theorem followAll_releases_booked
    (positive : ∀ amount ∈ amounts, 0 ≤ amount) (nonneg : 0 ≤ reserved) (quantity : ℤ) :
    followAll (amounts.map .release) (.booked quantity reserved) =
      some (.booked quantity (lowered reserved amounts.sum)) := by
  induction amounts generalizing reserved with
  | nil => rw [List.sum_nil, lowered_zero nonneg]; rfl
  | cons head tail ih =>
    rw [List.forall_mem_cons] at positive
    have lowest : 0 ≤ lowered reserved head := by
      rw [lowered_eq]
      exact le_max_left _ _
    rw [List.map_cons, followAll_cons, List.sum_cons,
      ← lowered_lowered (List.sum_nonneg positive.2)]
    exact ih positive.2 lowest

/-! ### Movements that change nothing -/

section

variable {levels : Levels} {amounts : List ℤ}

/-- Restocking changes nothing where it adds up to nothing; the first of it
makes available what is not reserved. -/
theorem restocks_idle_iff (moved : amounts ≠ []) :
    followAll (amounts.map .restock) levels = some levels ↔ amounts.sum = 0 ∧
        levels.available = levels.quantity - levels.reserved := by
  obtain ⟨head, tail, rfl⟩ := List.exists_cons_of_ne_nil moved
  have followed : followAll ((head :: tail).map .restock) levels =
      some (.booked (levels.quantity + head + tail.sum) levels.reserved) :=
    followAll_restocks_booked tail _ _
  grind [Levels.booked_eq_iff]

/-- Releases change nothing where nothing is reserved. -/
theorem releases_idle_iff (moved : amounts ≠ []) (positive : ∀ amount ∈ amounts, 0 < amount) :
    followAll (amounts.map .release) levels = some levels ↔ levels.reserved = 0 ∧
        levels.available = levels.quantity - levels.reserved := by
  obtain ⟨head, tail, rfl⟩ := List.exists_cons_of_ne_nil moved
  rw [List.forall_mem_cons] at positive
  have rest : ∀ amount ∈ tail, 0 ≤ amount := fun amount member =>
    le_of_lt (positive.2 amount member)
  have lowest : 0 ≤ lowered levels.reserved head := by
    rw [lowered_eq]
    exact le_max_left _ _
  have followed : followAll ((head :: tail).map .release) levels = some (.booked levels.quantity
        (lowered (lowered levels.reserved head) tail.sum)) :=
    followAll_releases_booked rest lowest _
  have others := List.sum_nonneg rest
  rw [followed, Option.some_inj, Levels.booked_eq_iff, lowered_lowered others, lowered_eq]
  omega

theorem reserves_not_idle (moved : amounts ≠ []) (positive : ∀ amount ∈ amounts, 0 < amount) :
    followAll (amounts.map .reserve) levels ≠ some levels := by
  intro followed
  have reserved := (followAll_reserves positive followed).reserved
  have total := List.sum_pos amounts positive moved
  omega

theorem followAll_sells_quantity {after : Levels}
    (followed : followAll (amounts.map .sell) levels = some after) :
    after.quantity = levels.quantity - amounts.sum := by
  induction amounts generalizing levels with
  | nil =>
    cases followed
    rw [List.sum_nil, sub_zero]
  | cons head tail ih =>
    rw [ih followed, List.sum_cons, ← sub_sub]
    rfl

theorem sells_not_idle (moved : amounts ≠ []) (positive : ∀ amount ∈ amounts, 0 < amount) :
    followAll (amounts.map .sell) levels ≠ some levels := by
  intro followed
  have quantity := followAll_sells_quantity followed
  have total := List.sum_pos amounts positive moved
  omega

end

/-! ### Tables of rows with levels -/

/-- Rows that carry levels. -/
class Shelved (α : Type) extends Keyed α where
  levels : α → Levels
  shelve : α → Levels → α
  levels_shelve : ∀ a after, levels (shelve a after) = after
  key_shelve : ∀ a after, key (shelve a after) = key a

attribute [simp] Shelved.levels_shelve Shelved.key_shelve

section

variable {α : Type} [Shelved α]

/-- One row moves; a row that is not there is refused. -/
def shift (table : Table α) (key : ℕ) (movement : Movement) :
    Option (Table α) := do
  let row ← table.row key
  let levels ← movement.apply (Shelved.levels row)
  some (table.save (Shelved.shelve row levels))

theorem row_shift {table after : Table α} {key : ℕ} {movement : Movement}
    (shifted : shift table key movement = some after) :
    ∃ row levels, table.row key = some row ∧ movement.apply (Shelved.levels row) = some levels ∧
      ∀ other, after.row other = if other = key then some (Shelved.shelve row levels)
        else table.row other := by
  rw [shift, Option.bind_eq_bind, Option.bind_eq_some_iff] at shifted
  obtain ⟨row, found, rest⟩ := shifted
  rw [Option.bind_eq_bind, Option.bind_eq_some_iff] at rest
  obtain ⟨levels, applied, saved⟩ := rest
  cases saved
  refine ⟨row, levels, found, applied, fun other => ?_⟩
  rw [Table.row_save, Shelved.key_shelve, table.keyed found]

end

end Stockkeeping
