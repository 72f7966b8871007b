/-
Module: MarketX.Proofs.PurchasePairs
Purpose: What the purchases leave behind in pairs: the listings that are
  bought together, with their counts and confidences, and the users that buy
  alike.
Trusted boundary: human-reviewed statement of PairsCounted, Raised and
  SimilaritiesExact
Main exports: recalculated_eq, Counted, boughtTogether_counted, pairs_counted_iff
-/
import Mathlib.Data.Sym.Sym2
import MarketX.Effects.Runs
import MarketX.Recommendation.RecommendationsService

namespace MarketX.Recommendation

open Effects Effects.Writing Numerals

/-! ### The confidence -/

theorem double_near {x : ℚ} (large : 1 / 10 ≤ x) (small : x ≤ 10 ^ 12) :
    ∃ y, (Number.finite x).double = .finite y ∧
      |y - x| ≤ x * tenTo (-15) := by
  have positive : 0 ≤ x := (by norm_num : (0 : ℚ) ≤ 1 / 10).trans large
  have fits : |x| < twoTo 1024 - twoTo 970 := by
    rw [abs_of_nonneg positive]
    calc x ≤ 10 ^ 12 := small
      _ ≤ tenTo 60 := by decide
      _ < twoTo 1024 - twoTo 970 := tenTo_lt_double (by decide)
  have coarse : tenTo (-60) ≤ x :=
    calc tenTo (-60) ≤ 1 / 10 := by decide +kernel
      _ ≤ x := large
  exact ⟨nearestDouble x, Number.double_finite fits, nearestDouble_near coarse⟩

/-- The average of an old confidence, which counts for all purchases but one,
and of 1, within the errors of four operations on doubles. -/
theorem average_near {v : ℚ} (low : 1 / 2 ≤ v) (high : v ≤ 1) {count : ℚ}
    (two : 2 ≤ count) (fits : count ≤ 2 ^ 31) :
    ∃ q, ((((((Number.finite (nearestDouble v)).mul
        (.finite (count - 1))).double).add (.finite 1)).double).div
          (.finite count)).double = .finite q ∧
      |q - (v * (count - 1) + 1) / count| ≤ 1 / 1000 := by
  have tiny : tenTo (-15) = 1 / 10 ^ 15 := by decide +kernel
  have kept := nearestDouble_near (x := v) (le_trans (by decide +kernel : tenTo (-60) ≤ 1 / 2) low)
  rw [tiny, abs_le] at kept
  generalize nearestDouble v = c at kept ⊢
  have scaled : |c * (count - 1) - v * (count - 1)| ≤ (count - 1) / 10 ^ 15 := by
    have near : |c - v| ≤ 1 / 10 ^ 15 := by
      rw [abs_le]
      constructor <;> linarith
    rw [← sub_mul, abs_mul, abs_of_pos (by linarith : 0 < count - 1)]
    calc |c - v| * (count - 1) ≤ 1 / 10 ^ 15 * (count - 1) :=
          mul_le_mul_of_nonneg_right near (by linarith)
      _ = (count - 1) / 10 ^ 15 := by ring
  have below : v * (count - 1) ≤ count - 1 := mul_le_of_le_one_left (by linarith) high
  have above : 1 / 2 ≤ v * (count - 1) := by nlinarith
  rw [abs_le] at scaled
  obtain ⟨p, product, nearProduct⟩ :=
    double_near (x := c * (count - 1)) (by linarith) (by linarith)
  rw [tiny, abs_le] at nearProduct
  obtain ⟨s, sum, nearSum⟩ :=
    double_near (x := p + 1) (by linarith) (by linarith)
  rw [tiny, abs_le] at nearSum
  have apart : |s - (v * (count - 1) + 1)| ≤ 10 * count / 10 ^ 15 := by
    rw [abs_le]
    constructor <;> linarith
  have quotient : |s / count - (v * (count - 1) + 1) / count| ≤ 10 / 10 ^ 15 := by
    rw [← sub_div, abs_div, abs_of_pos (by linarith : 0 < count), div_le_iff₀ (by linarith)]
    linarith
  have least : 1 / 2 ≤ (v * (count - 1) + 1) / count := by
    rw [le_div_iff₀ (by linarith)]
    nlinarith
  have most : (v * (count - 1) + 1) / count ≤ 1 := by
    rw [div_le_one (by linarith)]
    linarith
  rw [abs_le] at quotient
  obtain ⟨q, average, nearAverage⟩ :=
    double_near (x := s / count) (by linarith) (by linarith)
  rw [tiny, abs_le] at nearAverage
  refine ⟨q, ?_, ?_⟩
  · simp only [Number.mul, product, Number.add, sum, Number.div,
      (by linarith : count ≠ 0), if_false, average]
  · rw [abs_le]
    constructor <;> linarith

variable {hundredths : ℕ} {row : FrequentlyBoughtTogether} {itemA itemB : Id}
  {seen : List (Sym2 Id)} {table : Table FrequentlyBoughtTogether} {db : Database}
  {purchases : List (List Item)}

/-- A confidence of so many hundredths, half of them at least, is not lowered
when it is recalculated, and not raised above 1. -/
theorem recalculated_eq (low : 50 ≤ hundredths)
    (high : hundredths ≤ 100) {count : ℕ} (two : 2 ≤ count) (fits : count < 2 ^ 31) :
    ∃ next : ℕ, hundredths ≤ next ∧ next ≤ 100 ∧ recalculated (hundredths / 100) count =
        .finite (nearestDouble (next / 100)) := by
  have hundred : (100 : ℚ) = 10 ^ 2 := by norm_num
  have least : (50 : ℚ) ≤ hundredths := by exact_mod_cast low
  have most : (hundredths : ℚ) ≤ 100 := by exact_mod_cast high
  have counted : (2 : ℚ) ≤ count := by exact_mod_cast two
  have bounded : (count : ℚ) ≤ 2 ^ 31 := by exact_mod_cast fits.le
  have small : ∀ {n : ℕ}, n ≤ 100 →
      |(((n : ℤ) : ℚ) / 10 ^ 2 : ℚ)| < tenTo 21 := by
    intro n few
    have few : (n : ℚ) ≤ 100 := by exact_mod_cast few
    have large : (1 : ℚ) < tenTo 21 := by decide
    grind [Int.cast_natCast]
  obtain ⟨q, average, near⟩ := average_near
    (v := hundredths / 100) (by linarith) (by linarith) counted bounded
  have grows : (hundredths / 100 : ℚ) ≤ (hundredths / 100 * (count - 1) + 1) / count := by
    rw [le_div_iff₀ (by linarith)]
    linarith
  have stays : (hundredths / 100 * (count - 1) + 1 : ℚ) / count ≤ 1 := by
    rw [div_le_one (by linarith)]
    have part : (hundredths / 100 : ℚ) * (count - 1) ≤ count - 1 :=
      mul_le_of_le_one_left (by linarith) (by linarith)
    linarith
  rw [abs_le] at near
  have nonneg : 0 ≤ q := by linarith
  obtain ⟨next, whole⟩ : ∃ next : ℕ, roundHalfUp (q * 10 ^ 2) = next :=
    Int.eq_ofNat_of_zero_le (Int.floor_nonneg.mpr (by positivity))
  have lowest : hundredths ≤ next := by
    have floor : (hundredths : ℤ) ≤ roundHalfUp (q * 10 ^ 2) := by
      rw [roundHalfUp, Int.le_floor]
      push_cast
      linarith
    omega
  have highest : next ≤ 100 := by
    have floor : roundHalfUp (q * 10 ^ 2) < 101 := by
      rw [roundHalfUp, Int.floor_lt]
      linarith
    omega
  refine ⟨next, lowest, highest, ?_⟩
  have read : scoreNumber 2 (hundredths / 100) = .finite (nearestDouble (hundredths / 100)) := by
    have text := numberOf_toFixed hundredths (by decide) (small high)
    exact text
  have written : (Number.finite q).toFixed 2 = (Number.finite (next / 100)).toFixed 2 := by
    have fitting := small highest
    rw [Int.cast_natCast, abs_of_nonneg (by positivity)] at fitting
    have large : (2 : ℚ) < tenTo 21 := by decide
    rw [toFixed_eq nonneg (lt_trans (by linarith) large) fitting whole, ← hundred]
  have parsed : parseFloatText ((Number.finite (next / 100)).toFixed 2).toList =
        .finite (next / 100) := by grind [parseFloatText_toFixed, Int.cast_natCast]
  have fitting : |(next / 100 : ℚ)| < twoTo 1024 - twoTo 970 := by
    grind [tenTo_lt_double, Int.cast_natCast]
  simp only [recalculated, read, average, written, parsed, Number.double_finite fitting]

/-! ### One pair -/

/-- The two listings of a row. -/
def FrequentlyBoughtTogether.pair (row : FrequentlyBoughtTogether) : Sym2 Id :=
  s(row.listingIdA, row.listingIdB)

@[simp] theorem isOf_iff :
    row.isOf itemA itemB = true ↔ row.pair = s(itemA, itemB) := by
  simp [FrequentlyBoughtTogether.isOf, FrequentlyBoughtTogether.pair]

/-- The table counts the pairs that have been seen, in a row for each. -/
structure Counted (seen : List (Sym2 Id))
    (table : Table FrequentlyBoughtTogether) : Prop where
  count : ∀ row ∈ table.rows, row.purchaseCount = seen.count row.pair
  counted : ∀ row ∈ table.rows, row.pair ∈ seen
  listed : ∀ pair ∈ seen, ∃ row ∈ table.rows, row.pair = pair
  single : ∀ row ∈ table.rows, ∀ other ∈ table.rows, other.pair = row.pair → other = row
  confidence : ∀ row ∈ table.rows, ∃ hundredths : ℕ, 50 ≤ hundredths ∧
    hundredths ≤ 100 ∧ row.confidence = hundredths / 100

/-- No confidence is lower than it was. -/
def Raised (before after : Table FrequentlyBoughtTogether) : Prop :=
  ∀ row ∈ before.rows, ∃ later ∈ after.rows, later.pair = row.pair ∧
    row.confidence ≤ later.confidence

instance : IsPreorder (Table FrequentlyBoughtTogether) Raised where
  refl table row member := ⟨row, member, rfl, le_refl _⟩
  trans first second third raised again row member := by
    obtain ⟨middle, stored, same, le⟩ := raised row member
    obtain ⟨later, kept, alike, more⟩ := again middle stored
    exact ⟨later, kept, alike.trans same, le.trans more⟩

theorem Counted.save (row : FrequentlyBoughtTogether) (counted : Counted seen table)
    (sole : ∀ other ∈ table.rows, other.pair = row.pair ↔ other.id = row.id)
    (count : row.purchaseCount = seen.count row.pair + 1)
    (confidence : ∃ hundredths : ℕ, 50 ≤ hundredths ∧ hundredths ≤ 100 ∧
      row.confidence = hundredths / 100) :
    Counted (seen ++ [row.pair]) (table.save row) := by
  have others : ∀ other ∈ table.rows, Keyed.key other ≠ Keyed.key row → other.pair ≠ row.pair :=
    fun other member apart same => apart ((sole other member).mp same)
  have stored : row ∈ (table.save row).rows := Table.mem_rows.mpr (Table.row_save_self table row)
  have kept : ∀ other ∈ table.rows, other.pair ≠ row.pair → other ∈ (table.save row).rows := by
    intro other member apart
    rw [Table.mem_rows, Table.row_save_of_ne]
    · exact Table.mem_rows.mp member
    · exact fun same => apart ((sole other member).mpr same)
  refine
    { count := Table.forall_rows_save.mpr ⟨?_, ?_⟩
      counted := Table.forall_rows_save.mpr ⟨by simp, ?_⟩
      listed := ?_
      single := ?_
      confidence := Table.forall_rows_save.mpr ⟨confidence, ?_⟩ }
  · rw [count, List.count_append, List.count_singleton_self]
  · intro other member apart
    have different := others other member apart
    rw [counted.count other member, List.count_append,
      List.count_singleton, if_neg (by simpa using different.symm), Nat.add_zero]
  · exact fun other member _ => List.mem_append_left _ (counted.counted other member)
  · intro pair member
    by_cases same : pair = row.pair
    · exact ⟨row, stored, same.symm⟩
    · have before : pair ∈ seen := by simpa [same] using member
      obtain ⟨other, found, is⟩ := counted.listed pair before
      exact ⟨other, kept other found (is ▸ same), is⟩
  · refine Table.forall_rows_save.mpr ⟨?_, ?_⟩
    · refine Table.forall_rows_save.mpr ⟨fun _ => rfl, ?_⟩
      exact fun other member apart same => absurd same (others other member apart)
    · intro other member apart
      refine Table.forall_rows_save.mpr ⟨?_, ?_⟩
      · exact fun same => absurd same.symm (others other member apart)
      · exact fun another found _ same => counted.single other member another found same
  · exact fun other member _ => counted.confidence other member

theorem Raised.save (replaced : ∀ other ∈ table.rows, other.id = row.id →
      other.pair = row.pair ∧ other.confidence ≤ row.confidence) :
    Raised table (table.save row) := by
  intro other member
  by_cases same : other.id = row.id
  · obtain ⟨alike, le⟩ := replaced other member same
    exact ⟨row, Table.mem_rows.mpr (Table.row_save_self table row), alike.symm, le⟩
  · refine ⟨other, Table.mem_rows.mpr ?_, rfl, le_refl _⟩
    rw [Table.row_save_of_ne _ _ same]
    exact Table.mem_rows.mp member

theorem scoreColumn_hundredths (few : hundredths ≤ 100) :
    scoreColumn 2 (.finite (nearestDouble (hundredths / 100))) = some ((hundredths : ℚ) / 100) := by
  have hundred : (10 : ℚ) ^ 2 = 100 := by norm_num
  have same := @roundAway_printed hundredths 2 (by decide) (by rw [abs_of_nonneg] <;> omega)
  have small : |(hundredths : ℤ)| < 10 ^ 5 := by rw [abs_of_nonneg] <;> omega
  simp_all [scoreColumn]

theorem saveTogether_run
    (few : hundredths ≤ 100) (fits : row.purchaseCount < 2 ^ 31) (db : Database) :
    saveTogether row (.finite (nearestDouble (hundredths / 100))) db = (.ok (),
        { db with
          frequentlyBoughtTogether := db.frequentlyBoughtTogether.save
            { row with confidence := hundredths / 100 } }) := by
  have column : intColumn row.purchaseCount = some (row.purchaseCount : ℤ) := by
    rw [intColumn, if_pos]
    omega
  unfold saveTogether
  rw [scoreColumn_hundredths few, column]
  rfl

theorem boughtTogether_eq (itemA itemB : Id) (db : Database) :
    boughtTogether itemA itemB db =
      match db.frequentlyBoughtTogether.rows.find? (·.isOf itemA itemB) with
      | some existing =>
        saveTogether { existing with purchaseCount := existing.purchaseCount + 1 }
          (recalculated existing.confidence (existing.purchaseCount + 1)) db
      | none =>
        saveTogether
          { id := db.frequentlyBoughtTogether.next
            listingIdA := itemA
            listingIdB := itemB
            purchaseCount := 1 } (.finite (1 / 2)) db := by
  rw [boughtTogether, get_bind]
  cases db.frequentlyBoughtTogether.rows.find? (·.isOf itemA itemB) <;> rfl

theorem boughtTogether_counted (counted : Counted seen db.frequentlyBoughtTogether)
    (fits : seen.count s(itemA, itemB) + 1 < 2 ^ 31) :
    ∃ table, boughtTogether itemA itemB db =
        (.ok (), { db with frequentlyBoughtTogether := table }) ∧
      Counted (seen ++ [s(itemA, itemB)]) table ∧
      Raised db.frequentlyBoughtTogether table := by
  rw [boughtTogether_eq]
  cases found : db.frequentlyBoughtTogether.rows.find? (·.isOf itemA itemB) with
  | some existing =>
    have member := List.mem_of_find?_eq_some found
    have pair : existing.pair = s(itemA, itemB) :=
      isOf_iff.mp (by simpa using List.find?_some found)
    have count := counted.count existing member
    have some : 0 < seen.count existing.pair :=
      List.count_pos_iff.mpr (counted.counted existing member)
    obtain ⟨hundredths, low, high, kept⟩ := counted.confidence existing member
    rw [← pair] at fits ⊢
    have two : 2 ≤ existing.purchaseCount + 1 := by omega
    obtain ⟨next, le, most, again⟩ := recalculated_eq low high two (by omega)
    dsimp only
    rw [kept, again, saveTogether_run most (by simpa [count] using fits)]
    refine ⟨_, rfl, counted.save
      { existing with
        purchaseCount := existing.purchaseCount + 1
        confidence := next / 100 } ?_ ?_ ⟨next, by omega, most, rfl⟩,
      Raised.save ?_⟩
    · intro other stored
      constructor
      · intro same
        rw [counted.single existing member other stored same]
      · intro same
        cases Table.eq_of_key stored member same
        rfl
    · exact congrArg (· + 1) count
    · intro other stored same
      cases Table.eq_of_key stored member same
      refine ⟨rfl, ?_⟩
      rw [kept]
      have cast : (hundredths : ℚ) ≤ next := by exact_mod_cast le
      exact div_le_div_of_nonneg_right cast (by norm_num)
  | none =>
    have absent : ∀ row ∈ db.frequentlyBoughtTogether.rows,
        row.pair ≠ s(itemA, itemB) := by simp_all
    have unseen : seen.count s(itemA, itemB) = 0 := by
      refine List.count_eq_zero.mpr fun member => ?_
      obtain ⟨row, stored, is⟩ := counted.listed _ member
      exact absent row stored is
    have old : ∀ row ∈ db.frequentlyBoughtTogether.rows,
        row.id ≠ db.frequentlyBoughtTogether.next := by
      intro row member same
      have bound := Table.bounded _ (Table.mem_rows.mp member)
      exact bound.ne same
    have half : nearestDouble (((50 : ℕ) : ℚ) / 100) = 1 / 2 := by decide +kernel
    rw [← half, saveTogether_run (by decide) (show 1 < 2 ^ 31 by decide)]
    refine ⟨_, rfl, counted.save
      { id := db.frequentlyBoughtTogether.next
        listingIdA := itemA
        listingIdB := itemB
        purchaseCount := 1
        confidence := (50 : ℕ) / 100 } ?_ ?_ ⟨50, by decide, by decide, rfl⟩, Raised.save ?_⟩
    · intro row member
      exact iff_of_false (absent row member) (old row member)
    · exact (congrArg (· + 1) unseen).symm
    · exact fun row member same => absurd same (old row member)

/-! ### All pairs of a purchase -/

section

variable {α : Type} {list : List α}

def unordered (list : List α) : List (Sym2 α) :=
  (pairs list).map fun pair => s(pair.1, pair.2)

@[simp] theorem unordered_nil : unordered ([] : List α) = [] := rfl

@[simp] theorem unordered_cons (head : α) (tail : List α) :
    unordered (head :: tail) = tail.map (s(head, ·)) ++ unordered tail := by simp [unordered, pairs]

/-- A list without repetitions is one no element of which is paired with
itself. -/
theorem nodup_iff_unordered :
    list.Nodup ↔ ∀ pair ∈ unordered list, ¬ pair.IsDiag := by
  induction list with
  | nil => simp
  | cons head tail ih =>
    rw [List.nodup_cons, ih, unordered_cons, List.forall_mem_append, List.forall_mem_map]
    refine and_congr_left fun _ => ?_
    grind [Sym2.mk_isDiag_iff]

theorem count_unordered [DecidableEq α] (nodup : list.Nodup) {a b : α} (different : a ≠ b) :
    (unordered list).count s(a, b) = if a ∈ list ∧ b ∈ list then 1 else 0 := by
  induction list with
  | nil => simp
  | cons head tail ih =>
    obtain ⟨absent, nodup⟩ := List.nodup_cons.mp nodup
    have first : (tail.map (s(head, ·))).count s(a, b) =
        if head = a ∧ b ∈ tail ∨ head = b ∧ a ∈ tail then 1 else 0 := by
      have injective : Function.Injective (s(head, ·)) :=
        fun _ _ => Sym2.congr_right.mp
      by_cases isA : head = a
      · subst isA
        rw [List.count_map_of_injective tail _ injective b, nodup.count]
        simp [different]
      · by_cases isB : head = b
        · subst isB
          rw [Sym2.eq_swap, List.count_map_of_injective tail _ injective a, nodup.count]
          simp [isA]
        · rw [List.count_eq_zero.mpr]
          · simp [isA, isB]
          · simp_all
    grind [unordered_cons]

end

/-! ### Runs of purchases -/

def listingIds (items : List Item) : List Id := items.map Item.listingId

/-- The pairs of positions of all the purchases. -/
def occurrences (purchases : List (List Item)) : List (Sym2 Id) :=
  purchases.flatMap fun items => unordered (listingIds items)

def purchase (db : Database) (items : List Item) : Database :=
  (updateFrequentlyBoughtTogether items db).2

theorem updateFrequentlyBoughtTogether_eq (items : List Item) :
    updateFrequentlyBoughtTogether items = (pairs (listingIds items)).forM fun (itemA, itemB) =>
        boughtTogether itemA itemB := by
  match items with
  | [] => rfl
  | [_] => rfl
  | _ :: _ :: _ => rfl

theorem boughtTogether_forM
    (counted : Counted seen db.frequentlyBoughtTogether) (list : List (Id × Id))
    (fits : ∀ pair, (seen ++ list.map fun pair => s(pair.1, pair.2)).count pair < 2 ^ 31) :
    ∃ table, (list.forM fun (itemA, itemB) => boughtTogether itemA itemB) db =
        (.ok (), { db with frequentlyBoughtTogether := table }) ∧
      Counted (seen ++ list.map fun pair => s(pair.1, pair.2)) table ∧
      Raised db.frequentlyBoughtTogether table := by
  induction list generalizing seen db with
  | nil =>
    refine ⟨_, rfl, ?_, refl_of Raised _⟩
    simpa using counted
  | cons head tail ih =>
    have room : seen.count s(head.1, head.2) + 1 < 2 ^ 31 := by
      have bound := fits s(head.1, head.2)
      grind
    obtain ⟨middle, first, here, raised⟩ := boughtTogether_counted counted room
    have split : seen ++ (head :: tail).map (fun pair => s(pair.1, pair.2)) =
        seen ++ [s(head.1, head.2)] ++ tail.map fun pair => s(pair.1, pair.2) := by simp
    rw [split] at fits ⊢
    obtain ⟨table, rest, there, again⟩ := @ih _
      { db with frequentlyBoughtTogether := middle } here fits
    refine ⟨table, ?_, there, trans_of Raised raised again⟩
    simp_all [bind_apply]

theorem purchase_counted
    (counted : Counted seen db.frequentlyBoughtTogether) (items : List Item) (fits : ∀ pair,
      (seen ++ unordered (listingIds items)).count pair < 2 ^ 31) :
    Counted (seen ++ unordered (listingIds items)) (purchase db items).frequentlyBoughtTogether ∧
      Raised db.frequentlyBoughtTogether (purchase db items).frequentlyBoughtTogether := by
  obtain ⟨table, ended, after, raised⟩ :=
    boughtTogether_forM counted (pairs (listingIds items)) fits
  rw [purchase, updateFrequentlyBoughtTogether_eq, ended]
  exact ⟨after, raised⟩

theorem purchases_counted
    (counted : Counted seen db.frequentlyBoughtTogether) (purchases : List (List Item))
    (fits : ∀ pair, (seen ++ occurrences purchases).count pair < 2 ^ 31) :
    Counted (seen ++ occurrences purchases) (run purchase db purchases).frequentlyBoughtTogether ∧
      Raised db.frequentlyBoughtTogether (run purchase db purchases).frequentlyBoughtTogether := by
  induction purchases generalizing seen db with
  | nil =>
    rw [show occurrences [] = [] from rfl, List.append_nil]
    exact ⟨counted, refl_of Raised _⟩
  | cons items purchases ih =>
    have split : seen ++ occurrences (items :: purchases) =
        seen ++ unordered (listingIds items) ++ occurrences purchases := by simp [occurrences]
    rw [split] at fits ⊢
    have room : ∀ pair, (seen ++ unordered (listingIds items)).count pair < 2 ^ 31 := by
      intro pair
      have bound := fits pair
      rw [List.count_append] at bound
      omega
    obtain ⟨here, raised⟩ := purchase_counted counted items room
    obtain ⟨there, again⟩ := ih here fits
    exact ⟨there, trans_of Raised raised again⟩

def containsBoth (a b : Id) (items : List Item) : Bool :=
  a ∈ listingIds items ∧ b ∈ listingIds items

/-- The table has a row for each two listings that were bought together and no
other row, with the number of the purchases of both and a confidence from 0.5
to 1. -/
structure PairsCounted (purchases : List (List Item))
    (table : Table FrequentlyBoughtTogether) : Prop where
  different : ∀ row ∈ table.rows, row.listingIdA ≠ row.listingIdB
  bought : ∀ row ∈ table.rows, ∃ items ∈ purchases, containsBoth row.listingIdA row.listingIdB items
  listed : ∀ items ∈ purchases, ∀ a b, a ≠ b → containsBoth a b items →
    ∃! row, row ∈ table.rows ∧ row.isOf a b
  count : ∀ row ∈ table.rows, row.purchaseCount =
    purchases.countP (containsBoth row.listingIdA row.listingIdB)
  confidence : ∀ row ∈ table.rows, 1 / 2 ≤ row.confidence ∧ row.confidence ≤ 1

/-- No confidence of a pair is lower than it was. -/
def ConfidencesKept (before after : Table FrequentlyBoughtTogether) : Prop :=
  ∀ row ∈ before.rows, ∀ later ∈ after.rows,
    later.isOf row.listingIdA row.listingIdB → row.confidence ≤ later.confidence

/-- Where no purchase lists a listing twice, as many positions are paired as
there are purchases of both listings. -/
theorem count_occurrences
    (once : ∀ items ∈ purchases, (listingIds items).Nodup) {a b : Id} (different : a ≠ b) :
    (occurrences purchases).count s(a, b) =
      purchases.countP (containsBoth a b) := by
  induction purchases <;> simp_all [occurrences, count_unordered, List.countP_cons, Nat.add_comm,
    containsBoth]

theorem Counted.pairsCounted (counted : Counted (occurrences purchases) table)
    (once : ∀ items ∈ purchases, (listingIds items).Nodup) :
    PairsCounted purchases table := by
  have different : ∀ row ∈ table.rows, row.listingIdA ≠ row.listingIdB := by
    intro row member
    obtain ⟨items, bought, paired⟩ := List.mem_flatMap.mp (counted.counted row member)
    exact nodup_iff_unordered.mp (once items bought) _ paired
  have count : ∀ row ∈ table.rows, row.purchaseCount =
      purchases.countP (containsBoth row.listingIdA row.listingIdB) := by
    intro row member
    rw [counted.count row member]
    exact count_occurrences once (different row member)
  refine
    { different
      bought := fun row member => ?_
      listed := fun items bought a b apart both => ?_
      count
      confidence := fun row member => ?_ }
  · have positive : 0 < row.purchaseCount := by
      rw [counted.count row member]
      exact List.count_pos_iff.mpr (counted.counted row member)
    simp_all
  · have positive : 0 < (occurrences purchases).count s(a, b) := by grind [count_occurrences]
    obtain ⟨row, member, pair⟩ := counted.listed _ (List.count_pos_iff.mp positive)
    refine ⟨row, ⟨member, isOf_iff.mpr pair⟩, ?_⟩
    rintro other ⟨stored, same⟩
    exact counted.single row member other stored ((isOf_iff.mp same).trans pair.symm)
  · obtain ⟨hundredths, low, high, is⟩ := counted.confidence row member
    have least : (50 : ℚ) ≤ hundredths := by exact_mod_cast low
    have most : (hundredths : ℚ) ≤ 100 := by exact_mod_cast high
    constructor <;> linarith

theorem Counted.confidencesKept {before after : Table FrequentlyBoughtTogether}
    (counted : Counted seen after) (raised : Raised before after) :
    ConfidencesKept before after := by
  intro row member later stored same
  obtain ⟨other, found, pair, le⟩ := raised row member
  rw [counted.single other found later stored ((isOf_iff.mp same).trans pair.symm)]
  exact le

def uncounted (db : Database) : Database :=
  { db with frequentlyBoughtTogether := .empty }

/-- What the purchases leave in the table. -/
def tableAfter (db : Database) (purchases : List (List Item)) :
    Table FrequentlyBoughtTogether :=
  (run purchase (uncounted db) purchases).frequentlyBoughtTogether

theorem counted_empty : Counted [] .empty where
  count := nofun
  counted := nofun
  listed := nofun
  single := nofun
  confidence := nofun

/-- As long as the counts fit their column, the rows count the purchases of
each pair at any time, iff no purchase lists a listing twice. -/
theorem pairs_counted_iff (db : Database) (purchases : List (List Item))
    (fits : ∀ pair, (occurrences purchases).count pair < 2 ^ 31) :
    ((∀ front back, purchases = front ++ back → PairsCounted front (tableAfter db front)) ∧
      ∀ front middle back, purchases = front ++ middle ++ back →
        ConfidencesKept (tableAfter db front) (tableAfter db (front ++ middle))) ↔
      ∀ items ∈ purchases, (listingIds items).Nodup := by
  have counted : ∀ front back, purchases = front ++ back →
      Counted (occurrences front) (tableAfter db front) := by
    rintro front back rfl
    refine (@purchases_counted [] (uncounted db) counted_empty front fun pair => ?_).1
    have bound := fits pair
    rw [occurrences, List.flatMap_append, List.count_append] at bound
    exact (Nat.le_add_right _ _).trans_lt bound
  constructor
  · rintro ⟨held, -⟩ items member
    refine nodup_iff_unordered.mpr fun pair paired => ?_
    have all := counted purchases [] (List.append_nil _).symm
    have right := held purchases [] (List.append_nil _).symm
    obtain ⟨row, stored, is⟩ := all.listed pair (List.mem_flatMap.mpr ⟨items, member, paired⟩)
    rw [← is]
    exact right.different row stored
  · refine fun once => ⟨?_, ?_⟩
    · rintro front back rfl
      refine (counted front back rfl).pairsCounted fun items member => ?_
      exact once items (List.mem_append_left _ member)
    · rintro front middle back rfl
      refine (counted _ back rfl).confidencesKept ?_
      rw [tableAfter, tableAfter, run_append]
      refine (purchases_counted (counted front (middle ++ back)
        (List.append_assoc _ _ _)) middle fun pair => ?_).2
      have bound := fits pair
      rw [occurrences, List.flatMap_append, List.flatMap_append,
        List.count_append, List.count_append] at bound
      rw [List.count_append]
      exact (Nat.le_add_right _ _).trans_lt bound

def item (listingId : Id) : Item := ⟨listingId, 1, 10, "USD"⟩

/-- Two purchases of two listings. -/
theorem two_purchases_counted :
    PairsCounted [[item 1, item 2], [item 2, item 1]]
      (tableAfter {} [[item 1, item 2], [item 2, item 1]]) := by
  have fits : ∀ pair, (occurrences [[item 1, item 2], [item 2, item 1]]).count
      pair < 2 ^ 31 := fun pair => List.count_le_length.trans_lt (by decide)
  exact ((pairs_counted_iff {} _ fits).mpr (by decide)).1 _ [] (List.append_nil _).symm

/-- A listing that is there twice is paired with itself, and its pair with
another one is counted twice. -/
theorem repeated_listing_counted :
    ¬ PairsCounted [[item 1, item 2, item 1]] (tableAfter {} [[item 1, item 2, item 1]]) ∧
      ((tableAfter {} [[item 1, item 2, item 1]]).rows.map fun row =>
        (row.listingIdA, row.listingIdB, row.purchaseCount)) = [(1, 2, 2), (1, 1, 1)] := by
  have rows : ((tableAfter {} [[item 1, item 2, item 1]]).rows.map fun row =>
      (row.listingIdA, row.listingIdB, row.purchaseCount)) = [(1, 2, 2), (1, 1, 1)] := by
    decide +kernel
  refine ⟨fun counted => ?_, rows⟩
  have paired : (1, 1, 1) ∈ (tableAfter {} [[item 1, item 2, item 1]]).rows.map fun row =>
        (row.listingIdA, row.listingIdB, row.purchaseCount) := by
    rw [rows]
    decide
  obtain ⟨row, member, same⟩ := List.mem_map.mp paired
  refine counted.different row member ?_
  simp only [Prod.mk.injEq] at same
  rw [same.1, same.2.1]

/-! ### Users that buy alike -/

theorem saveTogether_keeps (row : FrequentlyBoughtTogether) (confidence : Number) :
    Keeps Database.userSimilarity (saveTogether row confidence) := by
  unfold saveTogether
  split
  · exact fun _ => rfl
  · exact fun _ => rfl

theorem boughtTogether_keeps (itemA itemB : Id) :
    Keeps Database.userSimilarity (boughtTogether itemA itemB) := by
  refine Keeps.bind (fun _ => rfl) fun db => ?_
  grind [saveTogether_keeps]

theorem savePurchase_keeps (now : Date) (userId orderId : Id) (item : Item) :
    Keeps Database.userSimilarity (savePurchase now userId orderId item) := by
  unfold savePurchase
  split
  · exact fun _ => rfl
  · exact fun _ => rfl

theorem markPurchased_keeps (userId listingId : Id) :
    Keeps Database.userSimilarity (markPurchased userId listingId) := by
  refine Keeps.bind (fun _ => rfl) fun db => ?_
  split
  · exact fun _ => rfl
  · exact fun _ => rfl

theorem recordPurchase_keeps (now : Date) (userId orderId : Id) (items : List Item) :
    Keeps Database.userSimilarity (recordPurchase now userId orderId items) := by
  refine Keeps.bind (Keeps.forM fun item _ => ?_) fun _ => ?_
  · exact (savePurchase_keeps now userId orderId item).bind
      fun _ => markPurchased_keeps userId item.listingId
  · grind [updateFrequentlyBoughtTogether_eq, Keeps.forM, boughtTogether_keeps]

/-- Without the user ids that the raw rows have under another key, nothing is
ever added to a table that has no rows. -/
theorem compareUsers_empty (empty : db.userSimilarity = .empty) :
    (compareUsers none none db).2 = db := by
  have nothing : db.userSimilarity.rows.find? (·.isOf none none) = none := by
    rw [empty]
    rfl
  rw [compareUsers, get_bind]
  split
  · rw [nothing]
    rfl
  · rfl

theorem pairs_replicate {α : Type} (count : ℕ) (value : α) :
    ∀ pair ∈ pairs (List.replicate count value), pair = (value, value) := by
  induction count with
  | zero => simp [pairs]
  | succ count ih =>
    rw [List.replicate_succ, pairs, List.forall_mem_append, List.forall_mem_map]
    grind

theorem calculateUserSimilarity_empty (empty : db.userSimilarity = .empty) :
    (calculateUserSimilarity db).2 = db := by
  rw [calculateUserSimilarity, get_bind]
  rw [getRawMany_get (by decide)]
  have unknown := pairs_replicate (db.purchaseHistory.rows.map PurchaseHistory.userId).dedup.length
    (none : Option Id)
  generalize pairs (List.replicate _ _) = list at unknown
  induction list with
  | nil => rfl
  | cons head tail ih =>
    obtain ⟨first, others⟩ := List.forall_mem_cons.mp unknown
    have unchanged := compareUsers_empty empty
    rw [forM_cons, bind_apply]
    grind

/-! ### Runs of purchases and calculations -/

inductive Request where
  | recordPurchase (now : Date) (userId orderId : Id) (items : List Item)
  | calculateUserSimilarity

def perform (db : Database) : Request → Database
  | .recordPurchase now userId orderId items =>
    (recordPurchase now userId orderId items db).2
  | .calculateUserSimilarity => (calculateUserSimilarity db).2

/-- The listings a user has bought. -/
def Database.bought (db : Database) (userId : Id) : Finset Id :=
  ((db.purchasesOf userId).map PurchaseHistory.listingId).toFinset

/-- The table has a row for each two users with a listing in common and no
other row, with how many they have in common and which part that is of what
the two bought. -/
structure SimilaritiesExact (db : Database) : Prop where
  listed : ∀ a b, a ≠ b → (db.bought a ∩ db.bought b).Nonempty →
    ∃! row, row ∈ db.userSimilarity.rows ∧ row.isOf (some a) (some b)
  different : ∀ row ∈ db.userSimilarity.rows, row.userIdA ≠ row.userIdB
  common : ∀ row ∈ db.userSimilarity.rows, (db.bought row.userIdA ∩ db.bought row.userIdB).Nonempty
  commonPurchases : ∀ row ∈ db.userSimilarity.rows, row.commonPurchases =
    (db.bought row.userIdA ∩ db.bought row.userIdB).card
  similarityScore : ∀ row ∈ db.userSimilarity.rows, row.similarityScore =
    (db.bought row.userIdA ∩ db.bought row.userIdB).card /
      (db.bought row.userIdA ∪ db.bought row.userIdB).card

def boughtPairs (db : Database) : List (Id × Id) := db.purchaseHistory.rows.map fun purchase =>
    (purchase.userId, purchase.listingId)

theorem mem_bought {userId listingId : Id} :
    listingId ∈ db.bought userId ↔ (userId, listingId) ∈ boughtPairs db := by
  simp [Database.bought, Database.purchasesOf, boughtPairs, and_assoc]

/-- Two users have bought one listing. -/
def BuyAlike (db : Database) (a b : Id) : Prop := a ≠ b ∧ (db.bought a ∩ db.bought b).Nonempty

theorem exact_iff_of_empty (empty : db.userSimilarity = .empty) :
    SimilaritiesExact db ↔ ∀ a b, ¬ BuyAlike db a b := by
  have none : db.userSimilarity.rows = [] := by
    rw [empty]
    rfl
  constructor
  · rintro exact a b ⟨different, common⟩
    obtain ⟨row, ⟨member, -⟩, -⟩ := exact.listed a b different common
    rw [none] at member
    cases member
  · intro apart
    exact
      { listed := fun a b different common =>
          absurd ⟨different, common⟩ (apart a b)
        different := by simp [none]
        common := by simp [none]
        commonPurchases := by simp [none]
        similarityScore := by simp [none] }

theorem perform_empty (empty : db.userSimilarity = .empty)
    (request : Request) : (perform db request).userSimilarity = .empty := by
  cases request with
  | recordPurchase now userId orderId items =>
    rw [← empty]
    exact recordPurchase_keeps now userId orderId items db
  | calculateUserSimilarity => rw [perform, calculateUserSimilarity_empty empty, empty]

/-- Whatever has been bought and calculated, the table is right after a
calculation iff no two users have bought one listing. -/
theorem similarities_exact_iff {db : Database}
    (uncalculated : db.userSimilarity = .empty) (requests : List Request) :
    SimilaritiesExact (perform (run perform db requests) .calculateUserSimilarity) ↔
      ∀ a b, ¬ BuyAlike (run perform db requests) a b := by
  have kept : ∀ (db : Database) request, db.userSimilarity = .empty →
      (perform db request).userSimilarity = .empty :=
    fun _ request empty => perform_empty empty request
  have empty := run_preserves kept uncalculated requests
  rw [perform, calculateUserSimilarity_empty empty]
  exact exact_iff_of_empty empty

def buys (userId listingId : Id) : Request := .recordPurchase 0 userId 1 [item listingId]

/-- Two users of two listings. -/
theorem apart_exact :
    SimilaritiesExact (perform (run perform {} [buys 1 1, buys 2 2]) .calculateUserSimilarity) := by
  have bought : boughtPairs (run perform {} [buys 1 1, buys 2 2]) = [(1, 1), (2, 2)] := by
    decide +kernel
  refine (similarities_exact_iff rfl _).mpr fun a b alike => ?_
  obtain ⟨different, listingId, both⟩ := alike
  rw [Finset.mem_inter, mem_bought, mem_bought, bought] at both
  simp only [List.mem_cons, Prod.mk.injEq, List.not_mem_nil] at both
  grind

/-- Two users of one listing: the calculation throws and leaves no row. -/
theorem alike_not_exact :
    ¬ SimilaritiesExact (perform (run perform {} [buys 1 1, buys 2 1])
      .calculateUserSimilarity) := by
  have bought : boughtPairs (run perform {} [buys 1 1, buys 2 1]) = [(1, 1), (2, 1)] := by
    decide +kernel
  have kept : (perform (run perform {} [buys 1 1, buys 2 1])
      .calculateUserSimilarity).userSimilarity.rows = [] := by decide +kernel
  have same : boughtPairs (perform (run perform {} [buys 1 1, buys 2 1])
      .calculateUserSimilarity) = [(1, 1), (2, 1)] := by decide +kernel
  intro exact
  have common : ((perform (run perform {} [buys 1 1, buys 2 1])
      .calculateUserSimilarity).bought 1 ∩ (perform (run perform {} [buys 1 1, buys 2 1])
          .calculateUserSimilarity).bought 2).Nonempty := by
    refine ⟨1, ?_⟩
    rw [Finset.mem_inter, mem_bought, mem_bought, same]
    decide
  obtain ⟨row, ⟨member, -⟩, -⟩ := exact.listed 1 2 (by decide) common
  rw [kept] at member
  cases member

end MarketX.Recommendation
