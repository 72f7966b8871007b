/-
Module: MarketX.FeatureFlags.FeatureFlagService
Purpose: Feature flags (`feature-flags/feature-flag.service.ts`): the bucket a
  user falls into, whether a flag is enabled for a user, and how that changes
  with the percentage of the rollout.
Trusted boundary: human-reviewed model of the source; a text is the list of
  its UTF-16 codes, and a record has the members every object inherits
Main exports: hashBucket, isEnabled, RollsOut, rolls_out_iff
-/
import MarketX.Caching.OrderedMap
import MarketX.Numerals.Json
import MarketX.Numerals.Words

namespace MarketX.FeatureFlags

open Caching Numerals

/-! ### The flag -/

/-- A text, as the codes that `charCodeAt` gives. -/
abbrev Text := List UInt16

/-- A text of characters that are one code each. -/
def text (literal : String) : Text := literal.toList.map fun c => UInt16.ofNat c.toNat

abbrev Flags := OrderedMap Text Bool

structure FeatureFlag where
  key : Text
  enabled : Bool := false
  environmentDefaults : Option Flags := none
  userOverrides : Option Flags := none
  rolloutPercentage : Option Number := none

/-- The names of the members that every object inherits. -/
def inheritedNames : List Text := inheritedMembers.map text

/-- What `isEnabled` resolves to: a member of a record may be an inherited
one, which is no boolean. -/
inductive Answer where
  | boolean (value : Bool)
  | inherited
deriving DecidableEq

/-- The answer counts as true. -/
def Answer.holds : Answer → Bool
  | .boolean value => value
  | .inherited => true

/-- `record?.[name]`, unless it is `undefined`. -/
def member (record : Option Flags) (name : Text) : Option Answer := record.bind fun record =>
    match record.get name with
    | some value => some (.boolean value)
    | none => if name ∈ inheritedNames then some .inherited else none

/-! ### The bucket -/

/-- `(hash * 33) ^ code`. -/
def hashStep (hash : Number) (code : UInt16) : Number :=
  (hash.mul (.finite 33)).double.xor (.finite code.toNat)

def hashed (str : Text) : Number := str.foldl hashStep (.finite 5381)

/-- `userId:key`. -/
def hashInput (userId key : Text) : Text := userId ++ text ":" ++ key

def hashBucket (userId key : Text) : Number :=
  (hashed (hashInput userId key)).unsigned.abs.rem (.finite 100)

/-! ### Evaluation -/

section

-- `NODE_ENV`, and the flag that the cache or else the repository has
variable (nodeEnv : Option Text) (getFlag : Text → Option FeatureFlag)

def isEnabled (key : Text) (userId : Option Text) : Answer :=
  match getFlag key with
  | none => .boolean false
  | some flag =>
    let userId := userId.filter (· ≠ [])
    match userId.bind (member flag.userOverrides) with
    | some override => override
    | none =>
      match flag.rolloutPercentage, userId with
      | some rolloutPercentage, some userId =>
        .boolean ((hashBucket userId key).lt rolloutPercentage)
      | _, _ =>
        let env := nodeEnv.getD (text "development")
        match member flag.environmentDefaults env with
        | some enabled => enabled
        | none => .boolean flag.enabled

end

/-! ### The fold -/

/-- One step of the fold over the codes. -/
def foldStep (h : ℕ) (code : UInt16) : ℕ := (33 * h ^^^ code.toNat) % 2 ^ 32

def fold (str : Text) : ℕ := str.foldl foldStep 5381

theorem fold_lt (str : Text) : fold str < 2 ^ 32 := by
  induction str using List.reverseRecOn with
  | nil => decide
  | append_singleton str code ih =>
    rw [fold, List.foldl_concat]
    exact Nat.mod_lt _ (by decide)

theorem product_small (word : BitVec 32) : |word.toInt * 33| < 2 ^ 53 := by grind

theorem hashStep_word (word : BitVec 32) (code : UInt16) :
    hashStep (.finite (word.toInt : ℤ)) code =
      .finite ((word * 33#32 ^^^ BitVec.ofNat 32 code.toNat).toInt : ℤ) := by
  have product : (Number.finite (word.toInt : ℤ)).mul (.finite 33) =
      .finite ((word.toInt * 33 : ℤ) : ℚ) := by
    rw [Number.mul, Int.cast_mul]
    rfl
  rw [hashStep, product, Number.double_intCast (product_small word), Number.xor_word,
    BitVec.ofInt_mul, BitVec.ofInt_toInt]
  rfl

theorem toNat_step (word : BitVec 32) (code : UInt16) :
    (word * 33#32 ^^^ BitVec.ofNat 32 code.toNat).toNat =
      foldStep word.toNat code := by
  rw [BitVec.toNat_xor, BitVec.toNat_mul, BitVec.toNat_ofNat, foldStep,
    Nat.xor_mod_two_pow, Nat.mul_comm]
  rfl

theorem hashed_eq (str : Text) :
    hashed str = .finite ((BitVec.ofNat 32 (fold str)).toInt : ℤ) := by
  induction str using List.reverseRecOn with
  | nil => rfl
  | append_singleton str code ih => grind [hashed, fold, hashStep_word, toNat_step, fold_lt]

theorem hashBucket_eq (userId key : Text) :
    hashBucket userId key = .finite (fold (hashInput userId key) % 100 : ℕ) := by
  have hundred : Number.finite 100 = .finite ((100 : ℕ) : ℚ) := by norm_num
  rw [hashBucket, hashed_eq, Number.unsigned_word, BitVec.toNat_ofNat,
    Nat.mod_eq_of_lt (fold_lt _), Number.abs_natCast, hundred, Number.rem_natCast _ (by decide)]

/-! ### The rollout -/

/-- The flag, rolled out to a percentage, is enabled for the user. -/
def enabledAt (nodeEnv : Option Text) (flag : FeatureFlag) (key userId : Text)
    (percentage : Number) : Bool :=
  (isEnabled nodeEnv (fun _ => some { flag with rolloutPercentage := some percentage })
    key (some userId)).holds

/-- The bucket of a user is that of the fold, from numbers that are all exact
integers, and the users of a flag get more with its percentage, from none to
all. -/
structure RollsOut (nodeEnv : Option Text) (flag : FeatureFlag)
    (key userId : Text) : Prop where
  bucket : hashBucket userId key = .finite (fold (hashInput userId key) % 100 : ℕ)
  small : fold (hashInput userId key) % 100 < 100
  exact : ∀ front back, hashInput userId key = front ++ back →
    ∃ n : ℤ, hashed front = .finite n ∧ |n * 33| < 2 ^ 53
  grows : ∀ percentage greater : Number, percentage.le greater = true →
    enabledAt nodeEnv flag key userId percentage = true →
      enabledAt nodeEnv flag key userId greater = true
  nobody : enabledAt nodeEnv flag key userId (.finite 0) = false
  everybody : enabledAt nodeEnv flag key userId (.finite 100) = true

theorem finite_lt_of_le {x : ℚ} {y z : Number}
    (below : (Number.finite x).lt y = true) (le : y.le z = true) :
    (Number.finite x).lt z = true := by
  cases y with
  | nan => simp [Number.lt, Number.le] at below
  | infinity negative =>
    cases z <;> simp_all [Number.lt, Number.le]
  | finite y =>
    cases z with
    | nan => simp [Number.le] at le
    | infinity negative => simpa [Number.lt, Number.le] using le
    | finite z =>
      simp only [Number.lt, Number.le, Bool.and_eq_true,
        decide_eq_true_eq, ne_eq, Number.finite.injEq] at below le ⊢
      grind

variable {flag : FeatureFlag} {userId : Text}

/-- Without an override the percentage decides, unless a member is
inherited. -/
theorem enabledAt_eq (nodeEnv : Option Text) (key : Text) (named : userId ≠ [])
    (noOverride : flag.userOverrides.bind (·.get userId) = none) (percentage : Number) :
    enabledAt nodeEnv flag key userId percentage =
      (flag.userOverrides.isSome && decide (userId ∈ inheritedNames) ||
        (hashBucket userId key).lt percentage) := by
  have present : (some userId).filter (· ≠ []) = some userId := by simp [named]
  unfold enabledAt isEnabled
  simp only [present, Option.bind_some]
  cases overrides : flag.userOverrides <;> grind [member, Answer.holds]

/-- For a user without an override the rollout is as it should be, iff the
user is not called like an inherited member of the overrides. -/
theorem rolls_out_iff (nodeEnv : Option Text) (flag : FeatureFlag)
    (key : Text) {userId : Text} (named : userId ≠ [])
    (noOverride : flag.userOverrides.bind (·.get userId) = none) :
    RollsOut nodeEnv flag key userId ↔ flag.userOverrides = none ∨ userId ∉ inheritedNames := by
  have small : fold (hashInput userId key) % 100 < 100 := Nat.mod_lt _ (by decide)
  have enabled := enabledAt_eq nodeEnv key named noOverride
  rw [hashBucket_eq] at enabled
  have atZero : (Number.finite (fold (hashInput userId key) % 100 : ℕ)).lt (.finite 0) = false := by
    have nonneg : (0 : ℚ) ≤ (fold (hashInput userId key) % 100 : ℕ) := Nat.cast_nonneg _
    simp only [Number.lt, Number.le, Bool.and_eq_false_iff,
      decide_eq_false_iff_not, not_le, Number.finite.injEq, ne_eq, not_not]
    exact nonneg.lt_or_eq.imp id Eq.symm
  have atHundred : (Number.finite (fold (hashInput userId key) % 100 : ℕ)).lt
      (.finite 100) = true := by
    have less : ((fold (hashInput userId key) % 100 : ℕ) : ℚ) < 100 := by exact_mod_cast small
    simp only [Number.lt, Number.le, Bool.and_eq_true, decide_eq_true_eq,
      Number.finite.injEq, ne_eq]
    exact ⟨less.le, less.ne⟩
  constructor
  · intro rolls
    have nobody := rolls.nobody
    rw [enabled, atZero, Bool.or_false, Bool.and_eq_false_iff,
      Option.isSome_eq_false_iff, Option.isNone_iff_eq_none, decide_eq_false_iff_not] at nobody
    exact nobody
  · intro own
    have apart : (flag.userOverrides.isSome && decide (userId ∈ inheritedNames)) = false := by
      rwa [Bool.and_eq_false_iff, Option.isSome_eq_false_iff,
        Option.isNone_iff_eq_none, decide_eq_false_iff_not]
    simp only [apart, Bool.false_or] at enabled
    exact
      { bucket := hashBucket_eq userId key
        small
        exact := fun front _ _ => ⟨_, hashed_eq front, product_small _⟩
        grows := by
          intro percentage greater le
          rw [enabled, enabled]
          exact fun below => finite_lt_of_le below le
        nobody := by rw [enabled, atZero]
        everybody := by rw [enabled, atHundred] }

def plainFlag : FeatureFlag := { key := text "beta" }

/-- A flag without overrides is rolled out to everyone alike. -/
theorem plainFlag_rolls_out :
    RollsOut none plainFlag (text "beta") (text "u1") :=
  (rolls_out_iff none plainFlag (text "beta") (by decide) rfl).mpr (.inl rfl)

/-- With a record of no overrides, the user `constructor` has the flag even at
none. -/
theorem constructor_not_rolled_out :
    ¬ ∀ (nodeEnv : Option Text) (flag : FeatureFlag) (key userId : Text),
      userId ≠ [] → flag.userOverrides.bind (·.get userId) = none →
        RollsOut nodeEnv flag key userId := by
  intro rolls
  have nobody := (rolls none { plainFlag with userOverrides := some .empty }
    (text "beta") (text "constructor") (by decide) rfl).nobody
  have enabled : enabledAt none { plainFlag with userOverrides := some .empty }
      (text "beta") (text "constructor") (.finite 0) = true := by decide
  rw [nobody] at enabled
  cases enabled

end MarketX.FeatureFlags
