/-
Module: MarketX.Numerals.JsonText
Purpose: No two doubles have one text, and the text `JSON.stringify` makes of
  a JSON value tells the value, if the numbers in it are doubles.
Trusted boundary: follows the language definition; a character beyond the
  basic plane is one character, and no surrogate stands alone
Main exports: IsDouble, roundHalfEven_of_near, toDouble_of_near, nearestDouble_printed
-/
import Mathlib.Tactic.IntervalCases
import MarketX.Numerals.Json
import MarketX.Numerals.Printing

namespace Numerals

/-- The number is a double: it is the one next to itself. -/
def IsDouble (x : ℚ) : Prop := nearestDouble x = x

instance : DecidablePred IsDouble := fun x => inferInstanceAs (Decidable (nearestDouble x = x))

/-! ### Powers of two -/

theorem twoTo_add (d e : ℤ) : twoTo (d + e) = twoTo d * twoTo e := by
  rw [twoTo_eq, twoTo_eq, twoTo_eq, zpow_add₀ (by norm_num)]

variable {e n : ℤ} {x y v : ℚ} {value other : Json} {members : List (String × Json)} {c : Char}
  {rest more : List Char} {elements : List Json} {α : Type}

theorem twoTo_lt {d : ℤ} : twoTo d < twoTo e ↔ d < e := by
  rw [twoTo_eq, twoTo_eq, zpow_lt_zpow_iff_right₀ (by norm_num)]

theorem lt_twoTo_binaryExponent (positive : 0 < x) :
    x < twoTo (binaryExponent x + 1) := by
  have numerator : (x.num : ℚ) < 2 ^ (Nat.log2 x.num.natAbs + 1) := by
    have cast : ((x.num.natAbs : ℤ) : ℚ) < 2 ^ (Nat.log2 x.num.natAbs + 1) := by
      exact_mod_cast Nat.lt_log2_self (n := x.num.natAbs)
    rwa [Int.natAbs_of_nonneg (Rat.num_nonneg.mpr positive.le)] at cast
  have denominator : (2 : ℚ) ^ Nat.log2 x.den ≤ x.den := by
    exact_mod_cast Nat.log2_self_le x.den_pos.ne'
  simp only [binaryExponent]
  generalize Nat.log2 x.num.natAbs = width at numerator ⊢
  generalize Nat.log2 x.den = depth at denominator ⊢
  split
  next below =>
    rw [sub_add_cancel]
    exact below
  next =>
    have exponent : (width : ℤ) - depth + 1 = (width + 1 : ℕ) - depth := by omega
    rw [twoTo_eq, exponent, zpow_sub₀ (by norm_num), zpow_natCast,
      zpow_natCast, lt_div_iff₀ (by positivity)]
    calc x * 2 ^ depth ≤ x * x.den := mul_le_mul_of_nonneg_left denominator positive.le
      _ = x.num := Rat.mul_den_eq_num x
      _ < 2 ^ (width + 1) := numerator

/-- The exponent of a number between two powers of two that follow one
another. -/
theorem binaryExponent_eq (low : twoTo e ≤ x)
    (high : x < twoTo (e + 1)) : binaryExponent x = e := by
  have positive : 0 < x := (twoTo_pos e).trans_le low
  have below := twoTo_lt.mp (low.trans_lt (lt_twoTo_binaryExponent positive))
  have above := twoTo_lt.mp ((twoTo_binaryExponent_le positive).trans_lt high)
  omega

/-! ### Rounding back -/

theorem roundHalfEven_of_near (near : |y - n| < 1 / 2) :
    roundHalfEven y = n := by
  have rounded := roundHalfEven_near y
  rw [abs_lt] at near
  rw [abs_le] at rounded
  refine eq_of_near (α := ℚ) (abs_lt.mpr ⟨?_, ?_⟩) <;> linarith

/-- What is nearer to a multiple of the unit than half of it is rounded to that
multiple. -/
theorem toDouble_of_unit (exponent : max (binaryExponent v) (-1022) = e)
    (near : |v - n * twoTo (e - 52)| < 1 / 2 * twoTo (e - 52)) :
    toDouble v = n * twoTo (e - 52) := by
  have unit := twoTo_pos (e - 52)
  unfold toDouble
  dsimp only
  rw [exponent]
  have scaled : |v / twoTo (e - 52) - n| < 1 / 2 := by
    have apart : v / twoTo (e - 52) - n = (v - n * twoTo (e - 52)) / twoTo (e - 52) := by
      rw [sub_div, mul_div_cancel_right₀ _ unit.ne']
    rwa [apart, abs_div, abs_of_pos unit, div_lt_iff₀ unit]
  rw [roundHalfEven_of_near scaled]

/-- A positive double is a number of its units, less than `2 ** 53` of them. -/
theorem exists_units (positive : 0 < x) (double : toDouble x = x) :
    ∃ n : ℤ, x = n * twoTo (max (binaryExponent x) (-1022) - 52) ∧ n < 2 ^ 53 := by
  have unit := twoTo_pos (max (binaryExponent x) (-1022) - 52)
  unfold toDouble at double
  refine ⟨_, double.symm, ?_⟩
  have above : x < twoTo (max (binaryExponent x) (-1022) - 52 + 53) := by
    refine (lt_twoTo_binaryExponent positive).trans_le (twoTo_le ?_)
    omega
  rw [twoTo_add, mul_comm] at above
  have count := lt_of_mul_lt_mul_right (double.trans_lt above) unit.le
  have width : twoTo 53 = 2 ^ 53 := by decide
  rw [width] at count
  exact_mod_cast count

theorem apart_lt_unit {step : ℚ} (some : 0 < step)
    (large : x ≤ 2 ^ 53 * step) (near : |x - v| ≤ 1 / 2 * tenTo (-16) * x) :
    |v - x| < 1 / 2 * step := by
  have tenth := tenTo_pos (-16)
  have small : 1 / 2 * tenTo (-16) * 2 ^ 53 < 1 / 2 := by decide +kernel
  calc |v - x| = |x - v| := abs_sub_comm v x
    _ ≤ 1 / 2 * tenTo (-16) * x := near
    _ ≤ 1 / 2 * tenTo (-16) * (2 ^ 53 * step) := mul_le_mul_of_nonneg_left large (by positivity)
    _ = 1 / 2 * tenTo (-16) * 2 ^ 53 * step := by ring
    _ < 1 / 2 * step := mul_lt_mul_of_pos_right small some

/-- What agrees with a positive double to seventeen digits is rounded to it. -/
theorem toDouble_of_near (positive : 0 < x)
    (double : toDouble x = x) (near : |x - v| ≤ 1 / 2 * tenTo (-16) * x) :
    toDouble v = x := by
  obtain ⟨n, units, few⟩ := exists_units positive double
  generalize exponent : max (binaryExponent x) (-1022) = e at units
  have unit := twoTo_pos (e - 52)
  have power : ∀ d : ℕ, twoTo d = 2 ^ d := fun d => by rw [twoTo_eq, zpow_natCast]
  have scale : ∀ d : ℕ, twoTo (e - 52 + d) = 2 ^ d * twoTo (e - 52) :=
    fun d => by rw [twoTo_add, power, mul_comm]
  have bound : (n : ℚ) ≤ 2 ^ 53 - 1 := by exact_mod_cast Int.le_sub_one_of_lt few
  have fits := mul_le_mul_of_nonneg_right bound unit.le
  rw [← units] at fits
  have apart := apart_lt_unit unit (by linarith) near
  obtain ⟨low, high⟩ := abs_lt.mp apart
  have below : v < twoTo (e + 1) := by grind
  have least : twoTo e = 2 ^ 52 * twoTo (e - 52) := by grind
  rcases le_or_gt (twoTo e) v with inside | outside
  · grind [binaryExponent_eq, toDouble_of_unit]
  rcases eq_or_ne e (-1022) with subnormal | normal
  · have one : (1 : ℚ) ≤ n := by
      have some : (0 : ℚ) < n := pos_of_mul_pos_left (units ▸ positive) unit.le
      exact_mod_cast some
    have some := mul_le_mul_of_nonneg_right one unit.le
    rw [← units] at some
    have before := twoTo_lt.mp ((twoTo_binaryExponent_le (by linarith : 0 < v)).trans_lt outside)
    grind [toDouble_of_unit]
  · -- the double is a power of two, and the unit before it is half of its own
    have power := twoTo_binaryExponent_le positive
    have own : binaryExponent x = e := by omega
    rw [own, least] at power
    have half : twoTo (e - 52) = 2 * twoTo (e - 1 - 52) := by
      rw [show e - 52 = 1 + (e - 1 - 52) by omega, twoTo_add]
      rfl
    have count : n = 2 ^ 52 := by
      have above : (2 ^ 52 : ℚ) ≤ n := by
        rw [units] at power
        exact le_of_mul_le_mul_right power unit
      have under : (n : ℚ) < 2 ^ 52 + 1 := by
        refine lt_of_mul_lt_mul_right ?_ unit.le
        linarith
      have aboveToo : (2 ^ 52 : ℤ) ≤ n := by exact_mod_cast above
      have underToo : n < (2 ^ 52 : ℤ) + 1 := by exact_mod_cast under
      omega
    rw [count, half] at units
    push_cast at units
    have step := twoTo_pos (e - 1 - 52)
    have close := apart_lt_unit step (by linarith) near
    have finer : twoTo (e - 1) = 2 ^ 52 * twoTo (e - 1 - 52) := by
      have shifted : e - 1 = 52 + (e - 1 - 52) := by omega
      have power : twoTo 52 = 2 ^ 52 := by decide
      rw [← power, ← twoTo_add, ← shifted]
    have before : binaryExponent v = e - 1 := by grind [binaryExponent_eq]
    have whole : x = ((2 ^ 53 : ℤ) : ℚ) * twoTo (e - 1 - 52) := by
      rw [units]
      ring
    rw [whole] at close ⊢
    exact toDouble_of_unit (by omega) close

/-! ### Reading what is printed -/

/-- What is printed for a positive double is read as it. -/
theorem toDouble_printed (positive : 0 < x)
    (double : toDouble x = x) : toDouble (printed x) = x := by
  obtain ⟨_, _, _, _, near⟩ := shortest_precise positive
  have value := abs_printed positive.ne'
  rw [abs_of_nonneg (printed_nonneg positive), abs_of_pos positive] at value
  rw [← value] at near
  refine near.elim id fun close => toDouble_of_near positive double ?_
  have point := tenTo_le_decimalPoint positive
  have split : tenTo (decimalPoint x - 17) = tenTo (-16) * tenTo (decimalPoint x - 1) := by
    rw [← tenTo_add]
    congr 1
    omega
  calc |x - printed x| ≤ 1 / 2 * tenTo (decimalPoint x - 17) := close
    _ = 1 / 2 * tenTo (-16) * tenTo (decimalPoint x - 1) := by rw [split, mul_assoc]
    _ ≤ 1 / 2 * tenTo (-16) * x := mul_le_mul_of_nonneg_left point
          (mul_nonneg (by norm_num) (tenTo_pos _).le)

theorem nearestDouble_neg (x : ℚ) : nearestDouble (-x) = -nearestDouble x := by
  grind [nearestDouble]

/-- What is printed for a double is read as it. -/
theorem nearestDouble_printed (double : IsDouble x) :
    nearestDouble (printed x) = x := by
  have ofPositive : ∀ {x : ℚ}, 0 < x → IsDouble x → nearestDouble (printed x) = x := by
    intro x positive double
    have some : 0 < printed x := by
      have magnitude := tenTo_le_abs_printed positive.ne'
      grind [printed_nonneg, tenTo_pos]
    rw [IsDouble, nearestDouble, if_neg positive.ne', if_neg positive.not_gt] at double
    rw [nearestDouble, if_neg some.ne', if_neg some.not_gt]
    exact toDouble_printed positive double
  rcases lt_trichotomy x 0 with below | zero | above
  · have opposite : IsDouble (-x) := by rw [IsDouble, nearestDouble_neg, double]
    grind [printed_neg, nearestDouble_neg]
  · rw [zero, printed, if_pos rfl, nearestDouble, if_pos rfl]
  · exact ofPositive above double

/-! ### What a text denotes -/

namespace DecimalLiteral

variable {literal other : DecimalLiteral}

theorem parts_of_text (same : literal.text = other.text) :
    literal.negative = other.negative ∧ literal.unsigned = other.unsigned := by
  have noMinus (literal : DecimalLiteral) : '-' ∉ literal.unsigned :=
    literal.not_mem_unsigned rfl (by decide)
  have texts := String.ofList_injective same
  grind

theorem digits_of_unsigned (same : literal.unsigned = other.unsigned) :
    literal.integer = other.integer ∧ literal.decimals = other.decimals := by
  have behind (literal : DecimalLiteral) :
      (literal.unsigned.dropWhile Char.isDigit).tail = literal.decimals := by
    rw [literal.dropWhile_unsigned, decimals]
    cases literal.fraction <;> rfl
  constructor
  · rw [← literal.takeWhile_unsigned, same, other.takeWhile_unsigned]
  · rw [← behind literal, same, behind other]

theorem value_of_text (same : literal.text = other.text) :
    literal.value = other.value := by
  obtain ⟨negative, unsigned⟩ := parts_of_text same
  obtain ⟨integer, decimals⟩ := digits_of_unsigned unsigned
  rw [value, value, negative, integer, decimals]

end DecimalLiteral

/-- Written with an exponent, the text tells the sign, the digits and the
point. -/
theorem written_far (nonzero : x ≠ 0) (far : (shortest |x|).2 ≤ -6 ∨ 21 < (shortest |x|).2) :
    ∃ literal : DecimalLiteral, literal.negative = decide (x < 0) ∧
      literal.integer ++ literal.decimals = (shortest |x|).1 ∧
      (written x).takeWhile (· ≠ 'e') = literal.text.toList ∧
      (written x).dropWhile (· ≠ 'e') = 'e' :: (if (shortest |x|).2 - 1 < 0 then '-' else '+') ::
          Nat.toDigits 10 ((shortest |x|).2 - 1).natAbs := by
  have nonempty : (shortest |x|).1 ≠ [] :=
    List.length_pos_iff.mp (shortest_spec (abs_pos.mpr nonzero)).1
  obtain ⟨literal, negative, text, _, _, digits⟩ :=
    pointed_exponent nonempty (shortest_digits |x|) far (decide (x < 0))
  have letter : ∀ c ∈ literal.text.toList, decide (c ≠ 'e') = true := by
    intro c member
    refine decide_eq_true ?_
    rintro rfl
    exact literal.not_mem_text rfl (by decide) (by decide) member
  have front : (if x < 0 then ['-'] else []) ++ literal.unsigned =
      literal.text.toList := by simp_all [DecimalLiteral.text]
  rw [written, if_neg nonzero]
  dsimp only
  rw [text, ← List.append_assoc, front]
  refine ⟨literal, negative, digits, ?_, ?_⟩
  · simp_all
  · rw [List.dropWhile_append_of_pos letter]
    rfl

/-- The text of a number tells the decimal that is printed. -/
theorem printed_of_written (same : written x = written y) :
    printed x = printed y := by
  let plain (x : ℚ) : Prop := x = 0 ∨ -6 < (shortest |x|).2 ∧ (shortest |x|).2 ≤ 21
  have letterless {x : ℚ} (isPlain : plain x) : 'e' ∉ written x := by
    obtain ⟨literal, text, _⟩ := written_plain isPlain
    have none := literal.not_mem_text (c := 'e') rfl (by decide) (by decide)
    rwa [← text, String.toList_ofList] at none
  have lettered {x : ℚ} (isFar : ¬ plain x) : x ≠ 0 ∧
      ((shortest |x|).2 ≤ -6 ∨ 21 < (shortest |x|).2) ∧ 'e' ∈ written x := by
    grind [written_exponent]
  by_cases isPlain : plain x <;> by_cases alsoPlain : plain y
  · grind [written_plain, DecimalLiteral.value_of_text]
  · exact absurd (same ▸ (lettered alsoPlain).2.2) (letterless isPlain)
  · exact absurd (same ▸ (lettered isPlain).2.2) (letterless alsoPlain)
  · obtain ⟨nonzero, far, _⟩ := lettered isPlain
    obtain ⟨alsoNonzero, alsoFar, _⟩ := lettered alsoPlain
    obtain ⟨literal, negative, digits, front, back⟩ := written_far nonzero far
    obtain ⟨other, opposite, others, alsoFront, alsoBack⟩ := written_far alsoNonzero alsoFar
    rw [same] at front back
    obtain ⟨sign, unsigned⟩ := DecimalLiteral.parts_of_text
      (String.toList_inj.mp (front.symm.trans alsoFront))
    obtain ⟨integer, decimals⟩ := DecimalLiteral.digits_of_unsigned unsigned
    have exponents := List.tail_eq_of_cons_eq (back.symm.trans alsoBack)
    obtain ⟨direction, magnitudes⟩ := List.cons.inj exponents
    have amounts := congrArg valueOf magnitudes
    rw [valueOf_toDigits, valueOf_toDigits] at amounts
    have points : (shortest |x|).2 = (shortest |y|).2 := by grind
    simp_all [printed, places]

theorem written_injective (double : IsDouble x)
    (also : IsDouble y) (same : written x = written y) : x = y := by
  rw [← nearestDouble_printed double, printed_of_written same, nearestDouble_printed also]

/-- What stands for a character between quotes: the two that have a meaning
there and the controls are escaped. -/
def escaped (c : Char) : List Char :=
  let backslash := Char.ofNat 0x5C
  if c.toNat = 0x22 ∨ c.toNat = 0x5C then [backslash, c]
  else if c.toNat = 0x08 then [backslash, 'b']
  else if c.toNat = 0x09 then [backslash, 't']
  else if c.toNat = 0x0A then [backslash, 'n']
  else if c.toNat = 0x0C then [backslash, 'f']
  else if c.toNat = 0x0D then [backslash, 'r']
  else if c.toNat < 0x20 then
    [backslash, 'u', '0', '0', Nat.digitChar (c.toNat / 16), Nat.digitChar (c.toNat % 16)]
  else [c]

def quoted (text : String) : String :=
  let quote := Char.ofNat 0x22
  String.ofList (quote :: text.toList.flatMap escaped ++ [quote])

mutual

/-- `JSON.stringify(value)`. -/
def Json.stringify : Json → String
  | .null => "null"
  | .bool value => if value then "true" else "false"
  | .number value => if value.isFinite then value.toText else "null"
  | .string text => quoted text
  | .array elements => "[" ++ elementsText elements ++ "]"
  | .object members => "\x7b" ++ membersText members ++ "\x7d"

def elementsText : List Json → String
  | [] => ""
  | [element] => element.stringify
  | element :: elements => element.stringify ++ "," ++ elementsText elements

def membersText : List (String × Json) → String
  | [] => ""
  | [member] => memberText member
  | member :: members => memberText member ++ "," ++ membersText members

def memberText : String × Json → String
  | (name, value) => quoted name ++ ":" ++ value.stringify

end

/-- The text of a member is shorter than that of the object. -/
theorem length_member_lt {name : String} (member : (name, value) ∈ members) :
    value.stringify.length < (Json.object members).stringify.length := by
  have within : value.stringify.length ≤ (membersText members).length := by
    induction members with
    | nil => cases member
    | cons head rest ih =>
      have here : value.stringify.length ≤ (memberText (name, value)).length := by simp [memberText]
      cases rest <;> grind [membersText, String.length_append]
  rw [Json.stringify, String.length_append, String.length_append]
  have brace : "\x7b".length = 1 := rfl
  omega

/-! ### What the text of a string tells -/

def hexValue (c : Char) : ℕ :=
  if c.isDigit then c.toNat - 48 else c.toNat - 87

/-- The first character that is meant, and what is left. -/
def unescaped : List Char → Option (Char × List Char)
  | [] => none
  | c :: rest =>
    if c.toNat = 0x5C then
      match rest with
      | 'b' :: rest => some (Char.ofNat 0x08, rest)
      | 't' :: rest => some (Char.ofNat 0x09, rest)
      | 'n' :: rest => some (Char.ofNat 0x0A, rest)
      | 'f' :: rest => some (Char.ofNat 0x0C, rest)
      | 'r' :: rest => some (Char.ofNat 0x0D, rest)
      | 'u' :: _ :: _ :: high :: low :: rest =>
        some (Char.ofNat (hexValue high * 16 + hexValue low), rest)
      | c :: rest => some (c, rest)
      | [] => none
    else some (c, rest)

theorem eq_ofNat_of_toNat {n : ℕ} (same : c.toNat = n) :
    c = Char.ofNat n := by rw [← same, Char.ofNat_toNat]

theorem unescaped_escaped (c : Char) (rest : List Char) :
    unescaped (escaped c ++ rest) = some (c, rest) := by
  have controls : ∀ n < 0x20, unescaped (escaped (Char.ofNat n) ++ rest) =
      some (Char.ofNat n, rest) := by
    intro n control
    interval_cases n <;> rfl
  by_cases control : c.toNat < 0x20
  · grind [eq_ofNat_of_toNat]
  · by_cases special : c.toNat = 0x22 ∨ c.toNat = 0x5C
    · rcases special with quote | backslash
      · rw [eq_ofNat_of_toNat quote]
        rfl
      · rw [eq_ofNat_of_toNat backslash]
        rfl
    · have plain : escaped c = [c] := by
        unfold escaped
        grind
      simp_all [unescaped]

theorem quote_not_first :
    escaped c ++ rest ≠ Char.ofNat 0x22 :: more := by
  intro same
  have read := unescaped_escaped c rest
  have first : unescaped (Char.ofNat 0x22 :: more) =
      some (Char.ofNat 0x22, more) := rfl
  rw [same, first] at read
  obtain ⟨rfl, rfl⟩ := Prod.mk.inj (Option.some.inj read)
  simp_all [escaped]

/-- The end of a string in quotes is where it is meant to be. -/
theorem quoted_inj {text other : String}
    (same : (quoted text).toList ++ rest = (quoted other).toList ++ more) :
    text = other ∧ rest = more := by
  have characters : ∀ characters others : List Char,
      characters.flatMap escaped ++ Char.ofNat 0x22 :: rest =
          others.flatMap escaped ++ Char.ofNat 0x22 :: more →
        characters = others ∧ rest = more := by
    intro characters
    induction characters with
    | nil =>
      intro others same
      cases others <;> grind [quote_not_first]
    | cons c characters ih =>
      intro others same
      rw [List.flatMap_cons, List.append_assoc] at same
      cases others <;> grind [quote_not_first, unescaped_escaped]
  simp only [quoted, String.toList_ofList, List.cons_append,
    List.append_assoc, List.cons.injEq, true_and] at same
  obtain ⟨texts, rests⟩ := characters _ _ same
  exact ⟨String.toList_inj.mp texts, rests⟩

/-! ### What the text of a number tells -/

/-- What a number is written with. -/
def isNumeric (c : Char) : Bool := c.isDigit || c ∈ ['-', '.', 'e', '+']

theorem written_numeric (x : ℚ) : ∀ c ∈ written x, isNumeric c = true := by
  have inText (literal : DecimalLiteral) :
      ∀ c ∈ literal.text.toList, isNumeric c = true := by
    intro c member
    rcases literal.mem_text member with rfl | rfl | digit <;> simp_all [isNumeric]
  obtain ⟨literal, text | ⟨sign, exponent, signed, digits, text⟩⟩ := written_cases x
  · grind [String.toList_ofList]
  · rw [text]
    intro c member
    rcases List.mem_append.mp member with front | back
    · exact inText literal c front
    · rcases List.mem_cons.mp back with rfl | back
      · rfl
      · rcases List.mem_cons.mp back with rfl | digit
        · rcases signed with rfl | rfl <;> rfl
        · simp [isNumeric, digits c digit]

theorem written_ne_nil (x : ℚ) : written x ≠ [] := by
  unfold written
  split <;> grind [shortest_spec, List.append_ne_nil_of_right_ne_nil, pointed]

/-! ### What the text of a value tells -/

mutual

/-- The numbers in the value are doubles. -/
def Json.doubles : Json → Bool
  | .number (.finite x) => IsDouble x
  | .number _ => false
  | .array elements => elementsDoubles elements
  | .object members => membersDoubles members
  | _ => true

def elementsDoubles : List Json → Bool
  | [] => true
  | element :: elements => element.doubles && elementsDoubles elements

def membersDoubles : List (String × Json) → Bool
  | [] => true
  | member :: members => memberDoubles member && membersDoubles members

def memberDoubles : String × Json → Bool
  | (_, value) => value.doubles

end

theorem elementsDoubles_iff :
    elementsDoubles elements = true ↔ ∀ element ∈ elements, element.doubles = true := by
  induction elements <;> simp_all [elementsDoubles]

theorem membersDoubles_iff :
    membersDoubles members = true ↔ ∀ member ∈ members, member.2.doubles = true := by
  induction members <;> grind [membersDoubles, memberDoubles]

/-- What may follow the text of a value inside another. -/
def Ends (rest : List Char) : Prop := ∀ c ∈ rest.head?, c ∈ [',', ']', Char.ofNat 0x7D]

/-- Texts with commas between them. -/
def commas {α : Type} (text : α → List Char) : List α → List Char
  | [] => []
  | [a] => text a
  | a :: as => text a ++ ',' :: commas text as

theorem commas_cons (text : α → List Char) (a : α) (as : List α) (close : Char) (rest : List Char) :
    commas text (a :: as) ++ close :: rest = text a ++
      match as with
      | [] => close :: rest
      | as => ',' :: (commas text as ++ close :: rest) := by
  cases as with
  | nil => rfl
  | cons b as => simp [commas]

/-- Texts that end where they are meant to do so also between commas, up to a
bracket that none of them begins with. -/
theorem commas_inj {text : α → List Char} {close : Char}
    (closes : close ∈ [']', Char.ofNat 0x7D]) {rest more : List Char} {list others : List α}
    (item : ∀ a ∈ list, ∀ b ∈ others, ∀ rest more, Ends rest → Ends more →
      text a ++ rest = text b ++ more → a = b ∧ rest = more)
    (opens : ∀ a ∈ list, ∀ rest more, text a ++ rest ≠ close :: more)
    (alsoOpens : ∀ b ∈ others, ∀ rest more, text b ++ rest ≠ close :: more)
    (same : commas text list ++ close :: rest = commas text others ++ close :: more) :
    list = others ∧ rest = more := by
  have ends (as : List α) (rest : List Char) : Ends (match as with
      | [] => close :: rest
      | as => ',' :: (commas text as ++ close :: rest)) := by
    intro c first
    grind
  have noComma : close ≠ ',' := by
    rintro rfl
    revert closes
    decide
  induction list generalizing others with
  | nil =>
    cases others with
    | nil => exact ⟨rfl, (List.cons.inj same).2⟩
    | cons b others =>
      rw [commas_cons] at same
      exact absurd same.symm (alsoOpens b List.mem_cons_self _ _)
  | cons a list ih =>
    rw [commas_cons] at same
    cases others with
    | nil => exact absurd same (opens a List.mem_cons_self _ _)
    | cons b others =>
      rw [commas_cons] at same
      obtain ⟨rfl, behind⟩ := item a List.mem_cons_self b
        List.mem_cons_self _ _ (ends list rest) (ends others more) same
      cases list with
      | nil => grind
      | cons a list =>
        cases others with
        | nil => exact absurd (List.cons.inj behind).1.symm noComma
        | cons b others =>
          obtain ⟨tails, rests⟩ := ih (fun a member b memberToo => item a
              (List.mem_cons_of_mem _ member) b (List.mem_cons_of_mem _ memberToo))
            (fun a member => opens a (List.mem_cons_of_mem _ member)) (fun b member =>
              alsoOpens b (List.mem_cons_of_mem _ member))
            (List.cons.inj behind).2
          exact ⟨congrArg _ tails, rests⟩

theorem toList_elementsText (elements : List Json) :
    (elementsText elements).toList = commas (fun element => element.stringify.toList) elements := by
  induction elements with
  | nil => rfl
  | cons element elements ih => cases elements <;> simp_all [elementsText, commas]

theorem toList_membersText (members : List (String × Json)) :
    (membersText members).toList = commas (fun member => (memberText member).toList) members := by
  induction members with
  | nil => rfl
  | cons member members ih => cases members <;> simp_all [membersText, commas]

theorem toList_array (elements : List Json) (rest : List Char) :
    (Json.array elements).stringify.toList ++ rest =
      '[' :: (commas (fun element => element.stringify.toList) elements ++ ']' :: rest) := by
  simp [Json.stringify, toList_elementsText]

theorem toList_object (members : List (String × Json)) (rest : List Char) :
    (Json.object members).stringify.toList ++ rest =
      Char.ofNat 0x7B :: (commas (fun member => (memberText member).toList)
        members ++ Char.ofNat 0x7D :: rest) := by simp [Json.stringify, toList_membersText]

/-- The name of a member, and what is behind the colon. -/
theorem memberText_name {member other : String × Json}
    (same : (memberText member).toList ++ rest = (memberText other).toList ++ more) :
    member.1 = other.1 ∧ member.2.stringify.toList ++ rest = other.2.stringify.toList ++ more := by
  have colon : ":".toList = [':'] := rfl
  obtain ⟨name, value⟩ := member
  obtain ⟨otherName, otherValue⟩ := other
  simp only [memberText, String.toList_append, List.append_assoc, colon] at same
  obtain ⟨names, behind⟩ := quoted_inj same
  exact ⟨names, (List.cons.inj behind).2⟩

theorem brace_not_first (member : String × Json) (rest more : List Char) :
    (memberText member).toList ++ rest ≠ Char.ofNat 0x7D :: more := by
  obtain ⟨name, value⟩ := member
  simp [memberText, quoted]

/-- Which kind of value begins with a character. -/
def opening (c : Char) : ℕ := if isNumeric c then 1 else c.toNat

def Json.opening : Json → ℕ
  | .null => 'n'.toNat
  | .bool true => 't'.toNat
  | .bool false => 'f'.toNat
  | .number _ => 1
  | .string _ => 0x22
  | .array _ => '['.toNat
  | .object _ => 0x7B

theorem toList_number (x : ℚ) :
    (Json.number (.finite x)).stringify.toList = written x := by
  simp [Json.stringify, Number.isFinite, Number.toText]

theorem head_stringify (doubles : value.doubles = true) (rest : List Char) :
    (value.stringify.toList ++ rest).head?.map Numerals.opening =
      some value.opening := by
  cases value with
  | null => rfl
  | bool value => cases value <;> rfl
  | number value =>
    cases value with
    | finite x =>
      obtain ⟨c, others, text⟩ := List.exists_cons_of_ne_nil (written_ne_nil x)
      have numeric := written_numeric x c (by simp [text])
      rw [toList_number, text, List.cons_append, List.head?_cons,
        Option.map_some, Numerals.opening, if_pos numeric]
      rfl
    | infinity | nan => simp [Json.doubles] at doubles
  | string text => simp [Json.stringify, quoted]; rfl
  | array elements => simp [Json.stringify]; rfl
  | object members => simp [Json.stringify]; rfl

theorem bracket_not_first (doubles : value.doubles = true) (rest more : List Char) :
    value.stringify.toList ++ rest ≠ ']' :: more := by
  intro same
  have first := head_stringify doubles rest
  rw [same] at first
  have bracket : ']'.toNat = value.opening := Option.some.inj first
  cases value with
  | bool value => cases value <;> simp [Json.opening] at bracket
  | _ => simp [Json.opening] at bracket

theorem written_inj (double : IsDouble x) (also : IsDouble y) (ends : Ends rest)
    (alsoEnds : Ends more)
    (same : written x ++ rest = written y ++ more) :
    x = y ∧ rest = more := by
  have front : ∀ x rest, Ends rest → (written x ++ rest).takeWhile isNumeric = written x := by
    intro x rest ends
    have none : rest.takeWhile isNumeric = [] := by
      cases rest with
      | nil => rfl
      | cons c rest =>
        have closes : ∀ c ∈ [',', ']', Char.ofNat 0x7D], ¬ isNumeric c = true := by
          simp [isNumeric]
        exact List.takeWhile_cons_of_neg (closes c (ends c rfl))
    rw [List.takeWhile_append_of_pos (written_numeric x), none, List.append_nil]
  grind [written_injective, List.append_cancel_left]

/-- The text of the value tells the value, and ends where it is meant to. -/
def Tells (value : Json) : Prop := ∀ (other : Json) (rest more : List Char), value.doubles = true →
    other.doubles = true → Ends rest → Ends more →
      value.stringify.toList ++ rest = other.stringify.toList ++ more → value = other ∧ rest = more

theorem opening_eq (doubles : value.doubles = true) (alsoDoubles : other.doubles = true)
    (same : value.stringify.toList ++ rest = other.stringify.toList ++ more) :
    value.opening = other.opening := by grind [head_stringify]

theorem tells_null : Tells .null := by
  intro other rest more doubles alsoDoubles ends alsoEnds same
  have openings := opening_eq doubles alsoDoubles same
  cases other with
  | null => exact ⟨rfl, List.append_cancel_left same⟩
  | bool other => cases other <;> simp [Json.opening] at openings
  | _ => simp [Json.opening] at openings

theorem tells_bool (value : Bool) : Tells (.bool value) := by
  intro other rest more doubles alsoDoubles ends alsoEnds same
  have openings := opening_eq doubles alsoDoubles same
  cases other with
  | bool other =>
    cases value <;> cases other <;> first
      | exact ⟨rfl, List.append_cancel_left same⟩
      | simp [Json.opening] at openings
  | _ => cases value <;> simp [Json.opening] at openings

theorem tells_number (value : Number) : Tells (.number value) := by
  intro other rest more doubles alsoDoubles ends alsoEnds same
  have openings := opening_eq doubles alsoDoubles same
  cases other with
  | number other =>
    cases value with
    | finite x =>
      cases other with
      | finite y =>
        rw [toList_number, toList_number] at same
        obtain ⟨rfl, rests⟩ := written_inj (of_decide_eq_true doubles)
          (of_decide_eq_true alsoDoubles) ends alsoEnds same
        exact ⟨rfl, rests⟩
      | infinity | nan => cases alsoDoubles
    | infinity | nan => cases doubles
  | bool other => cases other <;> simp [Json.opening] at openings
  | _ => simp [Json.opening] at openings

theorem tells_string (text : String) : Tells (.string text) := by
  intro other rest more doubles alsoDoubles ends alsoEnds same
  have openings := opening_eq doubles alsoDoubles same
  cases other with
  | string other =>
    obtain ⟨rfl, rests⟩ := quoted_inj same
    exact ⟨rfl, rests⟩
  | bool other => cases other <;> simp [Json.opening] at openings
  | _ => simp [Json.opening] at openings

theorem tells_array (tells : ∀ element ∈ elements, Tells element) :
    Tells (.array elements) := by
  intro other rest more doubles alsoDoubles ends alsoEnds same
  have openings := opening_eq doubles alsoDoubles same
  cases other with
  | array others =>
    have inside := elementsDoubles_iff.mp doubles
    have alsoInside := elementsDoubles_iff.mp alsoDoubles
    rw [toList_array, toList_array] at same
    obtain ⟨rfl, rests⟩ := commas_inj List.mem_cons_self
      (fun element member other memberToo rest more =>
        tells element member other rest more (inside element member) (alsoInside other memberToo))
      (fun element member => bracket_not_first (inside element member))
      (fun other member => bracket_not_first (alsoInside other member)) (List.cons.inj same).2
    exact ⟨rfl, rests⟩
  | bool other => cases other <;> simp [Json.opening] at openings
  | _ => simp [Json.opening] at openings

theorem tells_object (tells : ∀ member ∈ members, Tells member.2) :
    Tells (.object members) := by
  intro other rest more doubles alsoDoubles ends alsoEnds same
  have openings := opening_eq doubles alsoDoubles same
  cases other with
  | object others =>
    have inside := membersDoubles_iff.mp doubles
    have alsoInside := membersDoubles_iff.mp alsoDoubles
    have item : ∀ member ∈ members, ∀ other ∈ others, ∀ rest more, Ends rest → Ends more →
          (memberText member).toList ++ rest = (memberText other).toList ++ more →
            member = other ∧ rest = more := by
      intro member among other amongToo rest more ends alsoEnds same
      obtain ⟨names, behind⟩ := memberText_name same
      obtain ⟨values, rests⟩ := tells member among other.2 rest more
        (inside member among) (alsoInside other amongToo) ends alsoEnds behind
      exact ⟨Prod.ext names values, rests⟩
    rw [toList_object, toList_object] at same
    obtain ⟨rfl, rests⟩ := commas_inj (List.mem_cons_of_mem _ List.mem_cons_self) item
      (fun member _ => brace_not_first member)
      (fun other _ => brace_not_first other) (List.cons.inj same).2
    exact ⟨rfl, rests⟩
  | bool other => cases other <;> simp [Json.opening] at openings
  | _ => simp [Json.opening] at openings

theorem Json.tells : ∀ value : Json, Tells value
  | .null => tells_null
  | .bool value => tells_bool value
  | .number value => tells_number value
  | .string text => tells_string text
  | .array elements => tells_array fun element _ => Json.tells element
  | .object members => tells_object fun member _ => Json.tells member.2
termination_by value => sizeOf value
decreasing_by
  · have := List.sizeOf_lt_of_mem ‹element ∈ elements›
    simp
    omega
  · have := List.sizeOf_lt_of_mem ‹member ∈ members›
    obtain ⟨name, value⟩ := member
    simp at this ⊢
    omega

theorem Json.stringify_injective
    (doubles : value.doubles = true) (alsoDoubles : other.doubles = true)
    (same : value.stringify = other.stringify) : value = other :=
  (value.tells other [] [] doubles alsoDoubles nofun nofun (by rw [same])).1

end Numerals
