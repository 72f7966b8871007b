/-
Module: MarketX.Numerals.Number
Purpose: JavaScript numbers: the value of a finite one, how numbers are
  written (`toString`, `toFixed`) and read (`parseFloat`, `Number`), and
  products and quotients of them.
Trusted boundary: follows the language definition, save that the result of an
  operation is not rounded to a double and that the two zeros are one
Main exports: Number, Number.isFinite, Number.le, Number.lt
-/
import Mathlib.Data.Rat.Floor
import MarketX.Numerals.Decimal

namespace Numerals

inductive Number where
  | finite (value : ℚ)
  | infinity (negative : Bool)
  | nan
deriving DecidableEq

/-- `10 ** e`. -/
def tenTo : ℤ → ℚ
  | .ofNat n => ((10 ^ n : ℕ) : ℚ)
  | .negSucc n => mkRat 1 (10 ^ (n + 1))

/-- `2 ** e`. -/
def twoTo : ℤ → ℚ
  | .ofNat n => ((2 ^ n : ℕ) : ℚ)
  | .negSucc n => mkRat 1 (2 ^ (n + 1))

/-! ### Doubles -/

/-- The nearest integer, and the even one of two. -/
def roundHalfEven (x : ℚ) : ℤ :=
  let below := ⌊x⌋
  if x - below < 1 / 2 then below
  else if x - below > 1 / 2 then below + 1
  else if 2 ∣ below then below
  else below + 1

/-- The nearest integer, and the larger one of two. -/
def roundHalfUp (x : ℚ) : ℤ := ⌊x + 1 / 2⌋

/-- The exponent of the greatest power of two that is not above a positive
number. -/
def binaryExponent (x : ℚ) : ℤ :=
  let guess : ℤ := (Nat.log2 x.num.natAbs : ℤ) - Nat.log2 x.den
  if x < twoTo guess then guess - 1 else guess

/-- The double next to a positive number. -/
def toDouble (x : ℚ) : ℚ :=
  let unit := twoTo (max (binaryExponent x) (-1022) - 52)
  roundHalfEven (x / unit) * unit

/-- What is too large for a double is infinite. -/
def Number.ofRat (x : ℚ) : Number :=
  if |x| < twoTo 1024 - twoTo 970 then .finite x else .infinity (x < 0)

/-! ### Writing -/

/-- Where the decimal point of a positive number stands: the least `n` such
that the number is below `10 ** n`. -/
def decimalPoint (x : ℚ) : ℤ :=
  let guess : ℤ :=
    ((Nat.toDigits 10 x.num.natAbs).length : ℤ) - (Nat.toDigits 10 x.den).length
  if x < tenTo guess then guess else guess + 1

/-- The fewest digits that single out a positive double, and where its point
stands among them. -/
def shortest (x : ℚ) : List Char × ℤ :=
  let point := decimalPoint x
  let digits (count : ℕ) : ℕ := (roundHalfUp (x * tenTo (count - point))).toNat
  let enough (count : ℕ) : Bool := toDouble (digits count * tenTo (point - count)) = x
  let count := (((List.range 17).map (· + 1)).find? enough).getD 17
  if digits count = 10 ^ count then (['1'], point + 1)
  else (Nat.toDigits 10 (digits count), point)

/-- Digits with a point among, before or behind them, or with an exponent. -/
def pointed (digits : List Char) (point : ℤ) : List Char :=
  if digits.length ≤ point ∧ point ≤ 21 then
    digits ++ List.replicate (point - digits.length).toNat '0'
  else if 0 < point ∧ point ≤ 21 then
    digits.take point.toNat ++ '.' :: digits.drop point.toNat
  else if -6 < point ∧ point ≤ 0 then
    '0' :: '.' :: (List.replicate (-point).toNat '0' ++ digits)
  else
    let exponent := 'e' :: (if point - 1 < 0 then '-' else '+') ::
        Nat.toDigits 10 (point - 1).natAbs
    match digits with
    | [] => exponent
    | [digit] => digit :: exponent
    | digit :: others => digit :: '.' :: (others ++ exponent)

/-- A finite number as it is written. -/
def written (x : ℚ) : List Char :=
  if x = 0 then ['0']
  else
    let digits := shortest |x|
    (if x < 0 then ['-'] else []) ++ pointed digits.1 digits.2

namespace Number

def isFinite : Number → Bool
  | .finite _ => true
  | _ => false

/-- `x <= y`. -/
def le : Number → Number → Bool
  | .finite x, .finite y => x ≤ y
  | .finite _, .infinity negative => !negative
  | .infinity negative, .finite _ => negative
  | .infinity below, .infinity above => below || !above
  | _, _ => false

/-- `x < y`. -/
def lt (x y : Number) : Bool := x.le y && x ≠ y

/-- The number is less than zero. -/
def isNegative : Number → Bool
  | .finite x => x < 0
  | .infinity negative => negative
  | .nan => false

/-- `x * y`. -/
def mul : Number → Number → Number
  | .finite x, .finite y => .finite (x * y)
  | .nan, _ | _, .nan => .nan
  | x, y =>
    if x = .finite 0 ∨ y = .finite 0 then .nan
    else .infinity (x.isNegative != y.isNegative)

/-- `-x`. -/
def neg : Number → Number
  | .finite x => .finite (-x)
  | .infinity negative => .infinity !negative
  | .nan => .nan

/-- `x + y`. -/
def add : Number → Number → Number
  | .finite x, .finite y => .finite (x + y)
  | .nan, _ | _, .nan => .nan
  | .finite _, y => y
  | x, .finite _ => x
  | .infinity negative, .infinity other =>
    if negative = other then .infinity negative else .nan

/-- `x - y`. -/
def sub (x y : Number) : Number := x.add y.neg

/-- `x / y`. -/
def div : Number → Number → Number
  | .finite x, .finite y =>
    if y = 0 then
      if x = 0 then .nan else .infinity (x < 0)
    else .finite (x / y)
  | .finite _, .infinity _ => .finite 0
  | .infinity negative, .finite y => .infinity (negative != decide (y < 0))
  | _, _ => .nan

/-- A result that is too large for a double is infinite. -/
def clip : Number → Number
  | .finite x => .ofRat x
  | number => number

/-- `Math.pow`, with an exponent that counts. -/
def pow : Number → ℕ → Number
  | _, 0 => .finite 1
  | .finite x, exponent => .ofRat (x ^ exponent)
  | .infinity negative, exponent => .infinity (negative && exponent % 2 = 1)
  | .nan, _ => .nan

/-- `Math.min` of two numbers. -/
def least (x y : Number) : Number :=
  if x = .nan ∨ y = .nan then .nan else if x.le y then x else y

/-- `Math.floor`. -/
def floor : Number → Number
  | .finite x => .finite ⌊x⌋
  | number => number

/-- `toString`. -/
def toText : Number → String
  | .finite x => String.ofList (written x)
  | .infinity negative => if negative then "-Infinity" else "Infinity"
  | .nan => "NaN"

/-- The digits of a number of units of the last decimal place. -/
def fixedDigits (units places : ℕ) : List Char := Nat.toDigits 10 (units / 10 ^ places) ++
    if places = 0 then []
    else '.' :: (Nat.toDigits 10 (units % 10 ^ places)).leftpad places '0'

/-- `toFixed`. -/
def toFixed (places : ℕ) : Number → String
  | .finite x =>
    if tenTo 21 ≤ |x| then String.ofList (written x)
    else String.ofList ((if x < 0 then ['-'] else []) ++
      fixedDigits (roundHalfUp (|x| * tenTo places)).toNat places)
  | number => toText number

/-! ### Numbers from zero on -/

variable {low value : ℚ} {x y : Number}

theorem le_cases (le : (Number.finite low).le x) :
    (∃ value, low ≤ value ∧ x = .finite value) ∨ x = .infinity false := by
  cases x with
  | finite value => exact .inl ⟨value, of_decide_eq_true le, rfl⟩
  | infinity negative => grind [le]
  | nan => cases le

theorem le_of_value (le : low ≤ value) :
    (Number.finite low).le (.finite value) := decide_eq_true le

theorem le_ofRat (le : low ≤ value) (nonneg : 0 ≤ value) :
    (Number.finite low).le (.ofRat value) := by grind [Number.ofRat, le]

theorem le_trans {z : Number} (first : x.le y) (second : y.le z) :
    x.le z := by
  cases x <;> cases y <;> cases z <;> simp_all [le]
  · exact first.trans second
  · grind

theorem one_le_pow (le : (Number.finite 1).le x)
    (exponent : ℕ) : (Number.finite 1).le (x.pow exponent) := by
  cases exponent with
  | zero =>
    cases x <;> exact le_of_value (le_refl 1)
  | succ exponent =>
    rcases le_cases le with ⟨value, above, rfl⟩ | rfl
    · have power : 1 ≤ value ^ (exponent + 1) := one_le_pow₀ above
      exact le_ofRat power (zero_le_one.trans power)
    · rfl

theorem mul_nonneg_cases (nonneg : (Number.finite 0).le x) (one_le : (Number.finite 1).le y) :
    (Number.finite 0).le (x.mul y).clip ∨
      x = .finite 0 ∧ y = .infinity false ∧ (x.mul y).clip = .nan := by
  grind [le_cases, mul_nonneg, le_ofRat, mul, clip, isNegative, le]

theorem least_cases (nonneg : (Number.finite 0).le x) (also : (Number.finite 0).le y) :
    (Number.finite 0).le (x.least y) ∧ (x.least y).le y := by
  rcases le_cases nonneg with ⟨first, low, rfl⟩ | rfl <;>
    rcases le_cases also with ⟨second, above, rfl⟩ | rfl
  · unfold least
    grind [le_of_value]
  · exact ⟨nonneg, rfl⟩
  · exact ⟨also, le_of_value (le_refl second)⟩
  · exact ⟨rfl, rfl⟩

theorem least_eq_infinity (nonneg : (Number.finite 0).le x)
    (also : (Number.finite 0).le y) (endless : x.least y = .infinity false) :
    x = .infinity false ∧ y = .infinity false := by
  rcases le_cases nonneg with ⟨first, -, rfl⟩ | rfl <;>
    rcases le_cases also with ⟨second, -, rfl⟩ | rfl
  · unfold least at endless
    grind
  · cases endless
  · cases endless
  · exact ⟨rfl, rfl⟩

/-- A part of a number from zero on, rounded down; there is none of infinity
where the part is nothing. -/
theorem floor_mul_cases {part : ℚ} (nonneg : 0 ≤ part) (lt_one : part < 1)
    (low : (Number.finite 0).le x) :
    (Number.finite 0).le ((Number.finite part).mul x).floor ∧
        ((Number.finite part).mul x).floor.le x ∨ part = 0 ∧ x = .infinity false ∧
        ((Number.finite part).mul x).floor = .nan := by
  rcases le_cases low with ⟨value, above, rfl⟩ | rfl
  · refine .inl ⟨le_of_value ?_, le_of_value ?_⟩
    · exact_mod_cast Int.floor_nonneg.mpr (mul_nonneg nonneg above)
    · exact (Int.floor_le _).trans (mul_le_of_le_one_left above lt_one.le)
  · grind [mul, floor, isNegative, le]

end Number

/-- What `pointed` makes of digits is a decimal literal, or has an
exponent. -/
theorem pointed_cases {digits : List Char} (all : AllDigits digits) (point : ℤ) (negative : Bool) :
    ∃ literal : DecimalLiteral, literal.negative = negative ∧
      (pointed digits point = literal.unsigned ∨
        ∃ sign exponent, (sign = '+' ∨ sign = '-') ∧ AllDigits exponent ∧ pointed digits point =
            literal.unsigned ++ 'e' :: sign :: exponent) := by
  have zeros : ∀ count, AllDigits (List.replicate count '0') := by
    intro count c member
    rw [List.eq_of_mem_replicate member]
    rfl
  have taken : ∀ count, AllDigits (digits.take count) :=
    fun count c member => all c (List.mem_of_mem_take member)
  have dropped : ∀ count, AllDigits (digits.drop count) :=
    fun count c member => all c (List.mem_of_mem_drop member)
  have none_digits : AllDigits [] := List.forall_mem_nil _
  unfold pointed
  split
  · exact ⟨⟨negative, _, none, all.append (zeros _), none_digits⟩, rfl,
      .inl (List.append_nil _).symm⟩
  split
  · exact ⟨⟨negative, _, some _, taken _, dropped _⟩, rfl, .inl rfl⟩
  split
  · exact ⟨⟨negative, ['0'], some _, zeros 1, (zeros _).append all⟩, rfl, .inl rfl⟩
  have sign : (if point - 1 < 0 then '-' else '+') = '+' ∨
      (if point - 1 < 0 then '-' else '+') = '-' := by
    split
    · exact .inr rfl
    · exact .inl rfl
  have exponent := allDigits_toDigits (point - 1).natAbs
  cases digits with
  | nil =>
    exact ⟨⟨negative, [], none, none_digits, none_digits⟩, rfl, .inr ⟨_, _, sign, exponent, rfl⟩⟩
  | cons digit others =>
    cases others with
    | nil =>
      exact ⟨⟨negative, [digit], none, all, none_digits⟩, rfl, .inr ⟨_, _, sign, exponent, rfl⟩⟩
    | cons next others =>
      exact ⟨⟨negative, [digit], some (next :: others), taken 1,
        dropped 1⟩, rfl, .inr ⟨_, _, sign, exponent, rfl⟩⟩

theorem shortest_digits (x : ℚ) : AllDigits (shortest x).1 := by
  simp only [shortest]
  split
  · intro c member
    rw [List.mem_singleton.mp member]
    rfl
  · exact allDigits_toDigits _

/-- A finite number is written as a decimal literal, or as one with an
exponent behind it. -/
theorem written_cases (x : ℚ) :
    ∃ literal : DecimalLiteral, String.ofList (written x) = literal.text ∨
        ∃ sign exponent, (sign = '+' ∨ sign = '-') ∧ AllDigits exponent ∧
          written x = literal.text.toList ++ 'e' :: sign :: exponent := by
  unfold written
  split
  · exact ⟨⟨false, ['0'], none, by simp [AllDigits], by simp [AllDigits]⟩, .inl rfl⟩
  · obtain ⟨literal, negative, plain | ⟨sign, exponent, signed, digits, shape⟩⟩ :=
      pointed_cases (shortest_digits |x|) (shortest |x|).2 (decide (x < 0))
    · exact ⟨literal, .inl (by simp only [plain, DecimalLiteral.text, negative, decide_eq_true_eq])⟩
    · exact ⟨literal, .inr ⟨sign, exponent, signed, digits, by
        simp only [shape, DecimalLiteral.text, negative, decide_eq_true_eq,
          String.toList_ofList, List.append_assoc]⟩⟩

/-! ### Where the point stands -/

theorem tenTo_eq (e : ℤ) : tenTo e = 10 ^ e := by cases e <;> simp [tenTo, Rat.mkRat_eq_div]

theorem lt_pow_length_toDigits (n : ℕ) :
    n < 10 ^ (Nat.toDigits 10 n).length :=
  (Nat.length_toDigits_le_iff (by decide) (List.length_pos_iff.mpr Nat.toDigits_ne_nil)).mp le_rfl

theorem pow_length_toDigits_le {n : ℕ} (positive : 0 < n) :
    10 ^ ((Nat.toDigits 10 n).length - 1) ≤ n := by
  by_contra below
  rcases Nat.eq_zero_or_pos ((Nat.toDigits 10 n).length - 1) with none | some
  · rw [none, pow_zero] at below
    omega
  · have short := (Nat.length_toDigits_le_iff (by decide) some).mpr (Nat.lt_of_not_le below)
    omega

/-- A positive number is below the power of ten at its point. -/
theorem lt_tenTo_decimalPoint {x : ℚ} (positive : 0 < x) :
    x < tenTo (decimalPoint x) := by
  have above := lt_pow_length_toDigits x.num.natAbs
  have below := pow_length_toDigits_le x.den_pos
  have some : 0 < (Nat.toDigits 10 x.den).length := List.length_pos_iff.mpr Nat.toDigits_ne_nil
  simp only [decimalPoint]
  generalize (Nat.toDigits 10 x.num.natAbs).length = width at above ⊢
  generalize (Nat.toDigits 10 x.den).length = depth at below some ⊢
  split
  · assumption
  · have numerator : (x.num : ℚ) < 10 ^ width := by
      have : ((x.num.natAbs : ℤ) : ℚ) < 10 ^ width := by exact_mod_cast above
      rwa [Int.natAbs_of_nonneg (Rat.num_nonneg.mpr positive.le)] at this
    have denominator : (10 : ℚ) ^ (depth - 1) ≤ x.den := by exact_mod_cast below
    have exponent : (width : ℤ) - depth + 1 = width - (depth - 1 : ℕ) := by omega
    rw [tenTo_eq, exponent, zpow_sub₀ (by norm_num), zpow_natCast,
      zpow_natCast, lt_div_iff₀ (by positivity)]
    calc x * 10 ^ (depth - 1) ≤ x * x.den := mul_le_mul_of_nonneg_left denominator positive.le
      _ = x.num := Rat.mul_den_eq_num x
      _ < 10 ^ width := numerator

theorem decimalPoint_le_shortest (x : ℚ) :
    decimalPoint x ≤ (shortest x).2 := by
  simp only [shortest]
  split
  · exact (Int.lt_succ _).le
  · exact le_rfl

/-- From `10 ** 21` on a number is written with an exponent. -/
theorem written_large {x : ℚ} (large : tenTo 21 ≤ x) : 'e' ∈ written x := by
  have positive : 0 < x := lt_of_lt_of_le (by decide) large
  have far : 21 < (shortest x).2 := by
    have point := lt_of_le_of_lt large (lt_tenTo_decimalPoint positive)
    rw [tenTo_eq, tenTo_eq, zpow_lt_zpow_iff_right₀ (by norm_num)] at point
    exact lt_of_lt_of_le point (decimalPoint_le_shortest x)
  have exponent : 'e' ∈ pointed (shortest x).1 (shortest x).2 := by
    unfold pointed
    grind
  simp only [written, positive.ne', if_false, abs_of_pos positive, positive.not_gt, List.nil_append]
  exact exponent

theorem toFixed_below {x : ℚ} (places : ℕ) (nonneg : 0 ≤ x) (below : x < tenTo 21) :
    (Number.finite x).toFixed places = String.ofList (Number.fixedDigits
      (roundHalfUp (x * tenTo places)).toNat places) := by
  simp only [Number.toFixed, abs_of_nonneg nonneg, not_le.mpr below,
    nonneg.not_gt, if_false, List.nil_append]

example :
    [toDouble (3 / 10), toDouble (1 / 10 ^ 7), -toDouble (10 ^ 23)].map
        (fun x => (Number.finite x).toText) = ["0.3", "1e-7", "-1e+23"] := by decide +kernel

/-! ### Reading -/

/-- The number at the beginning of a text, or `NaN`. -/
def parseFloatText (text : List Char) : Number :=
  let unsigned (negative : Bool) (rest : List Char) : Number :=
    if "Infinity".toList.isPrefixOf rest then .infinity negative
    else
      let integer := rest.takeWhile Char.isDigit
      let behind := rest.dropWhile Char.isDigit
      let fraction := match behind with
        | '.' :: more => more.takeWhile Char.isDigit
        | _ => []
      let tail := match behind with
        | '.' :: more => more.dropWhile Char.isDigit
        | _ => behind
      let exponent : ℤ := match tail with
        | 'e' :: '-' :: more | 'E' :: '-' :: more => -(valueOf (more.takeWhile Char.isDigit) : ℤ)
        | 'e' :: '+' :: more | 'E' :: '+' :: more | 'e' :: more
        | 'E' :: more => valueOf (more.takeWhile Char.isDigit)
        | _ => 0
      if integer = [] ∧ fraction = [] then .nan
      else
        let magnitude := valueOf (integer ++ fraction) * tenTo (exponent - fraction.length)
        Number.ofRat (if negative then -magnitude else magnitude)
  match text.dropWhile isBlank with
  | '-' :: rest => unsigned true rest
  | '+' :: rest => unsigned false rest
  | rest => unsigned false rest

/-- The text is a decimal number from its beginning to its end. -/
def isNumeral (text : List Char) : Bool :=
  let unsigned := match text with
    | '-' :: rest | '+' :: rest => rest
    | rest => rest
  let integer := unsigned.takeWhile Char.isDigit
  let behind := unsigned.dropWhile Char.isDigit
  let fraction := match behind with
    | '.' :: more => more.takeWhile Char.isDigit
    | _ => []
  let tail := match behind with
    | '.' :: more => more.dropWhile Char.isDigit
    | _ => behind
  let exponent : Bool := match tail with
    | [] => true
    | 'e' :: '-' :: more | 'E' :: '-' :: more | 'e' :: '+' :: more
    | 'E' :: '+' :: more | 'e' :: more | 'E' :: more => !more.isEmpty && more.all Char.isDigit
    | _ => false
  unsigned = "Infinity".toList || (!integer.isEmpty || !fraction.isEmpty) && exponent

/-- `Number(text)`. -/
def numberOf (text : String) : Number :=
  let whole (digits : Option ℕ) : Number :=
    match digits with
    | some n => Number.ofRat n
    | none => .nan
  match trimmed text.toList with
  | [] => .finite 0
  | '0' :: 'x' :: rest | '0' :: 'X' :: rest => whole (natural? 16 rest)
  | '0' :: 'o' :: rest | '0' :: 'O' :: rest => whole (natural? 8 rest)
  | '0' :: 'b' :: rest | '0' :: 'B' :: rest => whole (natural? 2 rest)
  | rest =>
    if isNumeral rest then
      match parseFloatText rest with
      | .finite x =>
        if x = 0 then .finite 0
        else if x < 0 then .finite (-toDouble (-x))
        else .finite (toDouble x)
      | number => number
    else .nan

example :
    [" 0x1F ", "-.5", "1e3", "1e400", "12px", ""].map numberOf =
      [.finite 31, .finite (-1 / 2), .finite 1000, .infinity false, .nan, .finite 0] := by
  decide +kernel

end Numerals
