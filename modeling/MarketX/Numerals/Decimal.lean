/-
Module: MarketX.Numerals.Decimal
Purpose: Decimal digits and the integers a JavaScript runtime reads out of a
  string: the value of a list of digits, leading zeros, padding, `BigInt` and
  `parseInt` of a text, and decimal literals with the rational number they
  denote.
Trusted boundary: `BigInt` of a string follows the language definition
Main exports: valueOf, stripZeros, bigInt?, parseInt?
-/
import Mathlib.Data.List.TakeWhile
import Mathlib.Data.Rat.Cast.Order
import Mathlib.Tactic.FieldSimp
import Mathlib.Tactic.Ring

namespace Numerals

/-! ### Digits -/

/-- Every character is one of `0` to `9`. -/
def AllDigits (text : List Char) : Prop := ∀ c ∈ text, c.isDigit = true

/-- The number a list of digits stands for. -/
def valueOf (digits : List Char) : ℕ := Nat.ofDigitChars 10 digits 0

@[simp] theorem valueOf_nil : valueOf [] = 0 := rfl

theorem valueOf_append (front back : List Char) :
    valueOf (front ++ back) = valueOf front * 10 ^ back.length + valueOf back := by
  rw [valueOf, Nat.ofDigitChars_append, Nat.ofDigitChars_eq_ofDigitChars_zero, Nat.mul_comm]
  rfl

theorem valueOf_zero_cons (rest : List Char) :
    valueOf ('0' :: rest) = valueOf rest := by simp [valueOf, Nat.ofDigitChars_cons]

@[simp] theorem valueOf_toDigits (n : ℕ) : valueOf (Nat.toDigits 10 n) = n :=
  Nat.ofDigitChars_ten_toDigits

theorem allDigits_toDigits (n : ℕ) : AllDigits (Nat.toDigits 10 n) :=
  fun _ member => Nat.isDigit_of_mem_toDigits (by decide) (by decide) member

theorem AllDigits.append {front back : List Char} (first : AllDigits front)
    (second : AllDigits back) : AllDigits (front ++ back) := by
  intro c member
  rcases List.mem_append.mp member with inFront | inBack
  · exact first c inFront
  · exact second c inBack

variable {c : Char} {digits : List Char}

theorem AllDigits.not_mem {text : List Char} (digits : AllDigits text)
    (other : c.isDigit = false) : c ∉ text := by
  intro member
  rw [digits c member] at other
  cases other

/-! ### Padding and leading zeros -/

theorem valueOf_leftpad (width : ℕ) (digits : List Char) :
    valueOf (digits.leftpad width '0') = valueOf digits := by
  rw [List.leftpad, valueOf_append]
  simp [valueOf]

theorem AllDigits.leftpad (all : AllDigits digits)
    (width : ℕ) : AllDigits (digits.leftpad width '0') := by
  apply AllDigits.append _ all
  intro c member
  rw [List.eq_of_mem_replicate member]
  rfl

/-- Padded to a width that has room for the number, the text has that
width. -/
theorem length_leftpad_toDigits {n width : ℕ} (positive : 0 < width) (fits : n < 10 ^ width) :
    ((Nat.toDigits 10 n).leftpad width '0').length = width := by
  simp_all [Nat.length_toDigits_le_iff]

/-- Leading zeros go as long as a digit follows: what replacing
`/^0+(?=\d)/` by nothing does. -/
def stripZeros : List Char → List Char
  | '0' :: next :: rest =>
    if next.isDigit then stripZeros (next :: rest) else '0' :: next :: rest
  | text => text

theorem valueOf_stripZeros (text : List Char) :
    valueOf (stripZeros text) = valueOf text := by
  fun_induction stripZeros text with
  | case1 next rest digit ih => rw [ih, valueOf_zero_cons]
  | case2 next rest other => rfl
  | case3 text shape => rfl

theorem AllDigits.stripZeros {text : List Char} (digits : AllDigits text) :
    AllDigits (stripZeros text) := by
  fun_induction Numerals.stripZeros text with
  | case1 next rest digit ih => exact ih fun c member => digits c (List.mem_cons_of_mem _ member)
  | case2 next rest other => exact digits
  | case3 text shape => exact digits

theorem stripZeros_ne_nil {text : List Char} (nonempty : text ≠ []) :
    stripZeros text ≠ [] := by
  fun_induction stripZeros text with
  | case1 next rest digit ih => exact ih (List.cons_ne_nil _ _)
  | case2 next rest other => exact List.cons_ne_nil _ _
  | case3 text shape => exact nonempty

/-! ### The integer a text stands for -/

/-- White space and line ends, as the language defines them. -/
def isBlank (c : Char) : Bool :=
  c.toNat ∈ [0x09, 0x0A, 0x0B, 0x0C, 0x0D, 0x20, 0xA0, 0x1680, 0x2000, 0x2001,
    0x2002, 0x2003, 0x2004, 0x2005, 0x2006, 0x2007, 0x2008, 0x2009, 0x200A,
    0x2028, 0x2029, 0x202F, 0x205F, 0x3000, 0xFEFF]

/-- `trim`. -/
def trimmed (text : List Char) : List Char :=
  ((text.dropWhile isBlank).reverse.dropWhile isBlank).reverse

/-- The value of a digit of a base up to sixteen. -/
def digit? (base : ℕ) (c : Char) : Option ℕ :=
  let digit : Option ℕ :=
    if c.isDigit then some (c.toNat - '0'.toNat)
    else if 'a' ≤ c ∧ c ≤ 'f' then some (c.toNat - 'a'.toNat + 10)
    else if 'A' ≤ c ∧ c ≤ 'F' then some (c.toNat - 'A'.toNat + 10)
    else none
  digit.filter (· < base)

/-- A text that consists of digits of the base, one at least. -/
def natural? (base : ℕ) (text : List Char) : Option ℕ :=
  if text = [] then none
  else text.foldlM (fun value c => (digit? base c).map (base * value + ·)) 0

/-- `BigInt(text)`, or `none` where it throws a `SyntaxError`. -/
def bigInt? (text : List Char) : Option ℤ :=
  match trimmed text with
  | [] => some 0
  | '0' :: 'x' :: rest | '0' :: 'X' :: rest => (natural? 16 rest).map (↑)
  | '0' :: 'o' :: rest | '0' :: 'O' :: rest => (natural? 8 rest).map (↑)
  | '0' :: 'b' :: rest | '0' :: 'B' :: rest => (natural? 2 rest).map (↑)
  | '-' :: rest => (natural? 10 rest).map fun value => -(value : ℤ)
  | '+' :: rest => (natural? 10 rest).map (↑)
  | text => (natural? 10 text).map (↑)

/-- `parseInt` of a text, to base ten; no number stands for `NaN`. -/
def parseInt? (text : List Char) : Option ℤ :=
  let leading (rest : List Char) : Option ℕ :=
    match rest.takeWhile Char.isDigit with
    | [] => none
    | digits => some (valueOf digits)
  match text.dropWhile isBlank with
  | '-' :: rest => (leading rest).map fun value => -(value : ℤ)
  | '+' :: rest => (leading rest).map (↑)
  | rest => (leading rest).map (↑)

/-- The number that the digits of a base at the beginning of a text make. -/
def leading? (base : ℕ) (text : List Char) : Option ℕ :=
  natural? base (text.takeWhile fun c => (digit? base c).isSome)

/-- `parseInt` of a text without a base: sixteen behind `0x`, else ten. -/
def parseIntOf? (text : List Char) : Option ℤ :=
  let unsigned (rest : List Char) : Option ℕ :=
    match rest with
    | '0' :: 'x' :: rest | '0' :: 'X' :: rest => leading? 16 rest
    | rest => leading? 10 rest
  match text.dropWhile isBlank with
  | '-' :: rest => (unsigned rest).map fun value => -(value : ℤ)
  | '+' :: rest => (unsigned rest).map (↑)
  | rest => (unsigned rest).map (↑)

theorem code_of_isDigit (digit : c.isDigit = true) :
    48 ≤ c.toNat ∧ c.toNat ≤ 57 := by simp_all [Char.isDigit, UInt32.le_iff_toNat_le]

theorem isBlank_of_isDigit (digit : c.isDigit = true) :
    isBlank c = false := by
  have bounds := code_of_isDigit digit
  simp only [isBlank, List.mem_cons, List.not_mem_nil, or_false, decide_eq_false_iff_not]
  omega

/-- No character is white space. -/
def Visible (text : List Char) : Prop := ∀ c ∈ text, isBlank c = false

theorem AllDigits.visible {text : List Char} (digits : AllDigits text) :
    Visible text :=
  fun c member => isBlank_of_isDigit (digits c member)

theorem dropWhile_isBlank {text : List Char} (visible : Visible text) :
    text.dropWhile isBlank = text := by
  cases text with
  | nil => rfl
  | cons head tail => simp [visible head List.mem_cons_self]

theorem trimmed_visible {text : List Char} (visible : Visible text) :
    trimmed text = text := by grind [Visible, trimmed, dropWhile_isBlank]

theorem digit?_ten (digit : c.isDigit = true) :
    digit? 10 c = some (c.toNat - '0'.toNat) := by
  have bounds := code_of_isDigit digit
  have small : c.toNat - '0'.toNat < 10 := by
    show c.toNat - 48 < 10
    omega
  simp only [digit?, digit, if_true, Option.filter_some, decide_eq_true small]

theorem foldlM_digits {text : List Char} (digits : AllDigits text) (start : ℕ) :
    text.foldlM (fun value c => (digit? 10 c).map (10 * value + ·)) start =
      some (Nat.ofDigitChars 10 text start) := by
  induction text generalizing start <;> simp_all [digit?_ten, AllDigits, Nat.ofDigitChars_cons]

theorem natural?_digits {text : List Char} (digits : AllDigits text)
    (nonempty : text ≠ []) : natural? 10 text = some (valueOf text) := by
  rw [natural?, if_neg nonempty, foldlM_digits digits]
  rfl

/-- `BigInt` reads digits as the number they stand for. -/
theorem bigInt?_digits {text : List Char} (digits : AllDigits text)
    (nonempty : text ≠ []) : bigInt? text = some (valueOf text : ℤ) := by
  rw [bigInt?, trimmed_visible digits.visible]
  -- a prefix or a sign is no digit
  split
  · exact absurd rfl nonempty
  · exact absurd (digits 'x' (by simp)) (by decide)
  · exact absurd (digits 'X' (by simp)) (by decide)
  · exact absurd (digits 'o' (by simp)) (by decide)
  · exact absurd (digits 'O' (by simp)) (by decide)
  · exact absurd (digits 'b' (by simp)) (by decide)
  · exact absurd (digits 'B' (by simp)) (by decide)
  · exact absurd (digits '-' (by simp)) (by decide)
  · exact absurd (digits '+' (by simp)) (by decide)
  · rw [natural?_digits digits nonempty]
    rfl

theorem natural?_none {base : ℕ} {text : List Char}
    (member : c ∈ text) (other : digit? base c = none) :
    natural? base text = none := by
  have stuck : ∀ start : ℕ, text.foldlM (fun value c => (digit? base c).map (base * value + ·))
        start = none := by
    induction text with
    | nil => cases member
    | cons head tail ih =>
      intro start
      rw [List.foldlM_cons]
      rcases List.mem_cons.mp member with here | later <;> simp_all
  rw [natural?, if_neg (List.ne_nil_of_mem member)]
  exact stuck 0

/-- The zeros before an exponent go as they do elsewhere. -/
theorem stripZeros_exponent (all : AllDigits digits) (rest : List Char) :
    ∃ left, AllDigits left ∧ stripZeros (digits ++ 'e' :: rest) = left ++ 'e' :: rest := by
  induction digits with
  | nil => exact ⟨[], all, by cases rest <;> rfl⟩
  | cons head tail ih =>
    have others : AllDigits tail :=
      fun c member => all c (List.mem_cons_of_mem _ member)
    by_cases zero : head = '0'
    · cases tail with
      | nil => exact ⟨[head], all, by rw [zero]; rfl⟩
      | cons next tail =>
        obtain ⟨left, digits, stripped⟩ := ih others
        refine ⟨left, digits, ?_⟩
        rw [← stripped, zero]
        simp only [List.cons_append, stripZeros, others next List.mem_cons_self, if_true]
    · refine ⟨head :: tail, all, ?_⟩
      rw [List.cons_append, stripZeros]
      rintro next rest shape
      exact zero (List.cons.inj shape).1

theorem bigInt?_exponent {exponent : List Char} {sign : Char}
    (all : AllDigits digits) (behind : AllDigits exponent) (signed : sign = '+' ∨ sign = '-') :
    bigInt? (digits ++ 'e' :: sign :: exponent) = none := by
  have chars : ∀ c ∈ digits ++ 'e' :: sign :: exponent,
      c.isDigit = true ∨ c = 'e' ∨ c = '+' ∨ c = '-' := by
    intro c member
    simp only [List.mem_append, List.mem_cons] at member
    rcases member with front | letter | sort | back
    · exact .inl (all c front)
    · exact .inr (.inl letter)
    · exact .inr (.inr (sort ▸ signed))
    · exact .inl (behind c back)
  have letter : 'e' ∈ digits ++ 'e' :: sign :: exponent := by simp
  have visible : Visible (digits ++ 'e' :: sign :: exponent) := by
    intro c member
    rcases chars c member with digit | other | other | other
    · exact isBlank_of_isDigit digit
    all_goals subst other; decide
  rw [bigInt?, trimmed_visible visible]
  generalize digits ++ 'e' :: sign :: exponent = text at chars letter
  -- no prefix of a base occurs, and behind a sign the letter is left
  split
  · cases letter
  · exact absurd (chars 'x' (by simp)) (by decide)
  · exact absurd (chars 'X' (by simp)) (by decide)
  · exact absurd (chars 'o' (by simp)) (by decide)
  · exact absurd (chars 'O' (by simp)) (by decide)
  · exact absurd (chars 'b' (by simp)) (by decide)
  · exact absurd (chars 'B' (by simp)) (by decide)
  case h_8 rest =>
      have left : 'e' ∈ rest := by simpa using letter
      rw [natural?_none left (by decide)]
      rfl
  case h_9 rest =>
      have left : 'e' ∈ rest := by simpa using letter
      rw [natural?_none left (by decide)]
      rfl
  · rw [natural?_none letter (by decide)]
    rfl

theorem leading?_digits {text : List Char} (digits : AllDigits text)
    (nonempty : text ≠ []) : leading? 10 text = some (valueOf text) := by
  have all : text.takeWhile (fun c => (digit? 10 c).isSome) = text :=
    List.takeWhile_eq_self_iff.mpr fun c member => by
      rw [digit?_ten (digits c member)]
      rfl
  rw [leading?, all, natural?_digits digits nonempty]

/-- `parseInt` reads digits as the number they stand for. -/
theorem parseIntOf?_digits {text : List Char} (digits : AllDigits text)
    (nonempty : text ≠ []) : parseIntOf? text = some (valueOf text : ℤ) := by
  simp only [parseIntOf?, dropWhile_isBlank digits.visible]
  -- a sign is no digit, and neither is the `x` of a prefix
  split
  · exact absurd (digits '-' (by simp)) (by decide)
  · exact absurd (digits '+' (by simp)) (by decide)
  · split
    · exact absurd (digits 'x' (by simp)) (by decide)
    · exact absurd (digits 'X' (by simp)) (by decide)
    · rw [leading?_digits digits nonempty]
      rfl

theorem parseIntOf?_repr (n : ℕ) : parseIntOf? n.repr.toList = some (n : ℤ) := by
  simp [parseIntOf?_digits, allDigits_toDigits]

/-! ### Decimal literals -/

/-- An optional `-`, digits, and an optional point with digits after it.
Either list of digits may be empty. -/
structure DecimalLiteral where
  negative : Bool
  integer : List Char
  fraction : Option (List Char)
  integer_digits : AllDigits integer
  fraction_digits : AllDigits (fraction.getD [])

namespace DecimalLiteral

variable (literal : DecimalLiteral)

/-- The digits after the point. -/
def decimals : List Char := literal.fraction.getD []

/-- The literal without its sign. -/
def unsigned : List Char := literal.integer ++ (literal.fraction.map ('.' :: ·)).getD []

/-- How the literal is written. -/
def text : String := String.ofList ((if literal.negative then ['-'] else []) ++ literal.unsigned)

/-- Only digits and the point are written after the sign. -/
theorem not_mem_unsigned {c : Char} (other : c.isDigit = false)
    (noPoint : c ≠ '.') : c ∉ literal.unsigned := by
  have inInteger := literal.integer_digits.not_mem other
  have inFraction := literal.fraction_digits.not_mem other
  intro member
  rcases List.mem_append.mp member with found | found
  · exact inInteger found
  · cases shape : literal.fraction <;> simp_all

theorem not_mem_text {c : Char} (other : c.isDigit = false)
    (noPoint : c ≠ '.') (noSign : c ≠ '-') : c ∉ literal.text.toList := by
  have notBehind := literal.not_mem_unsigned other noPoint
  simp_all [text]

/-- The number the literal denotes. -/
def value : ℚ :=
  (if literal.negative then -1 else 1) * (valueOf literal.integer +
      valueOf literal.decimals / 10 ^ literal.decimals.length)

/-- All digits together count the units of the last decimal place. -/
theorem value_eq :
    literal.value * 10 ^ literal.decimals.length = (if literal.negative then -1 else 1) *
        (valueOf (literal.integer ++ literal.decimals) : ℚ) := by
  rw [value, valueOf_append]
  push_cast
  field_simp

end DecimalLiteral

end Numerals
