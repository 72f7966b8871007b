/-
Module: MarketX.Numerals.Digest
Purpose: Digests of 256 bits as texts, in hexadecimal and in base 64, and the
  string functions of the language that are applied to such texts; what
  decoding makes of a text; and bytes under a keystream.
Trusted boundary: the texts follow the definitions of the two encodings, and
  the string functions that of the language
Main exports: Digest, hex, base64, wrapped
-/
import MarketX.Numerals.Decimal
import Mathlib.Data.Nat.Bitwise

namespace Numerals

/-! ### Encodings -/

abbrev Digest := BitVec 256

/-- So many digits of a number, the highest first. -/
def digitsOf (base count value : ℕ) : List ℕ :=
  (List.range count).reverse.map fun position => value / base ^ position % base

/-- `digest('hex')`. -/
def hex (digest : Digest) : List Char :=
  (digitsOf 16 64 digest.toNat).map Nat.digitChar

def base64Char (digit : ℕ) : Char :=
  if digit < 26 then Char.ofNat ('A'.toNat + digit)
  else if digit < 52 then Char.ofNat ('a'.toNat + (digit - 26))
  else if digit < 62 then Char.ofNat ('0'.toNat + (digit - 52))
  else if digit = 62 then '+'
  else '/'

/-- `digest('base64')`: the last digit has two bits to spare, and a pad
follows. -/
def base64 (digest : Digest) : List Char :=
  (digitsOf 64 43 (digest.toNat * 4)).map base64Char ++ ['=']

variable {base count digit : ℕ} {text a b : List Char} {c : Char} {digits others bytes : List ℕ}

theorem digitsOf_lt {value : ℕ} (positive : 0 < base)
    (member : digit ∈ digitsOf base count value) : digit < base := by
  obtain ⟨position, -, rfl⟩ := List.mem_map.mp member
  exact Nat.mod_lt _ positive

theorem digitChar_ne (digit : ℕ) :
    Nat.digitChar digit ≠ '=' ∧ Nat.digitChar digit ≠ '\n' := by simp

/-! ### Lines -/

/-- The characters that `.` does not match. -/
def isLineTerminator (c : Char) : Bool := c.toNat ∈ [0x0A, 0x0D, 0x2028, 0x2029]

/-- `replace(/(.{width})/g, '$1\n')`, when so many characters of the next
match have been seen. -/
def wrappedFrom (width : ℕ) : ℕ → List Char → List Char
  | _, [] => []
  | seen, c :: rest =>
    if isLineTerminator c then c :: wrappedFrom width 0 rest
    else if seen + 1 = width then c :: '\n' :: wrappedFrom width 0 rest
    else c :: wrappedFrom width (seen + 1) rest

def wrapped (width : ℕ) (text : List Char) : List Char := wrappedFrom width 0 text

theorem mem_wrappedFrom {width seen : ℕ}
    (member : c ∈ wrappedFrom width seen text) : c ∈ text ∨ c = '\n' := by
  induction text generalizing seen <;> grind [wrappedFrom]

theorem mem_of_mem_trimmed (member : c ∈ trimmed text) : c ∈ text := by
  have dropped := (List.dropWhile_sublist isBlank).subset (List.mem_reverse.mp member)
  exact (List.dropWhile_sublist isBlank).subset (List.mem_reverse.mp dropped)

/-- However the hexadecimal text is broken into lines, it has no equality
sign. -/
theorem not_mem_wrapped_hex (width : ℕ) (digest : Digest) :
    '=' ∉ trimmed (wrapped width (hex digest)) := by
  intro member
  rcases mem_wrappedFrom (mem_of_mem_trimmed member) with inside | newline
  · obtain ⟨digit, isDigit, same⟩ := List.mem_map.mp inside
    exact (digitChar_ne digit).1 same
  · exact absurd newline (by decide)

/-! ### Elements -/

theorem mem_of_splitOn {element : List Char} {separator : Char}
    (element_of : element ∈ text.splitOn separator) (inside : c ∈ element) :
    c ∈ text := by
  induction text generalizing element with
  | nil => simp_all
  | cons head rest ih =>
    have later : ∀ element ∈ rest.splitOn separator, c ∈ element →
        c ∈ head :: rest := fun element member inside => List.mem_cons_of_mem _ (ih member inside)
    rw [List.splitOn_cons_eq_if_modifyHead] at element_of
    split_ifs at element_of with separates
    · grind
    · cases elements : rest.splitOn separator with
      | nil => exact absurd elements (List.splitOn_ne_nil _ _)
      | cons first others =>
        rw [elements] at element_of later
        rcases List.mem_cons.mp element_of with rfl | behind <;> grind

/-! ### Comparison -/

/-- The loop over the character codes. -/
def difference (a b : List Char) : ℕ :=
  (a.zip b).foldl (fun result pair => result ||| (pair.1.toNat ^^^ pair.2.toNat)) 0

def secureCompare (a b : List Char) : Bool :=
  if a.length ≠ b.length then false else difference a b = 0

theorem difference_eq_zero {result : ℕ} (long : a.length = b.length) :
    (a.zip b).foldl (fun result pair => result ||| (pair.1.toNat ^^^ pair.2.toNat))
        result = 0 ↔ result = 0 ∧ a = b := by
  induction a generalizing b result with
  | nil => grind
  | cons head rest ih =>
    cases b with
    | nil => cases long
    | cons other others =>
      have same : head.toNat = other.toNat ↔ head = other :=
        ⟨Char.toNat_inj.mp, congrArg Char.toNat⟩
      rw [List.zip_cons_cons, List.foldl_cons, ih (Nat.succ.inj long), Nat.or_eq_zero_iff,
        Nat.xor_eq_zero_iff, same, List.cons.injEq, and_assoc]

theorem secureCompare_iff :
    secureCompare a b = true ↔ a = b := by simp_all [secureCompare, difference, difference_eq_zero]

/-! ### Decoding -/

/-- The value of a hexadecimal digit, of either case. -/
def hexDigit? (c : Char) : Option ℕ :=
  if '0' ≤ c ∧ c ≤ '9' then some (c.toNat - '0'.toNat)
  else if 'a' ≤ c ∧ c ≤ 'f' then some (c.toNat - 'a'.toNat + 10)
  else if 'A' ≤ c ∧ c ≤ 'F' then some (c.toNat - 'A'.toNat + 10)
  else none

/-- `Buffer.from(text, 'hex')`: it ends at the first pair that is not two
digits. -/
def hexBytes : List Char → List ℕ
  | high :: low :: rest =>
    match hexDigit? high, hexDigit? low with
    | some high, some low => (16 * high + low) :: hexBytes rest
    | _, _ => []
  | _ => []

/-- `crypto.timingSafeEqual`, which throws (`none`) on different lengths. -/
def timingSafeEqual (a b : List ℕ) : Option Bool :=
  if a.length = b.length then some (a = b) else none

theorem hexDigit?_digitChar (small : digit < 16) :
    hexDigit? (Nat.digitChar digit) = some digit := by
  have all : ∀ digit < 16, hexDigit? (Nat.digitChar digit) = some digit := by decide
  exact all digit small

/-- The bytes that digits stand for two by two. -/
def paired : List ℕ → List ℕ
  | high :: low :: rest => (16 * high + low) :: paired rest
  | _ => []

theorem hexBytes_digitChar (small : ∀ digit ∈ digits, digit < 16) :
    hexBytes (digits.map Nat.digitChar) = paired digits := by
  induction digits using paired.induct with
  | case1 high low rest ih => simp_all [hexBytes, hexDigit?_digitChar, paired]
  | case2 digits short =>
    match digits, short with
    | [], _ | [_], _ => rfl
    | high :: low :: rest, short => exact absurd rfl (short high low rest)

theorem length_paired (digits : List ℕ) :
    (paired digits).length = digits.length / 2 := by
  induction digits using paired.induct with
  | case1 high low rest ih => grind [paired]
  | case2 digits short =>
    match digits, short with
    | [], _ | [_], _ => simp [paired]
    | high :: low :: rest, short => exact absurd rfl (short high low rest)

theorem paired_injective (small : ∀ digit ∈ digits, digit < 16)
    (smallToo : ∀ digit ∈ others, digit < 16)
    (long : digits.length = 2 * count) (longToo : others.length = 2 * count)
    (same : paired digits = paired others) : digits = others := by
  induction count generalizing digits others with
  | zero => rw [List.length_eq_zero_iff.mp long, List.length_eq_zero_iff.mp longToo]
  | succ count ih =>
    match digits, others, long, longToo with
    | high :: low :: rest, high' :: low' :: rest', long, longToo =>
      simp only [List.forall_mem_cons] at small smallToo
      simp only [List.length_cons] at long longToo
      rw [paired, paired, List.cons.injEq] at same
      have highs : high = high' := by omega
      have lows : low = low' := by omega
      rw [highs, lows, ih small.2.2 smallToo.2.2 (by omega) (by omega) same.2]

/-- `buffer.toString('hex')`. -/
def hexText (bytes : List ℕ) : List Char := bytes.flatMap fun byte =>
    [Nat.digitChar (byte / 16), Nat.digitChar (byte % 16)]

theorem digitsOf_succ (base count value : ℕ) :
    digitsOf base (count + 1) value = value / base ^ count % base :: digitsOf base count value := by
  rw [digitsOf, List.range_succ, List.reverse_append]
  rfl

/-- The digits of two numbers are the same only if the numbers are, as far as
the digits go. -/
theorem mod_eq_of_digitsOf {a b : ℕ} (same : digitsOf base count a = digitsOf base count b) :
    a % base ^ count = b % base ^ count := by
  induction count <;> simp_all [Nat.mod_one, digitsOf_succ, Nat.mod_pow_succ]

theorem hexBytes_hex (digest : Digest) :
    hexBytes (hex digest) = paired (digitsOf 16 64 digest.toNat) :=
  hexBytes_digitChar fun _ => digitsOf_lt (by decide)

@[simp] theorem length_hexBytes_hex (digest : Digest) :
    (hexBytes (hex digest)).length = 32 := by simp [hexBytes_hex, length_paired, digitsOf]

theorem hexBytes_hex_inj {a b : Digest} :
    hexBytes (hex a) = hexBytes (hex b) ↔ a = b := by
  refine ⟨fun same => ?_, fun same => by rw [same]⟩
  rw [hexBytes_hex, hexBytes_hex] at same
  have long : ∀ value, (digitsOf 16 64 value).length = 2 * 32 := by simp [digitsOf]
  have digits := paired_injective (fun _ => digitsOf_lt (by decide))
    (fun _ => digitsOf_lt (by decide)) (long _) (long _) same
  have below : ∀ digest : Digest, digest.toNat < 16 ^ 64 := fun digest =>
    digest.isLt.trans_le (by decide)
  have values := mod_eq_of_digitsOf digits
  grind [BitVec.eq_of_toNat_eq]

/-! ### Keystreams -/

/-- The bytes of a text. -/
def utf8 (text : String) : List ℕ := text.toUTF8.data.toList.map UInt8.toNat

/-- Bytes by bytes, as far as both go. -/
def xorBytes (bytes others : List ℕ) : List ℕ := List.zipWith (· ^^^ ·) bytes others

/-- Each byte with the byte of the stream at its place. -/
def masked (stream : ℕ → UInt8) (bytes : List ℕ) : List ℕ :=
  bytes.mapIdx fun place byte => byte ^^^ (stream place).toNat

end Numerals
