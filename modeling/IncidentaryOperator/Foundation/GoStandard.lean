import Mathlib

/-!
# The parts of the Go standard library the operator leans on

Instants, string maps and the text functions of `strings` and `fmt`, as documented. Nothing here
names the operator.

An instant is its exact distance from the Unix epoch in nanoseconds. `Time.unixNano` is what Go
computes from it in 64-bit arithmetic: outside the years 1678 to 2262 it wraps, and the zero time,
the first of January of year one, wraps to a negative number. A duration is a number of nanoseconds
in a signed 64-bit integer. `wrapped` is what such a variable holds of an exact integer.

A string is a Lean string: every string the operator reads comes out of a JSON or protobuf decoder
and is valid UTF-8. Its bytes are `String.toByteArray`, and only a cut at a byte offset can leave
the valid strings, so cut text is a byte array.
-/

set_option autoImplicit false
set_option relaxedAutoImplicit false

namespace IncidentaryOperator.Foundation

/-! ### Instants -/

/-- An instant of `time.Time`, by its exact distance from the Unix epoch in nanoseconds. -/
structure Time where
  nanos : ℤ
  deriving DecidableEq

namespace Time

/-- The zero `time.Time`: the first of January of year one, 62135596800 seconds before the epoch. -/
def zero : Time :=
  ⟨-62135596800 * 1000000000⟩

/-- `Time.IsZero`. -/
def isZero (instant : Time) : Bool :=
  instant = zero

/-- `Time.UnixNano`: nanoseconds since the epoch in a signed 64-bit integer, wrapping. -/
def unixNano (instant : Time) : ℤ :=
  instant.nanos.bmod (2 ^ 64)

example : zero.unixNano = -6795364578871345152 := by
  decide

/-- `Time.Sub`: the time from another instant to this one, saturated at the ends of a duration. -/
def sub (instant other : Time) : ℤ :=
  max (-2 ^ 63) (min (2 ^ 63 - 1) (instant.nanos - other.nanos))

/-- Saturation does not show in a comparison with a duration. -/
theorem sub_lt_iff (instant other : Time) {bound : ℤ} (hlow : -2 ^ 63 < bound)
    (hhigh : bound < 2 ^ 63) :
    instant.sub other < bound ↔ instant.nanos - other.nanos < bound := by
  unfold sub
  omega

end Time

/-! ### Fixed-width integers -/

/-- What a signed integer variable of some width holds of an exact integer: arithmetic wraps. -/
def wrapped (bits : ℕ) (n : ℤ) : ℤ :=
  n.bmod (2 ^ bits)

theorem wrapped_of_fits {bits : ℕ} {n : ℤ} (hlow : -2 ^ bits ≤ 2 * n) (hhigh : 2 * n < 2 ^ bits) :
    wrapped bits n = n :=
  Int.bmod_eq_of_le_mul_two (by push_cast; omega) (by push_cast; omega)

/-- Wrapping on the way does not show in the end. -/
theorem wrapped_add_left (bits : ℕ) (m n : ℤ) :
    wrapped bits (wrapped bits m + n) = wrapped bits (m + n) :=
  Int.bmod_add_bmod

theorem wrapped_eq_wrapped_iff {bits : ℕ} {m n : ℤ} :
    wrapped bits m = wrapped bits n ↔ (2 ^ bits : ℤ) ∣ m - n := by
  unfold wrapped
  rw [Int.bmod_eq_bmod_iff_bmod_sub_eq_zero, ← Int.dvd_iff_bmod_eq_zero]
  push_cast
  rfl

theorem dvd_wrapped_sub (bits : ℕ) (n : ℤ) : (2 ^ bits : ℤ) ∣ wrapped bits n - n :=
  wrapped_eq_wrapped_iff.mp Int.bmod_bmod

theorem wrapped_eq_iff {bits : ℕ} {m n : ℤ} (hlow : -2 ^ bits ≤ 2 * n) (hhigh : 2 * n < 2 ^ bits) :
    wrapped bits m = n ↔ (2 ^ bits : ℤ) ∣ m - n := by
  rw [← wrapped_eq_wrapped_iff, wrapped_of_fits hlow hhigh]

/-- A variable holds what fits its width. -/
theorem wrapped_fits {bits : ℕ} (hbits : 0 < bits) (n : ℤ) :
    -2 ^ bits ≤ 2 * wrapped bits n ∧ 2 * wrapped bits n < 2 ^ bits := by
  have hlow : -((2 ^ bits : ℕ) / 2 : ℤ) ≤ wrapped bits n := Int.le_bmod (by positivity)
  have hhigh : wrapped bits n < ((2 ^ bits : ℕ) + 1 : ℤ) / 2 := Int.bmod_lt (by positivity)
  push_cast at hlow hhigh
  obtain ⟨half, hhalf⟩ : (2 : ℤ) ∣ 2 ^ bits := dvd_pow_self 2 hbits.ne'
  omega

/-- The sign of what a 64-bit variable holds is the parity of the quotient by `2 ^ 63`. -/
theorem wrapped_nonneg_iff (n : ℤ) : 0 ≤ wrapped 64 n ↔ n / 2 ^ 63 % 2 = 0 := by
  obtain ⟨hlow, hhigh⟩ := wrapped_fits (by decide : 0 < 64) n
  obtain ⟨turns, hturns⟩ := dvd_wrapped_sub 64 n
  omega

/-! ### String maps -/

/-- `map[string]string`, with a nil map as the empty one. -/
abbrev StringMap := AList (fun _ : String ↦ String)

/-- The index expression `m[key]`, the empty string when the key is absent. -/
def StringMap.at (map : StringMap) (key : String) : String :=
  (map.lookup key).getD ""

/-! ### Text -/

/-- The lower case of a character for searches with an ASCII needle. The capital letters and the two
other characters whose lower case is ASCII are mapped; the lower case of every other character is
outside ASCII, as the character itself is. -/
def toLowerRune (c : Char) : Char :=
  if c = '\u212a' then 'k' else if c = '\u0130' then 'i' else c.toLower

/-- `strings.Contains(strings.ToLower(text), needle)` for an ASCII needle in lower case. -/
def containsLower (text needle : String) : Bool :=
  decide (needle.toList <:+: text.toList.map toLowerRune)

/-- The simple case folding of a character, exact where the fold is an ASCII letter: the capital
letters, the Kelvin sign and the long s. -/
def foldRune (c : Char) : Char :=
  if c = '\u212a' then 'k' else if c = '\u017f' then 's' else c.toLower

/-- `strings.EqualFold(ascii, text)` with one side plain ASCII, the only way the operator calls
it. -/
def equalFold (ascii text : String) : Bool :=
  ascii.toList.map foldRune = text.toList.map foldRune

/-- A character in a quoted string: quotes, backslashes and control characters are escaped. Every
character outside ASCII counts as printable. -/
def quoteRune (c : Char) : List Char :=
  if c = '"' then ['\\', '"']
  else if c = '\\' then ['\\', '\\']
  else if c.toNat = 7 then ['\\', 'a']
  else if c.toNat = 8 then ['\\', 'b']
  else if c.toNat = 9 then ['\\', 't']
  else if c.toNat = 10 then ['\\', 'n']
  else if c.toNat = 11 then ['\\', 'v']
  else if c.toNat = 12 then ['\\', 'f']
  else if c.toNat = 13 then ['\\', 'r']
  else if c.toNat < 32 ∨ c.toNat = 127 then
    ['\\', 'x', Nat.digitChar (c.toNat / 16), Nat.digitChar (c.toNat % 16)]
  else [c]

/-- The verb `%q` of `fmt.Sprintf` for a string. -/
def quoted (text : String) : String :=
  String.ofList ('"' :: text.toList.flatMap quoteRune ++ ['"'])

example : quoted "api\tkey" = "\"api\\tkey\"" := by
  decide

/-- `unicode.IsSpace`. -/
def isSpaceRune (c : Char) : Bool :=
  let n := c.toNat
  (9 ≤ n && n ≤ 13) || n == 0x20 || n == 0x85 || n == 0xa0 || n == 0x1680 ||
    (0x2000 ≤ n && n ≤ 0x200a) || n == 0x2028 || n == 0x2029 || n == 0x202f || n == 0x205f ||
    n == 0x3000

/-- `strings.TrimSpace`. -/
def trimSpace (text : String) : String :=
  String.ofList ((text.toList.dropWhile isSpaceRune).rdropWhile isSpaceRune)

/-- `strings.Split(text, sep)` for a separator of one character. -/
def splitText (text : String) (sep : Char) : List String :=
  (text.toList.splitOn sep).map String.ofList

/-- The blanks `fmt.Sscanf` skips before a verb. A newline before the operand is an error. -/
def skipBlanks : List Char → Option (List Char)
  | [] => some []
  | c :: rest =>
    if c = '\n' then none else if isSpaceRune c then skipBlanks rest else some (c :: rest)

/-- The value of a list of decimal digits. -/
def decimalValue (digits : List Char) : ℕ :=
  digits.foldl (fun value digit ↦ 10 * value + (digit.toNat - '0'.toNat)) 0

/-- The operand of `%d`: an optional sign and the longest run of decimal digits, as an integer. -/
def signedDecimal (text : List Char) : Option ℤ :=
  let (negative, rest) :=
    match text with
    | '-' :: rest => (true, rest)
    | '+' :: rest => (false, rest)
    | _ => (false, text)
  match rest.takeWhile Char.isDigit with
  | [] => none
  | digits => some (if negative then -(decimalValue digits : ℤ) else decimalValue digits)

/-- `strconv.Atoi`: an optional sign and decimal digits with nothing after them. It fails when the
value does not fit 64 bits. -/
def atoi (text : String) : Option ℤ :=
  let digits :=
    match text.toList with
    | '-' :: rest | '+' :: rest => rest
    | rest => rest
  if digits.all Char.isDigit then
    match signedDecimal text.toList with
    | none => none
    | some value => if -(2 ^ 63) ≤ value ∧ value < 2 ^ 63 then some value else none
  else none

/-- `fmt.Sscanf(text, "%d", &n)` into an `int`: skips leading blanks, reads the operand and ignores
what follows. It fails when there is no digit or the value does not fit 64 bits. -/
def sscanfDecimal (text : String) : Option ℤ :=
  match skipBlanks text.toList with
  | none => none
  | some rest =>
    match signedDecimal rest with
    | none => none
    | some value => if -(2 ^ 63) ≤ value ∧ value < 2 ^ 63 then some value else none

end IncidentaryOperator.Foundation
