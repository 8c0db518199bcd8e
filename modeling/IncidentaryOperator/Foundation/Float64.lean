import Mathlib

/-!
# Doubles as rational numbers

The result of an operation on doubles is the exact result, rounded to 53 significant bits, ties to
even: `roundDouble`. Subnormal numbers and overflow to infinity are left out, so it is the rounding
of values of ordinary size. `toInt64` is the conversion to a 64-bit integer, which cuts off the
fraction; for a value out of range it gives what the processor makes of it.

The bounds come from one fact: a multiple of a power of two that is not too small for the value is a
multiple of its last place (`exists_ulp_mul`). Such a multiple is rounded to itself
(`roundDouble_of_multiple`), and a value below it is rounded to at most it
(`roundDouble_le_multiple`).
-/

set_option autoImplicit false
set_option relaxedAutoImplicit false

namespace IncidentaryOperator.Foundation

/-- The nearest integer, the even one of two. -/
def roundHalfEven (x : ℚ) : ℤ :=
  if x - ⌊x⌋ < 1 / 2 then ⌊x⌋
  else if 1 / 2 < x - ⌊x⌋ then ⌊x⌋ + 1
  else if ⌊x⌋ % 2 = 0 then ⌊x⌋ else ⌊x⌋ + 1

/-- The value of the last of 53 significant bits. -/
def ulp (x : ℚ) : ℚ :=
  2 ^ (Int.log 2 |x| - 52)

/-- The nearest double. -/
def roundDouble (x : ℚ) : ℚ :=
  if x = 0 then 0 else roundHalfEven (x / ulp x) * ulp x

/-- The integer part, towards zero. -/
def truncate (x : ℚ) : ℤ :=
  if 0 ≤ x then ⌊x⌋ else ⌈x⌉

/-- The conversion to `int64`, with what a value out of range is converted to. -/
def toInt64 (x : ℚ) (outOfRange : ℤ) : ℤ :=
  if -2 ^ 63 ≤ truncate x ∧ truncate x < 2 ^ 63 then truncate x else outOfRange

theorem roundHalfEven_intCast (n : ℤ) : roundHalfEven n = n := by
  unfold roundHalfEven
  rw [Int.floor_intCast, sub_self, if_pos (by norm_num)]

theorem roundHalfEven_nonneg {x : ℚ} (hx : 0 ≤ x) : 0 ≤ roundHalfEven x := by
  have hfloor : 0 ≤ ⌊x⌋ := Int.floor_nonneg.mpr hx
  unfold roundHalfEven
  split_ifs <;> omega

theorem roundHalfEven_le {x : ℚ} {n : ℤ} (hx : x ≤ n) : roundHalfEven x ≤ n := by
  have hfloor : ⌊x⌋ ≤ n := Int.floor_le_iff.mpr (by linarith)
  rcases hfloor.lt_or_eq with hlt | heq
  · unfold roundHalfEven
    split_ifs <;> omega
  · have hvalue : x = n := le_antisymm hx (heq ▸ Int.floor_le x)
    rw [hvalue, roundHalfEven_intCast]

theorem ulp_pos (x : ℚ) : 0 < ulp x :=
  zpow_pos (by norm_num) _

theorem roundDouble_nonneg {x : ℚ} (hx : 0 ≤ x) : 0 ≤ roundDouble x := by
  unfold roundDouble
  split_ifs
  · exact le_rfl
  · have hquotient : 0 ≤ x / ulp x := div_nonneg hx (ulp_pos x).le
    exact mul_nonneg (by exact_mod_cast roundHalfEven_nonneg hquotient) (ulp_pos x).le

/-- A power of two within 53 bits of a value is a multiple of its last place. -/
theorem exists_ulp_mul {x : ℚ} {k : ℤ} (hx : x ≠ 0) (hsize : |x| < 2 ^ (k + 53)) :
    ∃ n : ℕ, (2 : ℚ) ^ k = n * ulp x := by
  have hlog : Int.log 2 |x| < k + 53 := by
    have hle : (2 : ℚ) ^ Int.log 2 |x| ≤ |x| := by
      exact_mod_cast Int.zpow_log_le_self (by norm_num) (abs_pos.mpr hx)
    exact (zpow_lt_zpow_iff_right₀ (by norm_num : (1 : ℚ) < 2)).mp (hle.trans_lt hsize)
  refine ⟨2 ^ (k - (Int.log 2 |x| - 52)).toNat, ?_⟩
  unfold ulp
  push_cast
  rw [← zpow_natCast, Int.toNat_of_nonneg (by omega), ← zpow_add₀ (by norm_num)]
  congr 1
  ring

theorem roundDouble_le_multiple {x : ℚ} {m k : ℤ} (hx : x ≠ 0) (hsize : |x| < 2 ^ (k + 53))
    (hle : x ≤ m * 2 ^ k) : roundDouble x ≤ m * 2 ^ k := by
  obtain ⟨n, hn⟩ := exists_ulp_mul hx hsize
  have hpos := ulp_pos x
  rw [hn, ← mul_assoc] at hle ⊢
  have hquotient : x / ulp x ≤ ((m * n : ℤ) : ℚ) := by
    rw [div_le_iff₀ hpos]
    exact_mod_cast hle
  have hround : (roundHalfEven (x / ulp x) : ℚ) ≤ m * n := by
    exact_mod_cast roundHalfEven_le hquotient
  rw [roundDouble, if_neg hx]
  exact mul_le_mul_of_nonneg_right hround hpos.le

theorem roundDouble_of_multiple {x : ℚ} {m k : ℤ} (hx : x ≠ 0) (hsize : |x| < 2 ^ (k + 53))
    (heq : x = m * 2 ^ k) : roundDouble x = x := by
  obtain ⟨n, hn⟩ := exists_ulp_mul hx hsize
  have hpos := ulp_pos x
  have hquotient : x / ulp x = ((m * n : ℤ) : ℚ) := by
    rw [div_eq_iff hpos.ne']
    refine heq.trans ?_
    rw [hn]
    push_cast
    ring
  rw [roundDouble, if_neg hx, hquotient, roundHalfEven_intCast, ← hquotient,
    div_mul_cancel₀ _ hpos.ne']

/-- The conversion of a natural number, which gives a natural number. -/
def natToDouble (n : ℕ) : ℕ :=
  ⌊roundDouble n⌋.toNat

theorem natToDouble_of_le {n : ℕ} (hn : n ≤ 2 ^ 53) : natToDouble n = n := by
  have hround : roundDouble n = n := by
    rcases Nat.eq_zero_or_pos n with rfl | hpos
    · simp [roundDouble]
    · have hcast : (n : ℚ) ≠ 0 := by exact_mod_cast hpos.ne'
      have habs : |(n : ℚ)| = n := abs_of_nonneg (Nat.cast_nonneg n)
      rcases hn.lt_or_eq with hlt | rfl
      · refine roundDouble_of_multiple (m := n) (k := 0) hcast ?_ (by simp)
        rw [habs]
        exact_mod_cast hlt
      · refine roundDouble_of_multiple (m := 1) (k := 53) hcast ?_ (by norm_num)
        rw [habs]
        norm_num
  rw [natToDouble, hround, Int.floor_natCast, Int.toNat_natCast]

theorem natToDouble_zero : natToDouble 0 = 0 :=
  natToDouble_of_le (Nat.zero_le _)

theorem toInt64_of_lt {x : ℚ} (hx : 0 ≤ x) (hlt : x < 2 ^ 63) (outOfRange : ℤ) :
    toInt64 x outOfRange = ⌊x⌋ := by
  have htruncate : truncate x = ⌊x⌋ := if_pos hx
  have hfloor : 0 ≤ ⌊x⌋ := Int.floor_nonneg.mpr hx
  have hbound : ⌊x⌋ < 2 ^ 63 := by
    rw [Int.floor_lt]
    exact_mod_cast hlt
  rw [toInt64, htruncate, if_pos ⟨by omega, hbound⟩]

end IncidentaryOperator.Foundation
