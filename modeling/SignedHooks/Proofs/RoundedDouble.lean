/-
# Rounding to a double

A rational number is rounded to a multiple of a power of two that leaves it 53 bits, and
no finer one than the least double (`Binary64.rounded`): to the nearest multiple, and of
two equally near ones to the even one. This is what the nearest double of a quotient is
worth (`Binary64.magnitude_nearest`), and it is off by no more than one part in 2^53
(`Binary64.abs_rounded_sub_le`), unless the number is below the normal doubles.

A product of doubles is the rounded product. So a significand and a power of ten have a
finite double exactly if there is no power above 10^308 and the product of the two rounded
numbers is below half a step above the greatest double (`Binary64.ofParts_eq_none_iff`).

Key definitions: `Binary64.rounded`, `Binary64.magnitude`.
Key theorems: `Binary64.magnitude_nearest`, `Binary64.abs_rounded_sub_le`,
`Binary64.ofParts_eq_none_iff`.
-/
import Mathlib.Algebra.Order.Floor.Semifield
import Mathlib.Data.Int.Log
import Mathlib.Data.Rat.Floor
import SignedHooks.Proofs.FiniteDouble

namespace SignedHooks
namespace Binary64

/-! ### Rounding -/

/-- The integer nearest to a number that is not negative, of two equally near ones the even
one. -/
def roundEven (x : ℚ) : ℕ :=
  if x - ⌊x⌋₊ < 1 / 2 then ⌊x⌋₊
  else if 1 / 2 < x - ⌊x⌋₊ then ⌊x⌋₊ + 1
  else if Even ⌊x⌋₊ then ⌊x⌋₊
  else ⌊x⌋₊ + 1

/-- The power of two that leaves a number 53 bits before the point, but no less than the
least double. -/
def step (x : ℚ) : ℚ :=
  2 ^ max (Int.log 2 x - 52) (-1074)

/-- The number as a double, if no exponent is too great. -/
def rounded (x : ℚ) : ℚ :=
  roundEven (x / step x) * step x

theorem abs_roundEven_sub_le {x : ℚ} (h : 0 ≤ x) : |roundEven x - x| ≤ 1 / 2 := by
  have hlow := Nat.floor_le h
  have hhigh := Nat.lt_floor_add_one x
  unfold roundEven
  rw [abs_le]
  split_ifs <;> push_cast <;> constructor <;> linarith

theorem step_pos (x : ℚ) : 0 < step x := by
  unfold step
  positivity

/-- A normal number is off by no more than one part in 2^53. -/
theorem abs_rounded_sub_le {x : ℚ} (h : 2 ^ (-1022 : Int) ≤ x) :
    |rounded x - x| ≤ x / 2 ^ 53 := by
  have hpos : 0 < x := lt_of_lt_of_le (by positivity) h
  have hlog : -1022 ≤ Int.log 2 x :=
    (Int.zpow_le_iff_le_log (by decide) hpos).mp (by exact_mod_cast h)
  have hbinade : (2 : ℚ) ^ Int.log 2 x ≤ x := by
    exact_mod_cast Int.zpow_log_le_self (by decide) hpos
  have hstep : step x = 2 ^ Int.log 2 x / 2 ^ 52 := by
    rw [step, max_eq_left (by omega), zpow_sub₀ (by norm_num)]
    norm_num
  have hsteps : rounded x - x = (roundEven (x / step x) - x / step x) * step x := by
    rw [rounded, sub_mul, div_mul_cancel₀ _ (step_pos x).ne']
  have hhalf := abs_roundEven_sub_le (div_nonneg hpos.le (step_pos x).le)
  calc |rounded x - x| = |roundEven (x / step x) - x / step x| * step x := by
        rw [hsteps, abs_mul, abs_of_pos (step_pos x)]
    _ ≤ 1 / 2 * step x := mul_le_mul_of_nonneg_right hhalf (step_pos x).le
    _ ≤ 1 / 2 * (x / 2 ^ 52) := by
        rw [hstep]
        gcongr
    _ = x / 2 ^ 53 := by ring

/-- So it lies between these two bounds. -/
theorem rounded_bounds {x : ℚ} (h : 1 ≤ x) :
    x * (1 - 1 / 2 ^ 53) ≤ rounded x ∧ rounded x ≤ x * (1 + 1 / 2 ^ 53) := by
  have hnormal : (2 : ℚ) ^ (-1022 : Int) ≤ x :=
    (zpow_le_one_of_nonpos₀ one_le_two (by decide)).trans h
  obtain ⟨hlow, hhigh⟩ := abs_le.mp (abs_rounded_sub_le hnormal)
  constructor <;> linarith

theorem rounded_pos {x : ℚ} (h : 1 ≤ x) : 0 < rounded x :=
  lt_of_lt_of_le (mul_pos (by linarith) (by norm_num)) (rounded_bounds h).1

/-! ### The nearest double -/

/-- The integer that a quotient is rounded to. -/
theorem roundQuotient_eq (num : Nat) {den : Nat} (hden : 0 < den) :
    roundQuotient num den = roundEven (num / den) := by
  have hd : (0 : ℚ) < den := by exact_mod_cast hden
  have hfloor : ⌊(num : ℚ) / den⌋₊ = num / den := Nat.floor_div_eq_div num den
  have hsum : (num : ℚ) = den * (num / den : ℕ) + (num % den : ℕ) := by
    exact_mod_cast (Nat.div_add_mod num den).symm
  have hrest : (num : ℚ) / den - (num / den : ℕ) = (num % den : ℕ) / den := by
    rw [sub_eq_iff_eq_add, div_eq_iff hd.ne', add_mul, div_mul_cancel₀ _ hd.ne',
      mul_comm _ (den : ℚ), add_comm]
    exact hsum
  have hless : ((num % den : ℕ) : ℚ) / den < 1 / 2 ↔ 2 * (num % den) < den := by
    rw [div_lt_div_iff₀ hd two_pos, one_mul, mul_comm]
    exact_mod_cast Iff.rfl
  have hmore : 1 / 2 < ((num % den : ℕ) : ℚ) / den ↔ den < 2 * (num % den) := by
    rw [div_lt_div_iff₀ two_pos hd, one_mul, mul_comm]
    exact_mod_cast Iff.rfl
  unfold roundQuotient roundEven
  simp only [hfloor, hrest, hless, hmore, Nat.even_iff]

/-- The exponent that is chosen is that of the step. -/
theorem two_pow_exponentOf {num den : Nat} (hnum : 0 < num) (hden : 0 < den) :
    (2 : ℚ) ^ exponentOf num den = step (num / den) := by
  obtain ⟨e, hexp, hlow, hhigh⟩ := exists_exponentOf hnum hden
  have hpos : (0 : ℚ) < num / den := by positivity
  have hlog : Int.log 2 ((num : ℚ) / den) = e + 52 := by
    have hle : e + 52 ≤ Int.log 2 ((num : ℚ) / den) :=
      (Int.zpow_le_iff_le_log one_lt_two hpos).mp (by exact_mod_cast hlow)
    have hlt : Int.log 2 ((num : ℚ) / den) < e + 53 :=
      (Int.lt_zpow_iff_log_lt one_lt_two hpos).mp (by exact_mod_cast hhigh)
    omega
  rw [hexp, step, hlog, Int.add_sub_cancel, leastExponent]

/-- What a double is worth without its sign. -/
def magnitude (x : Binary64) : ℚ :=
  x.significand * 2 ^ x.exponent

theorem numerator_div_denominator (x : Binary64) :
    (x.numerator : ℚ) / x.denominator = x.magnitude := by
  rw [magnitude, zpow_eq_div, numerator, denominator]
  push_cast [Nat.pow_eq]
  rw [mul_div_assoc]

theorem denominator_pos (x : Binary64) : 0 < x.denominator :=
  Nat.pow_pos (by decide)

theorem rounded_zero : rounded 0 = 0 := by
  simp [rounded, roundEven]

/-- The nearest double is worth the rounded quotient. -/
theorem magnitude_nearest (negative : Bool) (num : Nat) {den : Nat} (hden : 0 < den) :
    (nearest negative num den).magnitude = rounded (num / den) := by
  rcases Nat.eq_zero_or_pos num with rfl | hnum
  · rw [nearest_zero, Nat.cast_zero, zero_div, rounded_zero, magnitude, zero, Nat.cast_zero,
      zero_mul]
  have hm : roundEven ((num : ℚ) / den / step (num / den)) =
      roundQuotient (scale num den (exponentOf num den)).1
        (scale num den (exponentOf num den)).2 := by
    rw [roundQuotient_eq _ (scale_pos hden _), scale_div hden, two_pow_exponentOf hnum hden]
  rw [rounded, hm, ← two_pow_exponentOf hnum hden, nearest, if_neg hnum.ne']
  dsimp only
  split_ifs with hlimit
  · -- two to the power 53 is half of it with the next exponent
    rw [magnitude, hlimit, zpow_add₀ two_ne_zero, zpow_one, significandLimit]
    norm_num
    ring
  · rfl

/-- The product of two doubles is rounded. -/
theorem finite?_mul_eq_none_iff (x y : Binary64) :
    (x.mul y).finite? = none ↔ overflow ≤ x.magnitude * y.magnitude := by
  rw [mul, finite?_nearest_eq_none_iff _ _ (Nat.mul_pos x.denominator_pos y.denominator_pos),
    Nat.cast_mul, Nat.cast_mul, mul_div_mul_comm, numerator_div_denominator,
    numerator_div_denominator]

/-! ### Significand and power of ten -/

/-- Only zero is rounded to zero. -/
theorem significand_nearest_eq_zero_iff {n : Nat} :
    (nearest false n 1).significand = 0 ↔ n = 0 := by
  constructor
  · intro h
    by_contra hne
    have hone : (1 : ℚ) ≤ n := by exact_mod_cast Nat.pos_of_ne_zero hne
    have hworth := magnitude_nearest false n one_pos
    rw [Nat.cast_one, div_one, magnitude, h, Nat.cast_zero, zero_mul] at hworth
    exact absurd hworth (rounded_pos hone).ne
  · rintro rfl
    rw [nearest_zero]
    rfl

theorem magnitude_tenPow (n : Nat) : (tenPow n).magnitude = rounded (10 ^ n) := by
  rw [tenPow, magnitude_nearest _ _ one_pos, Nat.cast_one, div_one]
  push_cast [Nat.pow_eq]
  rfl

/-- A significand and a power of ten have no finite double exactly if the power is above
10^308, or the product of the two rounded numbers is too large. -/
theorem ofParts_eq_none_iff (significand : Nat) (power : Int) :
    ofParts significand power = none ↔ significand ≠ 0 ∧ 0 ≤ power ∧
      (308 < power ∨ overflow ≤ rounded significand * rounded (10 ^ power)) := by
  have hworth : (nearest false significand 1).magnitude = rounded significand := by
    rw [magnitude_nearest _ _ one_pos, Nat.cast_one, div_one]
  have hpos : 0 < overflow := lt_trans (by positivity) two_pow_lt_overflow
  unfold ofParts
  dsimp only
  split_ifs with hneg hsmall hzero
  · exact iff_of_false nofun fun h => by omega
  · lift power to Nat using by omega
    rw [finite?_mul_eq_none_iff, hworth, Int.toNat_natCast, magnitude_tenPow, zpow_natCast]
    constructor
    · intro hlarge
      refine ⟨?_, by omega, .inr hlarge⟩
      rintro rfl
      rw [Nat.cast_zero, rounded_zero, zero_mul] at hlarge
      exact absurd hlarge hpos.not_ge
    · rintro ⟨-, -, hbig | hlarge⟩
      · exact absurd hsmall (by rw [greatestTen]; omega)
      · exact hlarge
  · exact iff_of_false nofun fun h => h.1 (significand_nearest_eq_zero_iff.mp hzero)
  · refine iff_of_true rfl
      ⟨fun h => hzero (significand_nearest_eq_zero_iff.mpr h), by omega, .inl ?_⟩
    rw [greatestTen] at hsmall
    omega

end Binary64
end SignedHooks
