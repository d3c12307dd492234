/-
# Which decimals have a double

A quotient has no double exactly if it is at least half a step above the greatest
one (`Binary64.finite?_nearest_eq_none_iff`): the midpoint itself goes to the even
neighbour, which is two to the power 1024 and no double. The exponent that is chosen
for a quotient puts it between 2^52 and 2^53 of its steps
(`Binary64.exists_exponentOf`), so only with the greatest exponent it matters how
the quotient is rounded (`Binary64.roundQuotient_eq_limit_iff`). The same holds of a
decimal that is rounded once, however many digits and zeros it has
(`Binary64.ofDecimal_eq_none_iff`).

Key definitions: `Binary64.overflow`.
Key theorems: `Binary64.exists_exponentOf`, `Binary64.finite?_nearest_eq_none_iff`,
`Binary64.ofDecimal_eq_none_iff`.
-/
import Mathlib.Algebra.Order.Field.Power
import Mathlib.Data.Rat.Cast.Order
import Mathlib.Tactic.FieldSimp
import Mathlib.Tactic.Linarith
import Mathlib.Tactic.NormNum
import Mathlib.Tactic.Positivity
import Mathlib.Tactic.Ring
import SignedHooks.Decimal.Binary64

namespace SignedHooks
namespace Binary64

/-- Half a step above the greatest double. -/
def overflow : ℚ := (2 ^ 53 - 1 / 2) * 2 ^ greatestExponent

/-! ### Scaled quotients -/

theorem scale_pos {num den : Nat} (hden : 0 < den) (e : Int) : 0 < (scale num den e).2 :=
  Nat.mul_pos hden (Nat.pow_pos (by decide))

/-- A power is a quotient of two with natural exponents. -/
theorem zpow_eq_div (b : ℚ) (e : Int) : b ^ e = b ^ e.toNat / b ^ (-e).toNat := by
  rcases le_total 0 e with h | h
  · have hneg : (-e).toNat = 0 := by omega
    rw [hneg, pow_zero, div_one, ← zpow_natCast, Int.toNat_of_nonneg h]
  · have hpos : e.toNat = 0 := by omega
    rw [hpos, pow_zero, one_div, ← zpow_natCast, Int.toNat_of_nonneg (by omega), zpow_neg, inv_inv]

theorem scale_div {num den : Nat} (hden : 0 < den) (e : Int) :
    ((scale num den e).1 : ℚ) / (scale num den e).2 = num / den / 2 ^ e := by
  have hd : (den : ℚ) ≠ 0 := by positivity
  rw [zpow_eq_div, scale]
  push_cast [Nat.pow_eq]
  field_simp

/-- Comparing with a scaled quotient is comparing with the quotient itself. -/
theorem mul_scale_le_iff {num den : Nat} (hden : 0 < den) (e : Int) (k l : Nat) :
    k * (scale num den e).2 ≤ l * (scale num den e).1 ↔
      (k : ℚ) * 2 ^ e ≤ l * (num / den) := by
  have hpos : (0 : ℚ) < (scale num den e).2 := by exact_mod_cast scale_pos hden e
  have he : (0 : ℚ) < 2 ^ e := by positivity
  rw [← Nat.cast_le (α := ℚ), Nat.cast_mul, Nat.cast_mul, ← le_div_iff₀ hpos, mul_div_assoc,
    scale_div hden, ← mul_div_assoc, le_div_iff₀ he]

theorem two_pow_log2_le {n : Nat} (hn : 0 < n) : (2 : ℚ) ^ (n.log2 : Int) ≤ n := by
  rw [zpow_natCast]
  exact_mod_cast Nat.log2_self_le hn.ne'

theorem lt_two_pow_log2_succ (n : Nat) : (n : ℚ) < 2 ^ ((n.log2 : Int) + 1) := by
  rw [← Nat.cast_succ, zpow_natCast]
  exact_mod_cast Nat.lt_log2_self

/-- A quotient lies within a power of two of the quotient of the leading powers. -/
theorem two_pow_log2_sub_bounds {num den : Nat} (hnum : 0 < num) (hden : 0 < den) :
    (2 : ℚ) ^ ((num.log2 : Int) - den.log2 - 1) ≤ num / den ∧
      (num : ℚ) / den < 2 ^ ((num.log2 : Int) - den.log2 + 1) := by
  have hd : (0 : ℚ) < den := by exact_mod_cast hden
  have h2 : (2 : ℚ) ≠ 0 := by norm_num
  constructor
  · rw [le_div_iff₀ hd]
    calc (2 : ℚ) ^ ((num.log2 : Int) - den.log2 - 1) * den
        ≤ 2 ^ ((num.log2 : Int) - den.log2 - 1) * 2 ^ ((den.log2 : Int) + 1) := by
          have := (lt_two_pow_log2_succ den).le
          gcongr
      _ = 2 ^ (num.log2 : Int) := by
          rw [← zpow_add₀ h2]
          congr 1
          omega
      _ ≤ num := two_pow_log2_le hnum
  · rw [div_lt_iff₀ hd]
    calc (num : ℚ) < 2 ^ ((num.log2 : Int) + 1) := lt_two_pow_log2_succ num
      _ = 2 ^ ((num.log2 : Int) - den.log2 + 1) * 2 ^ (den.log2 : Int) := by
          rw [← zpow_add₀ h2]
          congr 1
          omega
      _ ≤ 2 ^ ((num.log2 : Int) - den.log2 + 1) * den := by
          have := two_pow_log2_le hden
          gcongr

/-- Counted in steps of `2 ^ e`, a quotient reaches the limit of significands exactly if it
is at least 2^53 steps. -/
theorem significandLimit_le_scale_iff {num den : Nat} (hden : 0 < den) (e : Int) :
    significandLimit ≤ (scale num den e).1 / (scale num den e).2 ↔
      (2 : ℚ) ^ (e + 53) ≤ num / den := by
  have hlimit : ((significandLimit : Nat) : ℚ) = 2 ^ (53 : Int) := by
    rw [significandLimit]
    norm_num
  have hscale := @mul_scale_le_iff num den hden e significandLimit 1
  rw [one_mul, Nat.cast_one, one_mul, hlimit, ← zpow_add₀ (by norm_num), add_comm] at hscale
  rw [Nat.le_div_iff_mul_le (scale_pos hden e), hscale]

/-- The exponent that is chosen puts the quotient between 2^52 and 2^53 steps, as
long as there are steps so small. -/
theorem exists_exponentOf {num den : Nat} (hnum : 0 < num) (hden : 0 < den) :
    ∃ e : Int, exponentOf num den = max e leastExponent ∧
      (2 : ℚ) ^ (e + 52) ≤ num / den ∧ (num : ℚ) / den < 2 ^ (e + 53) := by
  let guess : Int := (num.log2 : Int) - den.log2 - 53
  obtain ⟨hlow, hhigh⟩ := two_pow_log2_sub_bounds hnum hden
  have hexp : exponentOf num den = max (if significandLimit ≤
      (scale num den guess).1 / (scale num den guess).2 then guess + 1 else guess)
      leastExponent := rfl
  by_cases hbig : significandLimit ≤ (scale num den guess).1 / (scale num den guess).2
  · refine ⟨guess + 1, by rw [hexp, if_pos hbig], ?_, ?_⟩
    · rw [show guess + 1 + 52 = guess + 53 by omega]
      exact (significandLimit_le_scale_iff hden guess).mp hbig
    · rwa [show guess + 1 + 53 = (num.log2 : Int) - den.log2 + 1 by omega]
  · refine ⟨guess, by rw [hexp, if_neg hbig], ?_, ?_⟩
    · rwa [show guess + 52 = (num.log2 : Int) - den.log2 - 1 by omega]
    · exact not_le.mp (mt (significandLimit_le_scale_iff hden guess).mpr hbig)

/-! ### Rounding -/

/-- A quotient below the limit is rounded up to it from half a step below. -/
theorem roundQuotient_eq_limit_iff {num den : Nat} (hden : 0 < den)
    (hlt : num < significandLimit * den) :
    roundQuotient num den = significandLimit ↔
      (2 * significandLimit - 1) * den ≤ 2 * num := by
  have hq : num / den < significandLimit := (Nat.div_lt_iff_lt_mul hden).mpr hlt
  have hr : num % den < den := Nat.mod_lt num hden
  have hdiv : den * (num / den) + num % den = num := Nat.div_add_mod num den
  unfold roundQuotient
  generalize num / den = q at hq hdiv
  generalize num % den = r at hr hdiv
  subst hdiv
  by_cases hlast : q + 1 = significandLimit
  · -- the last step: its midpoint is rounded up, for the lower neighbour is odd
    have hodd : q % 2 = 1 := by
      rw [significandLimit] at hlast
      omega
    have hhalf : (2 * significandLimit - 1) * den = 2 * (den * q) + den := by
      rw [← hlast, show 2 * (q + 1) - 1 = 2 * q + 1 by omega]
      ring
    rw [hhalf]
    dsimp only
    split_ifs <;> omega
  · have hmore : 2 * (den * q) + 3 * den ≤ (2 * significandLimit - 1) * den := by
      calc 2 * (den * q) + 3 * den = (2 * q + 3) * den := by ring
        _ ≤ (2 * significandLimit - 1) * den := Nat.mul_le_mul_right den (by omega)
    dsimp only
    split_ifs <;> omega

theorem two_pow_mul_step (e : Int) : (2 : ℚ) ^ e * 2 ^ greatestExponent = 2 ^ (e + 971) := by
  rw [← zpow_add₀ (by norm_num), greatestExponent]

/-- It is one part in 2^54 below two to the power 1024. -/
theorem overflow_eq : overflow = (1 - 1 / 2 ^ 54) * 2 ^ (1024 : Int) := by
  rw [show (1024 : Int) = 53 + 971 by rfl, ← two_pow_mul_step, overflow]
  norm_num
  ring

theorem overflow_eq_natCast : overflow = ((2 ^ 54 - 1) * 2 ^ 970 : Nat) := by
  have hstep : (2 : ℚ) ^ greatestExponent = 2 * 2 ^ 970 := by
    rw [← pow_succ']
    exact zpow_natCast 2 971
  have hlead : ((2 ^ 54 - 1 : Nat) : ℚ) = 2 ^ 54 - 1 := by norm_num
  rw [overflow, hstep, Nat.cast_mul, hlead, Nat.cast_pow, Nat.cast_ofNat]
  generalize (2 : ℚ) ^ 970 = unit
  ring

theorem overflow_lt_two_pow : overflow < 2 ^ (1024 : Int) := by
  rw [show (1024 : Int) = 53 + 971 by rfl, ← two_pow_mul_step, overflow]
  gcongr
  norm_num

theorem two_pow_lt_overflow : (2 : ℚ) ^ (1023 : Int) < overflow := by
  rw [show (1023 : Int) = 52 + 971 by rfl, ← two_pow_mul_step, overflow]
  gcongr
  norm_num

theorem finite?_eq_none_iff {x : Binary64} : x.finite? = none ↔ greatestExponent < x.exponent := by
  unfold finite?
  split_ifs with h <;> simp [h]

/-- What is compared with the greatest exponent. -/
theorem lt_exponent_nearest_iff (negative : Bool) {num : Nat} (hnum : 0 < num) (den : Nat) :
    greatestExponent < (nearest negative num den).exponent ↔
      greatestExponent < exponentOf num den ∨ greatestExponent = exponentOf num den ∧
        roundQuotient (scale num den (exponentOf num den)).1
          (scale num den (exponentOf num den)).2 = significandLimit := by
  rw [nearest, if_neg hnum.ne']
  dsimp only
  generalize exponentOf num den = e
  by_cases hm : roundQuotient (scale num den e).1 (scale num den e).2 = significandLimit
  · simp only [hm, if_true, and_true]
    omega
  · simp only [hm, if_false, and_false, or_false]

/-- A quotient has no double exactly if it is too large for one. -/
theorem finite?_nearest_eq_none_iff (negative : Bool) (num : Nat) {den : Nat} (hden : 0 < den) :
    (nearest negative num den).finite? = none ↔ overflow ≤ (num : ℚ) / den := by
  rcases Nat.eq_zero_or_pos num with rfl | hnum
  · have hpos : 0 < overflow := lt_trans (by positivity) two_pow_lt_overflow
    have hleast : ¬ greatestExponent < leastExponent := by decide
    rw [nearest_zero, finite?_eq_none_iff, Nat.cast_zero, zero_div]
    exact iff_of_false hleast hpos.not_ge
  obtain ⟨e₀, hexp, hlow, hhigh⟩ := exists_exponentOf hnum hden
  rw [finite?_eq_none_iff, lt_exponent_nearest_iff negative hnum, hexp]
  rcases lt_trichotomy e₀ greatestExponent with hlt | heq | hgt
  · -- below the greatest exponent every quotient is finite
    have hmax : max e₀ leastExponent < greatestExponent := max_lt hlt (by decide)
    refine iff_of_false (by omega) (not_le.mpr (hhigh.trans_le ?_))
    refine le_trans (zpow_le_zpow_right₀ (by norm_num) ?_) two_pow_lt_overflow.le
    rw [greatestExponent] at hlt
    omega
  · -- with the greatest exponent the quotient must not be rounded up to the limit
    have hmax : max e₀ leastExponent = greatestExponent := by rw [heq]; decide
    have hfit : (scale num den greatestExponent).1 <
        significandLimit * (scale num den greatestExponent).2 := by
      have := (@mul_scale_le_iff num den hden greatestExponent significandLimit 1).not
      rw [one_mul, Nat.cast_one, one_mul, not_le, not_le] at this
      refine this.mpr (hhigh.trans_le (le_of_eq ?_))
      rw [heq, add_comm, zpow_add₀ (by norm_num), significandLimit]
      norm_num
    have hhalf : ((2 * significandLimit - 1 : Nat) : ℚ) * 2 ^ greatestExponent = 2 * overflow := by
      rw [significandLimit, overflow]
      norm_num
      ring
    rw [hmax, roundQuotient_eq_limit_iff (scale_pos hden _) hfit, mul_scale_le_iff hden, hhalf]
    norm_num
  · refine iff_of_true (.inl (lt_max_of_lt_left hgt)) (overflow_lt_two_pow.le.trans ?_)
    refine le_trans (zpow_le_zpow_right₀ (by norm_num) ?_) hlow
    rw [greatestExponent] at hgt
    omega

/-! ### Decimals -/

/-- A decimal of `places` digits before the point is below ten to that power, and
not below ten to the power before. -/
theorem digits_mul_bounds {digits : Nat} (hpos : 0 < digits) (power : Int) :
    (10 : ℚ) ^ ((Decimal.digitsOf digits).length + power - 1) ≤ digits * 10 ^ power ∧
      digits * (10 : ℚ) ^ power < 10 ^ ((Decimal.digitsOf digits).length + power) := by
  have h10 : (10 : ℚ) ≠ 0 := by norm_num
  have hlength : 0 < (Decimal.digitsOf digits).length := Nat.length_toDigits_pos
  have hlt : digits < 10 ^ (Decimal.digitsOf digits).length :=
    (Nat.length_toDigits_le_iff (by decide) hlength).mp le_rfl
  have hle : 10 ^ ((Decimal.digitsOf digits).length - 1) ≤ digits := by
    rcases Nat.eq_zero_or_pos ((Decimal.digitsOf digits).length - 1) with h | h
    · rwa [h, Nat.pow_zero]
    · by_contra hless
      have : (Decimal.digitsOf digits).length ≤ (Decimal.digitsOf digits).length - 1 :=
        (Nat.length_toDigits_le_iff (by decide) h).mpr (not_le.mp hless)
      omega
  constructor
  · rw [show ((Decimal.digitsOf digits).length : Int) + power - 1 =
      ((Decimal.digitsOf digits).length - 1 : Nat) + power by omega, zpow_add₀ h10, zpow_natCast]
    gcongr
    exact_mod_cast hle
  · rw [zpow_add₀ h10, zpow_natCast]
    gcongr
    exact_mod_cast hlt

theorem two_pow_le_ten_pow : (2 : ℚ) ^ (1024 : Int) ≤ 10 ^ (309 : Int) := by
  have h93 : (2 : ℚ) ^ 93 ≤ 10 ^ 28 := by norm_num
  calc (2 : ℚ) ^ (1024 : Int) = (2 ^ 93) ^ 11 * 2 := by
        rw [← pow_mul, ← pow_succ]
        exact zpow_natCast 2 1024
    _ ≤ (10 ^ 28) ^ 11 * 10 := by gcongr; norm_num
    _ = 10 ^ (309 : Int) := by
        rw [← pow_mul, ← pow_succ]
        exact (zpow_natCast 10 309).symm

theorem overflow_le_ten_pow : overflow ≤ 10 ^ (309 : Int) :=
  overflow_lt_two_pow.le.trans two_pow_le_ten_pow

/-- A decimal has no double exactly if it is too large for one. -/
theorem ofDecimal_eq_none_iff (negative : Bool) (digits : Nat) (power : Int) :
    ofDecimal negative digits power = none ↔ overflow ≤ digits * (10 : ℚ) ^ power := by
  have hpos : 0 < overflow := lt_trans (by positivity) two_pow_lt_overflow
  unfold ofDecimal
  by_cases hzero : digits = 0
  · simp [hzero, hpos]
  obtain ⟨hlow, hhigh⟩ := digits_mul_bounds (Nat.pos_of_ne_zero hzero) power
  by_cases hmany : tooManyDigits ≤ (Decimal.digitsOf digits).length + power
  · simp only [hzero, hmany, if_false, if_true, true_iff]
    refine overflow_le_ten_pow.trans (le_trans (zpow_le_zpow_right₀ (by norm_num) ?_) hlow)
    rw [tooManyDigits] at hmany
    omega
  by_cases hfew : (Decimal.digitsOf digits).length + power ≤ tooManyZeros
  · simp only [hzero, hmany, hfew, if_false, if_true, reduceCtorEq, false_iff, not_le]
    have hone : (1 : ℚ) ≤ overflow :=
      (one_le_zpow₀ (by norm_num) (by decide)).trans two_pow_lt_overflow.le
    refine hhigh.trans_le (le_trans (zpow_le_one_of_nonpos₀ (by norm_num) ?_) hone)
    rw [tooManyZeros] at hfew
    omega
  · have hden : 0 < Nat.pow 10 (-power).toNat := Nat.pow_pos (by decide)
    simp only [hzero, hmany, hfew, if_false]
    rw [ofRatio, finite?_nearest_eq_none_iff negative _ hden, zpow_eq_div]
    push_cast [Nat.pow_eq]
    rw [mul_div_assoc]

end Binary64
end SignedHooks
