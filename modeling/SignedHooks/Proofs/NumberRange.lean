/-
# How large a number may be

Leading digits leave out no more than one part in 2^60 of a number
(`Json.Numeral.abs_leading_sub_le`), and each of the two numbers that are multiplied is off
by no more than one part in 2^53. So whether a number is finite may differ from whether its
nearest double is only within one part in 2^51 of two to the power 1024: every number below
is finite (`Json.Numeral.finite_of_magnitude_lt`), and none above
(`Json.Numeral.not_finite_of_le_magnitude`), as long as 31 bits hold its power.

Key theorems: `Json.Numeral.abs_leading_sub_le`, `Json.Numeral.finite_of_magnitude_lt`,
`Json.Numeral.not_finite_of_le_magnitude`, `Json.SpellsNumber.finite_bounds`.
-/
import SignedHooks.Proofs.JsonNumber

namespace SignedHooks
namespace Json

/-! ### Rows of digits -/

variable {n : Nat} {ds : List Char}

/-- A number that goes on with digits lies between its own multiple and the next one. -/
theorem ofDigitChars_bounds : ∀ {n : Nat} {ds : List Char}, (∀ c ∈ ds, c.isDigit = true) →
    n * 10 ^ ds.length ≤ Nat.ofDigitChars 10 ds n ∧
      Nat.ofDigitChars 10 ds n < (n + 1) * 10 ^ ds.length
  | n, [], _ => by
    rw [Nat.ofDigitChars_nil, List.length_nil, Nat.pow_zero]
    omega
  | n, c :: ds, h => by
    obtain ⟨hc, hds⟩ := List.forall_mem_cons.mp h
    obtain ⟨hlow, hhigh⟩ := ofDigitChars_bounds (n := 10 * n + Decimal.digitValue c) hds
    have hdigit := Decimal.digitValue_lt hc
    rw [ofDigitChars_cons, List.length_cons, Nat.pow_succ']
    constructor
    · calc n * (10 * 10 ^ ds.length) = 10 * n * 10 ^ ds.length := by ring
        _ ≤ (10 * n + Decimal.digitValue c) * 10 ^ ds.length :=
          Nat.mul_le_mul_right _ (Nat.le_add_right _ _)
        _ ≤ _ := hlow
    · calc _ < (10 * n + Decimal.digitValue c + 1) * 10 ^ ds.length := hhigh
        _ ≤ (10 * (n + 1)) * 10 ^ ds.length := Nat.mul_le_mul_right _ (by omega)
        _ = (n + 1) * (10 * 10 ^ ds.length) := by ring

/-- The digits that are left out are worth less than one of the last place that is kept. -/
theorem lead_bounds (h : ∀ c ∈ ds, c.isDigit = true) :
    lead n ds * 10 ^ (ds.length - kept n ds) ≤ Nat.ofDigitChars 10 ds n ∧
      Nat.ofDigitChars 10 ds n < (lead n ds + 1) * 10 ^ (ds.length - kept n ds) := by
  have hrest := ofDigitChars_bounds (n := lead n ds)
    fun c (hc : c ∈ ds.drop (kept n ds)) => h c (List.mem_of_mem_drop hc)
  have happend : Nat.ofDigitChars 10 (ds.drop (kept n ds)) (lead n ds) =
      Nat.ofDigitChars 10 ds n := by
    rw [lead, ← Nat.ofDigitChars_append, List.take_append_drop]
  rwa [happend, List.length_drop] at hrest

/-- If digits are left out then those that are kept fill 64 bits up to the last digit. -/
theorem two_pow_le_lead (h : ∀ c ∈ ds, c.isDigit = true) (hleft : kept n ds < ds.length) :
    2 ^ 60 ≤ lead n ds := by
  have hdigit := Decimal.digitValue_lt (h _ (List.getElem_mem hleft))
  have hmore := not_lt_of_kept_lt (Nat.lt_succ_self _) hleft
  rw [← List.take_concat_get' ds _ hleft, Nat.ofDigitChars_append, ofDigitChars_cons,
    Nat.ofDigitChars_nil, ← lead] at hmore
  omega

/-! ### What leading digits leave out -/

/-- Two numbers between the same two multiples of `s`, which are at least 2^60 times as
much. -/
theorem abs_sub_le_of_step {l s a b : Nat} (hl : 2 ^ 60 ≤ l) (ha : l * s ≤ a)
    (ha' : a ≤ (l + 1) * s) (hb : l * s ≤ b) (hb' : b ≤ (l + 1) * s) :
    |(a : ℚ) - b| ≤ b / 2 ^ 60 := by
  have hstep : (s : ℚ) ≤ b / 2 ^ 60 := by
    rw [le_div_iff₀ (by positivity), mul_comm]
    exact_mod_cast (Nat.mul_le_mul_right s hl).trans hb
  have hsum : (l + 1) * s = l * s + s := by ring
  rw [hsum] at ha' hb'
  rw [← Nat.cast_le (α := ℚ)] at ha ha' hb hb'
  push_cast at ha ha' hb hb'
  refine le_trans ?_ hstep
  rw [abs_le]
  constructor <;> linarith

/-- The leading digits of a row and all its digits, each with the places of the other. -/
theorem abs_lead_sub_le (h : ∀ c ∈ ds, c.isDigit = true) :
    |((lead n ds * 10 ^ ds.length : Nat) : ℚ) -
        (Nat.ofDigitChars 10 ds n * 10 ^ kept n ds : Nat)| ≤
      (Nat.ofDigitChars 10 ds n * 10 ^ kept n ds : Nat) / 2 ^ 60 := by
  obtain ⟨hlow, hhigh⟩ := lead_bounds (n := n) h
  have hplaces : 10 ^ (ds.length - kept n ds) * 10 ^ kept n ds = 10 ^ ds.length :=
    Nat.pow_sub_mul_pow 10 (kept_le n ds)
  rcases Nat.lt_or_ge (kept n ds) ds.length with hleft | hfull
  · refine abs_sub_le_of_step (two_pow_le_lead h hleft) le_rfl
      (Nat.mul_le_mul_right _ (Nat.le_succ _)) ?_ ?_
    · rw [← hplaces, ← Nat.mul_assoc]
      exact Nat.mul_le_mul_right _ hlow
    · rw [← hplaces, ← Nat.mul_assoc]
      exact Nat.mul_le_mul_right _ hhigh.le
  · -- nothing is left out
    have hkept : kept n ds = ds.length := le_antisymm (kept_le n ds) hfull
    rw [lead, hkept, List.take_length, sub_self, abs_zero]
    positivity

section

variable {w f : List Char}

/-- If digits before the point are left out, then it does not matter what is kept behind it. -/
theorem abs_lead_mul_sub_le_of_left (hw : ∀ c ∈ w, c.isDigit = true)
    (hf : ∀ c ∈ f, c.isDigit = true) (hleft : kept 0 w < w.length) :
    |((lead (lead 0 w) f * (10 ^ (w.length - kept 0 w) * 10 ^ f.length) : Nat) : ℚ) -
        (Nat.ofDigitChars 10 f (Decimal.ofDigits w) * 10 ^ kept (lead 0 w) f : Nat)| ≤
      (Nat.ofDigitChars 10 f (Decimal.ofDigits w) * 10 ^ kept (lead 0 w) f : Nat) / 2 ^ 60 := by
  have hlength : (f.take (kept (lead 0 w) f)).length = kept (lead 0 w) f :=
    List.length_take_of_le (kept_le _ f)
  obtain ⟨hwlow, hwhigh⟩ : _ ∧ Decimal.ofDigits w < _ := lead_bounds (n := 0) hw
  obtain ⟨hdlow, hdhigh⟩ := ofDigitChars_bounds (n := Decimal.ofDigits w) hf
  obtain ⟨hllow, hlhigh⟩ := ofDigitChars_bounds (n := lead 0 w)
    fun c (hc : c ∈ f.take (kept (lead 0 w) f)) => hf c (List.mem_of_mem_take hc)
  rw [hlength, ← lead] at hllow hlhigh
  -- both lie between the same multiples of the last place before the point that is kept
  refine abs_sub_le_of_step (l := lead 0 w)
    (s := 10 ^ (w.length - kept 0 w) * 10 ^ f.length * 10 ^ kept (lead 0 w) f)
    (two_pow_le_lead hw hleft) ?_ ?_ ?_ ?_
  · calc _ = lead 0 w * 10 ^ kept (lead 0 w) f *
            (10 ^ (w.length - kept 0 w) * 10 ^ f.length) := by ring
      _ ≤ _ := Nat.mul_le_mul_right _ hllow
  · calc _ ≤ (lead 0 w + 1) * 10 ^ kept (lead 0 w) f *
            (10 ^ (w.length - kept 0 w) * 10 ^ f.length) := Nat.mul_le_mul_right _ hlhigh.le
      _ = _ := by ring
  · calc _ = lead 0 w * 10 ^ (w.length - kept 0 w) * 10 ^ f.length * 10 ^ kept (lead 0 w) f := by
          ring
      _ ≤ Decimal.ofDigits w * 10 ^ f.length * 10 ^ kept (lead 0 w) f :=
        Nat.mul_le_mul_right _ (Nat.mul_le_mul_right _ hwlow)
      _ ≤ _ := Nat.mul_le_mul_right _ hdlow
  · calc _ ≤ (Decimal.ofDigits w + 1) * 10 ^ f.length * 10 ^ kept (lead 0 w) f :=
          Nat.mul_le_mul_right _ hdhigh.le
      _ ≤ (lead 0 w + 1) * 10 ^ (w.length - kept 0 w) * 10 ^ f.length *
            10 ^ kept (lead 0 w) f :=
        Nat.mul_le_mul_right _ (Nat.mul_le_mul_right _ hwhigh)
      _ = _ := by ring

/-- The leading digits of two rows and all their digits, each with the places of the other. -/
theorem abs_lead_mul_sub_le (hw : ∀ c ∈ w, c.isDigit = true) (hf : ∀ c ∈ f, c.isDigit = true) :
    |((lead (lead 0 w) f * (10 ^ (w.length - kept 0 w) * 10 ^ f.length) : Nat) : ℚ) -
        (Nat.ofDigitChars 10 f (Decimal.ofDigits w) * 10 ^ kept (lead 0 w) f : Nat)| ≤
      (Nat.ofDigitChars 10 f (Decimal.ofDigits w) * 10 ^ kept (lead 0 w) f : Nat) / 2 ^ 60 := by
  rcases Nat.lt_or_ge (kept 0 w) w.length with hleft | hfull
  · exact abs_lead_mul_sub_le_of_left hw hf hleft
  · have hkept : kept 0 w = w.length := le_antisymm (kept_le 0 w) hfull
    have hlead : lead 0 w = Decimal.ofDigits w :=
      lead_of_lt ((kept_eq_length_iff (by decide)).mp hkept)
    rw [hlead, hkept, Nat.sub_self, Nat.pow_zero, Nat.one_mul]
    exact abs_lead_sub_le hf

end

/-! ### Large numbers -/

/-- A number has digits and nothing else. -/
structure Numeral.Proper (n : Numeral) : Prop where
  /-- Before the point. -/
  whole : ∀ c ∈ n.whole, c.isDigit = true
  /-- Behind the point, if there is one. -/
  fraction : ∀ c ∈ n.fraction.getD [], c.isDigit = true

theorem SpellsNumber.proper {cs : List Char} {n : Numeral} (h : SpellsNumber cs n) : n.Proper := by
  obtain ⟨hwhole, hfraction, -⟩ := h
  refine ⟨hwhole.1.2, ?_⟩
  cases hfraction with
  | none => exact List.forall_mem_nil _
  | some hds => exact hds.2

namespace Numeral

variable {n : Numeral}

/-- The leading digits and their power of ten differ from the number by no more than one part
in 2^60. -/
theorem abs_leading_sub_le (h : n.Proper) :
    |n.leading * 10 ^ n.scale - n.magnitude| ≤ n.magnitude / 2 ^ 60 := by
  have hten : (10 : ℚ) ≠ 0 := by norm_num
  have hlead := abs_lead_mul_sub_le h.whole h.fraction
  have hdigits : n.digits =
      Nat.ofDigitChars 10 (n.fraction.getD []) (Decimal.ofDigits n.whole) :=
    Nat.ofDigitChars_append 0
  rw [← hdigits, ← leading] at hlead
  -- both powers of ten with the places that were multiplied with
  have hscale : (10 : ℚ) ^ n.scale = 10 ^ (n.whole.length - kept 0 n.whole) *
      10 ^ (n.fraction.getD []).length *
        10 ^ (n.power - kept (lead 0 n.whole) (n.fraction.getD []) : Int) := by
    rw [← pow_add, ← zpow_natCast, ← zpow_add₀ hten, scale, places, power]
    congr 1
    push_cast
    ring
  have hpower : (10 : ℚ) ^ n.power = 10 ^ kept (lead 0 n.whole) (n.fraction.getD []) *
      10 ^ (n.power - kept (lead 0 n.whole) (n.fraction.getD []) : Int) := by
    rw [← zpow_natCast, ← zpow_add₀ hten]
    congr 1
    ring
  have hpos : (0 : ℚ) < 10 ^ (n.power - kept (lead 0 n.whole) (n.fraction.getD []) : Int) := by
    positivity
  rw [magnitude, hscale, hpower]
  generalize (10 : ℚ) ^ (n.power - kept (lead 0 n.whole) (n.fraction.getD []) : Int) = unit at *
  push_cast at hlead
  rw [← mul_assoc, ← mul_assoc (n.digits : ℚ), ← sub_mul, abs_mul, abs_of_pos hpos,
    mul_div_right_comm]
  exact mul_le_mul_of_nonneg_right hlead hpos.le

theorem magnitude_nonneg (n : Numeral) : 0 ≤ n.magnitude := by
  unfold magnitude
  positivity

/-- What is below two to the power 1024 by more than one part in 2^51 is finite. -/
theorem finite_of_magnitude_lt (h : n.Proper) (hexponent : n.exponent.getD 0 ≤ powerLimit)
    (hlt : n.magnitude < (1 - 1 / 2 ^ 51) * 2 ^ (1024 : Int)) : n.Finite := by
  by_cases hzero : n.leading = 0
  · exact .inl hzero
  have hone : (1 : ℚ) ≤ n.leading := by exact_mod_cast Nat.pos_of_ne_zero hzero
  have hlead := (abs_le.mp (abs_leading_sub_le h)).2
  have hnonneg := n.magnitude_nonneg
  have hlimit : (0 : ℚ) < 2 ^ (1024 : Int) := by positivity
  have hten309 := Binary64.two_pow_le_ten_pow
  have hoverflow := Binary64.overflow_eq
  generalize (2 : ℚ) ^ (1024 : Int) = limit at *
  have hscale : n.scale ≤ 308 := by
    by_contra hlarge
    have hten : limit ≤ 10 ^ n.scale :=
      hten309.trans (zpow_le_zpow_right₀ (by norm_num) (by omega))
    have hmul : (10 : ℚ) ^ n.scale ≤ n.leading * 10 ^ n.scale :=
      le_mul_of_one_le_left (by positivity) hone
    linarith
  refine .inr (.inr ⟨hexponent, hscale, fun hnat => ?_⟩)
  have hten : (1 : ℚ) ≤ 10 ^ n.scale := one_le_zpow₀ (by norm_num) hnat
  calc Binary64.rounded n.leading * Binary64.rounded (10 ^ n.scale)
      ≤ n.leading * (1 + 1 / 2 ^ 53) * (10 ^ n.scale * (1 + 1 / 2 ^ 53)) :=
        mul_le_mul (Binary64.rounded_bounds hone).2 (Binary64.rounded_bounds hten).2
          (Binary64.rounded_pos hten).le (by positivity)
    _ = n.leading * 10 ^ n.scale * (1 + 1 / 2 ^ 53) ^ 2 := by ring
    _ ≤ n.magnitude * (1 + 1 / 2 ^ 60) * (1 + 1 / 2 ^ 53) ^ 2 :=
        mul_le_mul_of_nonneg_right (by linarith) (by positivity)
    _ < Binary64.overflow := by linarith

/-- What is above two to the power 1024 by more than one part in 2^51 is not. -/
theorem not_finite_of_le_magnitude (h : n.Proper) (hexponent : -powerLimit ≤ n.exponent.getD 0)
    (hle : (1 + 1 / 2 ^ 51) * 2 ^ (1024 : Int) ≤ n.magnitude) : ¬ n.Finite := by
  have hlead := (abs_le.mp (abs_leading_sub_le h)).1
  have hlimit : (2 : ℚ) ^ (65 : Int) ≤ 2 ^ (1024 : Int) :=
    zpow_le_zpow_right₀ one_le_two (by decide)
  have h65 : (2 : ℚ) ^ (65 : Int) = 2 * 2 ^ 64 := by norm_num
  have hoverflow := Binary64.overflow_eq
  generalize (2 : ℚ) ^ (1024 : Int) = limit at *
  have hmagnitude : 0 < n.magnitude := by linarith
  have hpos : 0 < n.leading := by
    by_contra hzero
    rw [Nat.eq_zero_of_not_pos hzero, Nat.cast_zero, zero_mul] at hlead
    linarith
  have hone : (1 : ℚ) ≤ n.leading := by exact_mod_cast hpos
  rintro (hzero | hlow | ⟨-, hscale, hproduct⟩)
  · exact hpos.ne' hzero
  · omega
  rcases lt_or_ge n.scale 0 with hneg | hnat
  · -- without zeros behind its leading digits a number is far below
    have hlt : (n.leading : ℚ) < 2 ^ 64 := by exact_mod_cast n.leading_lt
    have hsmall : (n.leading : ℚ) * 10 ^ n.scale ≤ n.leading :=
      mul_le_of_le_one_right (by positivity) (zpow_le_one_of_nonpos₀ (by norm_num) hneg.le)
    linarith
  have hten : (1 : ℚ) ≤ 10 ^ n.scale := one_le_zpow₀ (by norm_num) hnat
  refine absurd (hproduct hnat) (not_lt.mpr ?_)
  calc Binary64.overflow ≤ n.magnitude * (1 - 1 / 2 ^ 60) * (1 - 1 / 2 ^ 53) ^ 2 := by linarith
    _ ≤ n.leading * 10 ^ n.scale * (1 - 1 / 2 ^ 53) ^ 2 :=
        mul_le_mul_of_nonneg_right (by linarith) (by positivity)
    _ = n.leading * (1 - 1 / 2 ^ 53) * (10 ^ n.scale * (1 - 1 / 2 ^ 53)) := by ring
    _ ≤ Binary64.rounded n.leading * Binary64.rounded (10 ^ n.scale) :=
        mul_le_mul (Binary64.rounded_bounds hone).1 (Binary64.rounded_bounds hten).1
          (mul_nonneg (by positivity) (by norm_num)) (Binary64.rounded_pos hone).le

end Numeral

/-- Only within one part in 2^51 of two to the power 1024 does it depend on the rounding
whether a number is finite. -/
theorem SpellsNumber.finite_bounds {cs : List Char} {n : Numeral} (h : SpellsNumber cs n)
    (hexponent : |n.exponent.getD 0| ≤ powerLimit) :
    (n.magnitude < (1 - 1 / 2 ^ 51) * 2 ^ (1024 : Int) → n.Finite) ∧
      ((1 + 1 / 2 ^ 51) * 2 ^ (1024 : Int) ≤ n.magnitude → ¬ n.Finite) := by
  obtain ⟨hlow, hhigh⟩ := abs_le.mp hexponent
  exact ⟨Numeral.finite_of_magnitude_lt h.proper hhigh,
    Numeral.not_finite_of_le_magnitude h.proper hlow⟩

end Json
end SignedHooks
