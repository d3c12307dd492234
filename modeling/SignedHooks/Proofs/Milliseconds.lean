/-
# Milliseconds of a clock

The milliseconds of an instant are the nanoseconds between it and the epoch without
the fraction of a millisecond, on either side of the epoch, and brought into the
range of 64 bits (`Instant.millis_eq_clamp`). So a clock that does not go back does
not go back in milliseconds: not where the fractions on both sides of the epoch fall
together at nought, and not where the range ends (`Instant.millis_mono`).

Before the epoch the milliseconds are the negative of the distance, as long as the
distance is in the range. The range has one integer more below nought than above, so
this negative is in the range as well, and a word of 64 bits holds it without turning
over (`Instant.toInt_neg_distance`).

Key theorems: `Instant.millis_eq_clamp`, `Instant.toInt_neg_distance`,
`Instant.millis_mono`, `Instant.millis_truncated`.
-/
import Mathlib.Tactic.SplitIfs
import SignedHooks.Instant

namespace SignedHooks
namespace Instant

theorem natAbs_offset (t : Instant) : t.offset.natAbs = t.seconds * 1000000000 + t.nanos := by
  unfold offset
  cases t.beforeEpoch
  · simp only [Bool.false_eq_true, if_false]
    omega
  · simp only [if_true]
    omega

theorem distance_eq (t : Instant) : t.distance = t.offset.natAbs / 1000000 := by
  rw [natAbs_offset, distance]
  omega

/-- The milliseconds are the nanoseconds without the fraction of a millisecond,
brought into the range. -/
theorem millis_eq_clamp (t : Instant) : t.millis = Signed64.clamp (t.offset.tdiv 1000000) := by
  have hdistance : (t.distance : Int) = (t.seconds * 1000000000 + t.nanos) / 1000000 := by
    rw [distance_eq, natAbs_offset]
    omega
  have hnonneg : (0 : Int) ≤ t.seconds * 1000000000 + t.nanos := by omega
  unfold millis offset Signed64.clamp Signed64.least Signed64.greatest
  rw [hdistance]
  cases t.beforeEpoch
  · simp only [Bool.false_eq_true, if_false]
    rw [Int.tdiv_eq_ediv_of_nonneg hnonneg]
    split_ifs <;> omega
  · simp only [if_true]
    rw [Int.neg_tdiv, Int.tdiv_eq_ediv_of_nonneg hnonneg]
    split_ifs <;> omega

/-- A clock that does not go back does not go back in milliseconds. -/
theorem millis_mono {a b : Instant} (h : a.offset ≤ b.offset) : a.millis ≤ b.millis := by
  rw [millis_eq_clamp, millis_eq_clamp]
  apply Signed64.clamp_mono
  exact Int.tdiv_le_tdiv (by decide) h

/-! ### The negative of a distance -/

theorem millis_of_before {t : Instant} (hbefore : t.beforeEpoch = true)
    (hfits : Signed64.Fits t.distance) : t.millis = -t.distance := by
  unfold millis
  rw [if_pos hbefore, if_pos hfits.2]

theorem fits_neg_distance {t : Instant} (hfits : Signed64.Fits t.distance) :
    Signed64.Fits (-t.distance) := by
  unfold Signed64.Fits Signed64.least Signed64.greatest at *
  omega

/-- In a word of 64 bits the negative of a distance of the range does not turn over. -/
theorem toInt_neg_distance {t : Instant} (hfits : Signed64.Fits t.distance) :
    (-Int64.ofNat t.distance).toInt = -t.distance := by
  have hle : t.distance ≤ 2 ^ 63 := by
    have hgreatest := hfits.2
    unfold Signed64.greatest at hgreatest
    omega
  exact Int64.toInt_neg_ofNat_of_le hle

/-- **Milliseconds of an instant.** They are its offset from the epoch, in milliseconds,
truncated toward nought and brought into the range of 64 bits. Where they are computed
as the negative of a distance, the negative is in the range and is what a word of 64
bits holds. Of two instants the later one has no less of them. -/
theorem millis_truncated :
    (∀ t : Instant, t.millis = Signed64.clamp (t.offset.tdiv 1000000)) ∧
    (∀ t : Instant, t.beforeEpoch = true → Signed64.Fits t.distance →
      Signed64.Fits (-t.distance) ∧ (-Int64.ofNat t.distance).toInt = t.millis) ∧
    ∀ a b : Instant, a.offset ≤ b.offset → a.millis ≤ b.millis := by
  refine ⟨millis_eq_clamp, fun t hbefore hfits => ?_, fun a b h => millis_mono h⟩
  refine ⟨fits_neg_distance hfits, ?_⟩
  rw [toInt_neg_distance hfits, millis_of_before hbefore hfits]

/-- The last instant before the epoch whose distance is in the range, and one that is less
than a millisecond behind the epoch. -/
theorem millis_truncated_ends :
    (-Int64.ofNat (distance ⟨true, 9223372036854775, 807999999⟩)).toInt =
      millis ⟨true, 9223372036854775, 807999999⟩ ∧
    millis ⟨true, 9223372036854775, 808000000⟩ = Signed64.least ∧
    millis ⟨true, 9223372036854775, 808000000⟩ ≤ millis ⟨true, 0, 999999⟩ ∧
    millis ⟨true, 0, 999999⟩ = 0 := by
  obtain ⟨hmillis, hneg, hmono⟩ := millis_truncated
  refine ⟨(hneg _ rfl (by decide)).2, ?_, hmono _ _ (by decide), ?_⟩
  · rw [hmillis]
    decide
  · rw [hmillis]
    decide

end Instant
end SignedHooks
