/-
# How far the replay window is exact

With a tolerance that is not negative a delivery is out of range if its time
is farther from the clock than that. The time is brought into the range of 64
bits before it is compared, so a timestamp beyond the range counts as the end
of the range on its side, and that end may be near enough where the integer
itself is not (`Verifier.near_clamp_iff`). A delivery is therefore refused as
out of range exactly if its integer is too far away and is not behind an end of
the range that is near enough (`Verifier.outOfRange_iff_far`). No refusal is
wrong, and for integers of the range, and for a window that does not reach an
end of it, the check is what it says. At an end of the range it is not
(`Verifier.verify_edgeCall_greatest`).

Key definitions: `Verifier.EndNear`.
Key theorems: `Verifier.near_clamp_iff`, `Verifier.outOfRange_iff_far`.
-/
import SignedHooks.Proofs.Delivery

namespace SignedHooks
namespace Verifier

open Decimal Signed64 Text

/-- The integer lies behind an end of the range, and this end is at most
`tolerance` away from `now`. -/
def EndNear (tolerance now n : Int) : Prop :=
  (n < least ∧ now - least ≤ tolerance) ∨ (greatest < n ∧ greatest - now ≤ tolerance)

/-- No integer of the range lies behind an end of it. -/
theorem not_endNear_of_fits {tolerance now n : Int} (hn : Fits n) : ¬ EndNear tolerance now n := by
  rintro (⟨hlt, -⟩ | ⟨hlt, -⟩)
  · exact absurd hn.1 (not_le.mpr hlt)
  · exact absurd hn.2 (not_le.mpr hlt)

/-- Of a window that ends within the range no end of the range is a part. -/
theorem not_endNear_of_inside {tolerance now n : Int} (hlow : least < now - tolerance)
    (hhigh : now + tolerance < greatest) : ¬ EndNear tolerance now n := by
  rintro (⟨-, hle⟩ | ⟨-, hle⟩) <;> omega

/-- What is near after it was brought into the range was near before, or the end
of the range is. -/
theorem near_clamp_iff {tolerance now n : Int} (htol : 0 ≤ tolerance) (hnow : Fits now) :
    Near tolerance now (clamp n) ↔ Near tolerance now n ∨ EndNear tolerance now n := by
  obtain ⟨hleast, hgreatest⟩ := hnow
  have hneg : ¬ tolerance < 0 := by omega
  simp only [Near, EndNear, hneg, false_or, Int.abs_eq_natAbs]
  by_cases hlow : n < least
  · have hclamp : clamp n = least := if_pos hlow
    rw [hclamp]
    simp only [least, greatest] at *
    omega
  by_cases hhigh : greatest < n
  · have hclamp : clamp n = greatest := (if_neg hlow).trans (if_pos hhigh)
    rw [hclamp]
    simp only [least, greatest] at *
    omega
  · rw [clamp_of_fits ⟨not_lt.mp hlow, not_lt.mp hhigh⟩]
    omega

/-- A delivery whose timestamp says a time is refused as out of range exactly if
this time is not near. -/
theorem Call.outOfRange_iff_not_near {c : Call} {s ts : String} {stamp : Int}
    (h : Headed c.headers s ts) (hr : Timestamp.read ts = .ok stamp) :
    c.verify = .error .timestampOutOfRange ↔ ¬ Near c.tolerance c.now.millis stamp := by
  rw [Call.verify_of_read h hr]
  by_cases hnear : Near c.tolerance c.now.millis stamp
  · rw [if_pos hnear]
    refine iff_of_false (fun hv => ?_) (not_not_intro hnear)
    cases hcheck : checkSignature c.secret s ts c.body with
    | ok b =>
      rw [hcheck] at hv
      cases hv
    | error refusal =>
      rw [hcheck] at hv
      cases hv
      rcases checkSignature_error hcheck with ⟨fault, h⟩ | h <;> cases h
  · rw [if_neg hnear]
    exact iff_of_true rfl hnear

/-- **The replay window.** A delivery whose timestamp spells an integer of any
size is refused as out of range exactly if this integer is farther from the
clock than the tolerance, and not behind an end of the range that is near. So
the window is exact for integers of the range, and for all integers if it ends
within the range. -/
theorem outOfRange_iff_far {c : Call} {s ts : String} {n : Int} (h : Headed c.headers s ts)
    (hn : Spells (trimList ts.toList) n) (htol : 0 ≤ c.tolerance) :
    (c.verify = .error .timestampOutOfRange ↔
      c.tolerance < |c.now.millis - n| ∧ ¬ EndNear c.tolerance c.now.millis n) ∧
    (Fits n ∨ (least < c.now.millis - c.tolerance ∧ c.now.millis + c.tolerance < greatest) →
      (c.verify = .error .timestampOutOfRange ↔ c.tolerance < |c.now.millis - n|)) := by
  have hfar : ¬ Near c.tolerance c.now.millis n ↔ c.tolerance < |c.now.millis - n| := by
    rw [Near, not_or, not_lt, not_le]
    exact and_iff_right htol
  have hexact : c.verify = .error .timestampOutOfRange ↔
      c.tolerance < |c.now.millis - n| ∧ ¬ EndNear c.tolerance c.now.millis n := by
    rw [Call.outOfRange_iff_not_near h (Timestamp.read_of_spells hn),
      near_clamp_iff htol c.now.fits_millis, not_or, hfar]
  refine ⟨hexact, fun hcase => hexact.trans (and_iff_left ?_)⟩
  rcases hcase with hfits | ⟨hlow, hhigh⟩
  · exact not_endNear_of_fits hfits
  · exact not_endNear_of_inside hlow hhigh

/-- A delivery with the right signature of some timestamp. -/
def stampedCall (timestamp : String) (tolerance : Int) (now : Instant) : Call :=
  ⟨⟨"whsec", tolerance⟩, now, .text "{}",
    (SignedHeaders.mk timestamp (Signature.compute "whsec" timestamp "{}") none none).toHeaders,
    .none⟩

theorem headed_stampedCall {timestamp : String} (hprint : Header.Printing timestamp)
    (hne : timestamp ≠ "") (tolerance : Int) (now : Instant) :
    Headed (stampedCall timestamp tolerance now).headers
      (Signature.compute "whsec" timestamp "{}") timestamp where
  signature := ⟨SignedHeaders.Carried.pairs.get?_signature (Signature.printing_compute _ _ _),
    (Signature.marked_compute _ _ _).ne_empty⟩
  timestamp := ⟨SignedHeaders.Carried.pairs.get?_timestamp hprint, hne⟩
  marked := Signature.marked_compute _ _ _

/-- The first integer above the range. -/
def edge : String := "9223372036854775808"

theorem spells_edge : Spells (trimList edge.toList) 9223372036854775808 :=
  .plain ⟨by decide, List.all_eq_true.mp (by decide)⟩

/-- A delivery dated with it, at the epoch. -/
def edgeCall (tolerance : Int) : Call :=
  stampedCall edge tolerance ⟨false, 0, 0⟩

theorem headed_edgeCall (tolerance : Int) :
    Headed (edgeCall tolerance).headers (Signature.compute "whsec" edge "{}") edge :=
  headed_stampedCall (by decide) (by decide) tolerance _

/-- With the default tolerance it is out of range at the epoch. -/
theorem verify_edgeCall_default :
    (edgeCall defaultTolerance).verify = .error .timestampOutOfRange :=
  ((outOfRange_iff_far (headed_edgeCall defaultTolerance) spells_edge (by decide)).2
    (.inr (by decide))).mpr (by decide)

/-- With the greatest tolerance it is accepted at the epoch, though it is a
millisecond farther away than that. -/
theorem verify_edgeCall_greatest : Spells (trimList edge.toList) 9223372036854775808 ∧
    Headed (edgeCall greatest).headers (Signature.compute "whsec" edge "{}") edge ∧
    (edgeCall greatest).tolerance < |(edgeCall greatest).now.millis - 9223372036854775808| ∧
    (edgeCall greatest).verify = .ok () := by
  refine ⟨spells_edge, headed_edgeCall greatest, by decide, ?_⟩
  rw [Call.verify_of_read (headed_edgeCall greatest) (Timestamp.read_of_spells spells_edge),
    if_pos (by decide)]
  exact congrArg (Except.map fun _ => ()) (checkSignature_compute rfl)

end Verifier
end SignedHooks
