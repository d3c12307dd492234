/-
# What becomes of a timestamp that is no integer

With a marked signature and a timestamp there, a timestamp that is no decimal
integer is refused as such, unless some beginning of it spells an integer that
is out of the range: what is behind that is never looked at, and the delivery
is judged as if the timestamp were the nearest integer of the range
(`Verifier.invalidTimestamp_iff_not_runsOver`). So such a timestamp is out of
range for most clocks; but a verifier that does not check the time accepts it,
if it is signed (`Verifier.verify_overrunCall_unchecked`).

Key theorems: `Verifier.invalidTimestamp_iff_not_runsOver`.
-/
import SignedHooks.Proofs.Delivery

namespace SignedHooks
namespace Verifier

open Decimal Signed64 Text

/-- A timestamp that runs over counts as the nearest integer of the range. -/
theorem Call.verify_of_runsOver {c : Call} {s ts : String} {n : Int} (h : Headed c.headers s ts)
    (hn : RunsOver (trimList ts.toList) n) : c.verify =
      if Near c.tolerance c.now.millis (clamp n) then
        (checkSignature c.secret s ts c.body).map fun _ => ()
      else .error .timestampOutOfRange :=
  verify_of_read h (Timestamp.read_of_runsOver hn)

/-- A delivery whose timestamp says a time is not refused for saying none. -/
theorem Call.verify_ne_invalidTimestamp {c : Call} {s ts : String} {stamp : Int}
    (h : Headed c.headers s ts) (hr : Timestamp.read ts = .ok stamp) (fault : Timestamp.Fault) :
    c.verify ≠ .error (.invalidTimestamp fault) := by
  intro hv
  rw [verify_of_read h hr] at hv
  by_cases hnear : Near c.tolerance c.now.millis stamp
  · rw [if_pos hnear] at hv
    cases hcheck : checkSignature c.secret s ts c.body with
    | error refusal =>
      rw [hcheck] at hv
      cases hv
      rcases checkSignature_error hcheck with ⟨bad, h⟩ | h
      · cases h
      · cases h
    | ok b =>
      rw [hcheck] at hv
      cases hv
  · rw [if_neg hnear] at hv
    cases hv

/-- **Timestamps that are no integers.** Such a timestamp is refused as one
exactly if no beginning of it spells an integer out of the range. If one does,
all is as if the timestamp said the nearest integer of the range. -/
theorem invalidTimestamp_iff_not_runsOver {c : Call} {s ts : String} (h : Headed c.headers s ts)
    (hbad : ¬ IsNumeral (trimList ts.toList)) :
    ((∃ fault, c.verify = .error (.invalidTimestamp fault)) ↔
      ∀ n, ¬ RunsOver (trimList ts.toList) n) ∧
    ∀ n, RunsOver (trimList ts.toList) n → c.verify =
      if Near c.tolerance c.now.millis (clamp n) then
        (checkSignature c.secret s ts c.body).map fun _ => ()
      else .error .timestampOutOfRange := by
  refine ⟨⟨?_, ?_⟩, fun n hn => Call.verify_of_runsOver h hn⟩
  · rintro ⟨fault, hv⟩ n hn
    exact Call.verify_ne_invalidTimestamp h (Timestamp.read_of_runsOver hn) fault hv
  · intro hnone
    exact ⟨_, Call.verify_of_read_error h (Timestamp.read_of_not_numeral hbad hnone)⟩

/-- A timestamp out of the range, with a letter behind it. -/
def overrun : String := "99999999999999999999x"

theorem runsOver_overrun : RunsOver (trimList overrun.toList) 99999999999999999999 :=
  ⟨"99999999999999999999".toList, ['x'], by decide,
    .plain ⟨by decide, List.all_eq_true.mp (by decide)⟩, by decide⟩

theorem not_isNumeral_overrun : ¬ IsNumeral (trimList overrun.toList) := by
  rintro ⟨n, hn⟩
  have hx : 'x' ∈ trimList overrun.toList := by decide
  rcases hn.digit_or_sign hx with h | h | h
  · exact absurd h (by decide)
  · exact absurd h (by decide)
  · exact absurd h (by decide)

/-- A delivery with this timestamp and its right signature, at the epoch. -/
def overrunCall (tolerance : Int) : Call :=
  ⟨⟨"whsec", tolerance⟩, ⟨false, 0, 0⟩, .text "{}",
    (SignedHeaders.mk overrun (Signature.compute "whsec" overrun "{}") none none).toHeaders, .none⟩

theorem headed_overrunCall (tolerance : Int) : Headed (overrunCall tolerance).headers
    (Signature.compute "whsec" overrun "{}") overrun where
  signature := ⟨SignedHeaders.Carried.pairs.get?_signature (Signature.printing_compute _ _ _),
    (Signature.marked_compute _ _ _).ne_empty⟩
  timestamp := ⟨SignedHeaders.Carried.pairs.get?_timestamp
    (by decide), by decide⟩
  marked := Signature.marked_compute _ _ _

/-- With the check of the time it is out of range. -/
theorem verify_overrunCall_default :
    (overrunCall defaultTolerance).verify = .error .timestampOutOfRange :=
  ((invalidTimestamp_iff_not_runsOver (headed_overrunCall defaultTolerance)
    not_isNumeral_overrun).2 _ runsOver_overrun).trans (if_neg (by decide))

/-- Without it such a delivery is accepted, though its timestamp is no integer. -/
theorem verify_overrunCall_unchecked : ¬ IsNumeral (trimList overrun.toList) ∧
    Headed (overrunCall (-1)).headers (Signature.compute "whsec" overrun "{}") overrun ∧
    (overrunCall (-1)).verify = .ok () := by
  refine ⟨not_isNumeral_overrun, headed_overrunCall (-1), ?_⟩
  rw [Call.verify_of_runsOver (headed_overrunCall (-1)) runsOver_overrun, if_pos (.inl (by decide))]
  exact congrArg (Except.map fun _ => ()) (checkSignature_compute rfl)

end Verifier
end SignedHooks
