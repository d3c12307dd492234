/-
# Instants

A reading of a clock: so many seconds and nanoseconds before or after the
epoch. Deliveries are dated in milliseconds: the fraction of a millisecond
is dropped, on either side of the epoch, and an instant too far away for an
integer of 64 bits counts as the last one on its side.

Key definitions: `Instant`, `Instant.millis`, `Instant.offset`, `Instant.ofMillis`,
`Instant.advance`.
Key theorems: `Instant.fits_millis`, `Instant.offset_ofOffset`.
-/
import SignedHooks.Decimal.Signed64

namespace SignedHooks

/-- A point in time. -/
structure Instant where
  /-- The instant lies before the epoch. -/
  beforeEpoch : Bool
  /-- The seconds between the instant and the epoch. -/
  seconds : Nat
  /-- The nanoseconds between them, besides the seconds. -/
  nanos : Nat
  deriving DecidableEq, Repr

namespace Instant

/-- The whole milliseconds between an instant and the epoch. -/
def distance (t : Instant) : Nat :=
  t.seconds * 1000 + t.nanos / 1000000

/-- The milliseconds from the epoch to an instant. -/
def millis (t : Instant) : Int :=
  if t.beforeEpoch then
    if (t.distance : Int) ≤ Signed64.greatest then -t.distance else Signed64.least
  else
    if (t.distance : Int) ≤ Signed64.greatest then t.distance else Signed64.greatest

/-- The nanoseconds from the epoch to an instant. -/
def offset (t : Instant) : Int :=
  let n : Int := t.seconds * 1000000000 + t.nanos
  if t.beforeEpoch then -n else n

/-- The instant so many nanoseconds after the epoch. -/
def ofOffset (n : Int) : Instant :=
  ⟨decide (n < 0), n.natAbs / 1000000000, n.natAbs % 1000000000⟩

/-- The instant so many milliseconds after the epoch. -/
def ofMillis (n : Int) : Instant :=
  ofOffset (n * 1000000)

/-- The instant so many milliseconds later. -/
def advance (t : Instant) (millis : Int) : Instant :=
  ofOffset (t.offset + millis * 1000000)

/-- The milliseconds of an instant are in the range of the header. -/
theorem fits_millis (t : Instant) : Signed64.Fits t.millis := by
  unfold millis Signed64.Fits Signed64.least Signed64.greatest
  split <;> split <;> omega

theorem offset_ofOffset (n : Int) : (ofOffset n).offset = n := by
  simp only [ofOffset, offset, decide_eq_true_eq]
  split <;> omega

end Instant
end SignedHooks
