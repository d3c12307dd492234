/-
# Integers of 64 bits

The integers from -2^63 to 2^63 - 1, and how one is read from its decimal
digits. A reader goes from left to right and stops at the first problem: a
character that is no digit, or a digit that takes the number out of the
range. So what stands behind a digit that is too much is never looked at.

Key definitions: `Signed64.Fits`, `Signed64.clamp`, `Signed64.read`, `Signed64.gap`.
Key theorems: `Signed64.fits_clamp`, `Signed64.clamp_of_fits`, `Signed64.clamp_mono`,
`Signed64.gap_eq_natAbs`.
-/
import SignedHooks.Decimal.Digits

namespace SignedHooks
namespace Signed64

/-- The least integer of the range. -/
def least : Int := -9223372036854775808

/-- The greatest integer of the range. -/
def greatest : Int := 9223372036854775807

/-- The integer is in the range. -/
def Fits (n : Int) : Prop :=
  least ≤ n ∧ n ≤ greatest

instance : DecidablePred Fits := fun n =>
  inferInstanceAs (Decidable (least ≤ n ∧ n ≤ greatest))

/-- The integer of the range that is nearest. -/
def clamp (n : Int) : Int :=
  if n < least then least else if greatest < n then greatest else n

/-- Why a text is no integer of the range. -/
inductive Fault where
  /-- There is nothing to read. -/
  | empty
  /-- There is a character that is no digit, or no digit at all behind a sign. -/
  | notADigit
  /-- The number is above the range. -/
  | tooLarge
  /-- The number is below the range. -/
  | tooSmall
  deriving DecidableEq, Repr

/-- The number that `cs` continues, where `n` has been read of it; a number above
`limit` is the fault `beyond`. -/
def count (limit : Nat) (beyond : Fault) (n : Nat) : List Char → Except Fault Nat
  | [] => .ok n
  | c :: cs =>
    if c.isDigit then
      let m := 10 * n + Decimal.digitValue c
      if limit < m then .error beyond else count limit beyond m cs
    else .error .notADigit

/-- The integer that digits without a sign, or behind a plus, spell. -/
def countUp (cs : List Char) : Except Fault Int :=
  (count greatest.natAbs .tooLarge 0 cs).map fun n => n

/-- The integer that digits behind a minus spell. -/
def countDown (cs : List Char) : Except Fault Int :=
  (count least.natAbs .tooSmall 0 cs).map fun n => -n

/-- The integer that a text spells: an optional sign and at least one digit. -/
def read : List Char → Except Fault Int
  | [] => .error .empty
  | ['+'] => .error .notADigit
  | ['-'] => .error .notADigit
  | '+' :: cs => countUp cs
  | '-' :: cs => countDown cs
  | cs => countUp cs

/-- How many integers a word of 64 bits can tell apart. -/
def wordSize : Int := 18446744073709551616

/-- How far two integers of the range are apart, in the unsigned arithmetic of 64
bits: the lesser one is taken from the greater one, modulo the size of a word. -/
def gap (m n : Int) : Nat :=
  if m < n then ((n - m) % wordSize).toNat else ((m - n) % wordSize).toNat

theorem fits_clamp (n : Int) : Fits (clamp n) := by
  unfold clamp Fits least greatest
  split
  · omega
  · split <;> omega

theorem clamp_of_fits {n : Int} (h : Fits n) : clamp n = n := by
  unfold Fits at h
  unfold clamp
  split
  · omega
  · split <;> omega

/-- Clamping keeps the order. -/
theorem clamp_mono {m n : Int} (h : m ≤ n) : clamp m ≤ clamp n := by
  unfold clamp least greatest
  split <;> split <;> (try split) <;> omega

/-- Within the range nothing wraps around: the unsigned distance is the true one. -/
theorem gap_eq_natAbs {m n : Int} (hm : Fits m) (hn : Fits n) : gap m n = (m - n).natAbs := by
  unfold Fits least greatest at hm hn
  unfold gap wordSize
  split <;> omega

end Signed64
end SignedHooks
