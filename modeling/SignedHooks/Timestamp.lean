/-
# Timestamps

What the timestamp header says: a decimal integer, milliseconds since the
epoch, that may be surrounded by blank space. A number beyond 64 bits counts
as the nearest one within; anything else that is no decimal integer is a
fault.

Key definitions: `Timestamp.read`, `Timestamp.write`, `Timestamp.Fault.message`.
-/
import SignedHooks.Decimal.Signed64
import SignedHooks.Text.Blank

namespace SignedHooks
namespace Timestamp

/-- Why a header is no timestamp. -/
inductive Fault where
  /-- There is nothing but blank space. -/
  | empty
  /-- There is a character that is no digit, or no digit at all. -/
  | notDecimal
  deriving DecidableEq, Repr

/-- The wording of a fault. -/
def Fault.message : Fault → String
  | .empty => "cannot parse integer from empty string"
  | .notDecimal => "invalid digit found in string"

/-- The milliseconds that a header says. -/
def read (header : String) : Except Fault Int :=
  match Signed64.read (Text.trimList header.toList) with
  | .ok n => .ok n
  | .error .tooLarge => .ok Signed64.greatest
  | .error .tooSmall => .ok Signed64.least
  | .error .empty => .error .empty
  | .error .notADigit => .error .notDecimal

/-- The header that says so many milliseconds. -/
def write (millis : Int) : String :=
  let digits := Decimal.digitsOf millis.natAbs
  String.ofList (if millis < 0 then '-' :: digits else digits)

end Timestamp
end SignedHooks
