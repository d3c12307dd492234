/-
# Floating point numbers of 64 bits

A finite double is a sign, a significand below 2^53 and a power of two. A
quotient is rounded to the double nearest to it, of two equally near ones to
that with the even significand.

A decimal is read in one of two ways. It may be rounded once, to the double
nearest to it (`Binary64.ofDecimal`). Or its digits and its power of ten are
rounded first and then their product or quotient (`Binary64.ofParts`), which
may be another double. A decimal too large for any double is refused, in the
second way one whose product is too large.

Key definitions: `Binary64`, `Binary64.nearest`, `Binary64.ofDecimal`,
`Binary64.ofParts`.
Key theorems: `Binary64.nearest_zero`.
-/
import SignedHooks.Decimal.Digits

namespace SignedHooks

/-- The finite number that is plus or minus `significand` times two to the
power `exponent`. -/
structure Binary64 where
  /-- The number has a minus sign. -/
  negative : Bool
  /-- The significand, below 2^53. -/
  significand : Nat
  /-- The power of two. -/
  exponent : Int
  deriving DecidableEq, Repr

namespace Binary64

/-- The least power of two. -/
def leastExponent : Int := -1074

/-- The greatest power of two. -/
def greatestExponent : Int := 971

/-- The first significand that is too large, two to the power 53. -/
def significandLimit : Nat := 9007199254740992

/-- Zero with a sign. -/
def zero (negative : Bool) : Binary64 :=
  ⟨negative, 0, leastExponent⟩

/-- The integer nearest to a quotient, of two equally near ones the even one. -/
def roundQuotient (num den : Nat) : Nat :=
  let q := num / den
  let r := num % den
  if 2 * r < den then q
  else if den < 2 * r then q + 1
  else if q % 2 = 0 then q else q + 1

/-- The quotient `num / den` divided by two to the power `e`, as a quotient. -/
def scale (num den : Nat) (e : Int) : Nat × Nat :=
  (num * Nat.pow 2 (-e).toNat, den * Nat.pow 2 e.toNat)

/-- The power of two of the double that is next to a quotient. -/
def exponentOf (num den : Nat) : Int :=
  let guess : Int := (num.log2 : Int) - den.log2 - 53
  let scaled := scale num den guess
  let e := if significandLimit ≤ scaled.1 / scaled.2 then guess + 1 else guess
  max e leastExponent

/-- The double nearest to a quotient, where no exponent is too great. -/
def nearest (negative : Bool) (num den : Nat) : Binary64 :=
  if num = 0 then zero negative
  else
    let e := exponentOf num den
    let scaled := scale num den e
    let m := roundQuotient scaled.1 scaled.2
    if m = significandLimit then ⟨negative, m / 2, e + 1⟩ else ⟨negative, m, e⟩

/-- The number, unless its exponent is too great for a double. -/
def finite? (x : Binary64) : Option Binary64 :=
  if greatestExponent < x.exponent then none else some x

/-- The double nearest to a quotient, if there is one. -/
def ofRatio (negative : Bool) (num den : Nat) : Option Binary64 :=
  (nearest negative num den).finite?

/-- The number without its sign is the quotient of this and `denominator`. -/
def numerator (x : Binary64) : Nat :=
  x.significand * Nat.pow 2 x.exponent.toNat

/-- What `numerator` is divided by. -/
def denominator (x : Binary64) : Nat :=
  Nat.pow 2 (-x.exponent).toNat

/-- The product, rounded; its exponent may be too great. -/
def mul (x y : Binary64) : Binary64 :=
  nearest (x.negative != y.negative) (x.numerator * y.numerator) (x.denominator * y.denominator)

/-- The quotient, rounded; its exponent may be too great. -/
def div (x y : Binary64) : Binary64 :=
  nearest (x.negative != y.negative) (x.numerator * y.denominator) (x.denominator * y.numerator)

/-- The power of ten that is rounded to a double. -/
def tenPow (n : Nat) : Binary64 :=
  nearest false (Nat.pow 10 n) 1

/-- The greatest power of ten that is below the greatest double. -/
def greatestTen : Nat := 308

/-- The number divided by ten to the power `n`, where up to `steps` times the greatest
power of ten is taken out first, each time with a rounding. -/
def divTen (x : Binary64) (n : Nat) : Nat → Binary64
  | 0 => x.div (tenPow n)
  | steps + 1 =>
    if x.significand = 0 then x
    else divTen (x.div (tenPow greatestTen)) (n - greatestTen) steps

/-- The double of `significand` times ten to the power `power` that comes out if both are
rounded first and so is their product or quotient, if it is finite. -/
def ofParts (significand : Nat) (power : Int) : Option Binary64 :=
  let x := nearest false significand 1
  if power < 0 then some (x.divTen power.natAbs ((power.natAbs - 1) / greatestTen))
  else if power ≤ greatestTen then (x.mul (tenPow power.toNat)).finite?
  else if x.significand = 0 then some x
  else none

/-- Every decimal of this many digits before the point is too large. -/
def tooManyDigits : Int := 310

/-- Every decimal with so many zeros behind the point is nearest to zero. -/
def tooManyZeros : Int := -330

/-- The double nearest to `digits` times ten to the power `exponent`, if there
is one. -/
def ofDecimal (negative : Bool) (digits : Nat) (exponent : Int) : Option Binary64 :=
  let places := (Decimal.digitsOf digits).length + exponent
  if digits = 0 then some (zero negative)
  else if tooManyDigits ≤ places then none
  else if places ≤ tooManyZeros then some (zero negative)
  else ofRatio negative (digits * Nat.pow 10 exponent.toNat) (Nat.pow 10 (-exponent).toNat)

@[simp] theorem nearest_zero (negative : Bool) (den : Nat) :
    nearest negative 0 den = zero negative := by
  simp [nearest]

end Binary64
end SignedHooks
