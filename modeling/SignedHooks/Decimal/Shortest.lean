/-
# The shortest decimal of a double

The reals that are read as one double form an interval around it, whose ends
belong to it if the significand is even. A double is written with the fewest
digits that name a point of its interval, and of those the nearest to it; a
rule for ties chooses between two equally near ones. Only the two neighbours
of the double on each decimal grid need be looked at: if a grid has a point
in the interval, one of these is.

How the digits are set is a layout: the rule for ties, and for which powers of
ten they are written out around a point, and with an exponent otherwise.

Key definitions: `Decimal.Tie`, `Decimal.nearestOn`, `Decimal.shortest`,
`Decimal.Layout`, `Decimal.Layout.write`.
-/
import SignedHooks.Decimal.Binary64

namespace SignedHooks
namespace Decimal

/-- The lower end of the interval of `m * 2 ^ e`, in quarters of `2 ^ e`: half
a step below, or a quarter where the doubles below are twice as close. -/
def lowerEnd (m : Nat) (e : Int) : Nat :=
  if 2 * m = Binary64.significandLimit ∧ Binary64.leastExponent < e then 4 * m - 1 else 4 * m - 2

/-- The upper end of the interval of a double, in quarters of its step. -/
def upperEnd (m : Nat) : Nat :=
  4 * m + 2

/-- What a quarter of `2 ^ e` counts where a point of the grid of `10 ^ p`
counts `gridStep e p`. -/
def quarterStep (e p : Int) : Nat :=
  Nat.pow 2 (e - 2).toNat * Nat.pow 10 (-p).toNat

/-- What a point of the grid of `10 ^ p` counts. -/
def gridStep (e p : Int) : Nat :=
  Nat.pow 2 (2 - e).toNat * Nat.pow 10 p.toNat

/-- The point `c * 10 ^ p` is in the interval of `m * 2 ^ e`. -/
def within (m : Nat) (e p : Int) (c : Nat) : Bool :=
  let low := lowerEnd m e * quarterStep e p
  let high := upperEnd m * quarterStep e p
  let point := c * gridStep e p
  if m % 2 = 0 then low ≤ point && point ≤ high else low < point && point < high

/-- Which of two equally near neighbours is taken. -/
inductive Tie where
  /-- The even one. -/
  | toEven
  /-- The greater one. -/
  | up
  deriving DecidableEq, Repr

/-- The lower one of two equally near neighbours is taken. -/
def Tie.takesLower : Tie → Nat → Bool
  | .toEven, below => below % 2 == 0
  | .up, _ => false

/-- The two points of the grid of `10 ^ p` around `m * 2 ^ e`, the nearer one
first. -/
def neighbours (tie : Tie) (m : Nat) (e p : Int) : List Nat :=
  let value := 4 * m * quarterStep e p
  let below := value / gridStep e p
  let middle := (2 * below + 1) * gridStep e p
  if 2 * value < middle ∨ 2 * value = middle ∧ tie.takesLower below then [below, below + 1]
  else [below + 1, below]

/-- The point of the grid of `10 ^ p` that is nearest to `m * 2 ^ e`, if the
interval holds one. -/
def nearestOn (tie : Tie) (m : Nat) (e p : Int) : Option Nat :=
  (neighbours tie m e p).find? (within m e p)

/-- A power of ten below the step of every double. -/
def finestPlace : Int := -330

/-- How many digits `m * 2 ^ e` has before the point, where zeros behind the
point count as fewer than none. -/
def places (m : Nat) (e : Int) : Int :=
  (digitsOf (4 * m * quarterStep e finestPlace / gridStep e finestPlace)).length + finestPlace

/-- The most digits that a double needs. -/
def mostDigits : Nat := 17

/-- The digits of `m * 2 ^ e`, and the power of ten of the first. -/
def shortest (tie : Tie) (m : Nat) (e : Int) : List Char × Int :=
  let grids := (List.range mostDigits).map fun (i : Nat) => places m e - i - 1
  let found := grids.findSome? fun p => (nearestOn tie m e p).map fun c => (digitsOf c, p)
  match found with
  | some (digits, p) => ((digits.reverse.dropWhile (· == '0')).reverse, p + digits.length - 1)
  | none => (['0'], 0)

/-- How digits are set. -/
structure Layout where
  /-- Which of two equally near decimals is written. -/
  tie : Tie
  /-- The power of ten of the first digit is one for which digits are written
  out around a point. -/
  positional : Int → Bool

namespace Layout

/-- Digits written out around a point. -/
def point (digits : List Char) (e : Int) : List Char :=
  if e < 0 then ['0', '.'] ++ List.replicate (-e - 1).toNat '0' ++ digits
  else
    let whole := e.toNat + 1
    if digits.length ≤ whole then
      digits ++ List.replicate (whole - digits.length) '0' ++ ['.', '0']
    else digits.take whole ++ ['.'] ++ digits.drop whole

/-- Digits with a power of ten. -/
def power (digits : List Char) (e : Int) : List Char :=
  let fraction := if digits.length ≤ 1 then [] else '.' :: digits.drop 1
  digits.take 1 ++ fraction ++ ['e', if e < 0 then '-' else '+'] ++ digitsOf e.natAbs

/-- The text of a double. -/
def write (layout : Layout) (x : Binary64) : List Char :=
  let written := if x.significand = 0 then (['0'], 0) else shortest layout.tie x.significand x.exponent
  let text :=
    if layout.positional written.2 then point written.1 written.2 else power written.1 written.2
  if x.negative then '-' :: text else text

end Layout

end Decimal
end SignedHooks
