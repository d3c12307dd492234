/-
# Numbers in JSON

A number is an integer without leading zeros, with an optional fraction and an
optional exponent. One without either that fits 64 bits is exact. All others
are doubles: as many digits are taken for the significand as fit 64 bits
(`Json.fit`), the others only count as places, and significand and power of ten
are rounded one after another (`Binary64.ofParts`), so the double need not be
the nearest one. A number whose double is not finite is refused. The place of
that fault is behind the number, or, if the exponent has more than 31 bits,
behind the digit that takes it there; then nothing but a significand of zero and
a minus in front of the exponent are looked at.

Key definitions: `Json.fit`, `Json.readNumber`, `Json.Number.write`, `Json.layout`.
-/
import SignedHooks.Decimal.Shortest
import SignedHooks.Json.Fault
import SignedHooks.Json.Value

namespace SignedHooks
namespace Json

/-- Doubles are written out around a point from 1e-5 up to below 1e16, and of
two equally near decimals the one that ends with an even digit is taken. -/
def layout : Decimal.Layout :=
  ⟨.toEven, fun e => -5 ≤ e && e < 16⟩

/-- The greatest unsigned integer of 64 bits. -/
def greatestUnsigned : Nat := 18446744073709551615

/-- The greatest exponent that is read to its end. -/
def greatestPower : Nat := 2147483647

/-- The digits in front of a list, and what stands behind them. -/
def spanDigits (cs : List Char) : List Char × List Char :=
  (cs.takeWhile Char.isDigit, cs.dropWhile Char.isDigit)

/-- The number that `n` becomes with the digits that fit 64 bits put behind it, and
how many are left. -/
def fit (n : Nat) : List Char → Nat × Nat
  | [] => (n, 0)
  | c :: cs =>
    let m := 10 * n + Decimal.digitValue c
    if greatestUnsigned < m then (n, cs.length + 1) else fit m cs

/-- The double with a sign. -/
def signed (negative : Bool) (x : Binary64) : Number :=
  .double { x with negative }

/-- The double of a sign, a significand and a power of ten, in front of `rest`. -/
def readDouble (negative : Bool) (significand : Nat) (power : Int) (rest : List Char) :
    Except Fault (Number × List Char) :=
  match Binary64.ofParts significand power with
  | some x => .ok (signed negative x, rest)
  | none => .error (.before .numberTooLarge rest)

/-- How many of the digits of an exponent are read until it is too large, if
it is. -/
def excess? (exponent : List Char) : Option Nat :=
  (List.range (exponent.length + 1)).find? fun k =>
    greatestPower < Decimal.ofDigits (exponent.take k)

/-- The number whose exponent has the digits `exponent`. -/
def readPower (negative : Bool) (significand : Nat) (power : Int) (negativePower : Bool)
    (exponent rest : List Char) : Except Fault (Number × List Char) :=
  match excess? exponent with
  | some k =>
    if significand ≠ 0 ∧ negativePower = false then
      .error (.before .numberTooLarge (exponent.drop k ++ rest))
    else .ok (.double (.zero negative), rest)
  | none =>
    let e : Int := Decimal.ofDigits exponent
    readDouble negative significand (if negativePower then power - e else power + e) rest

/-- The number whose exponent stands in front of a list. -/
def readExponent (negative : Bool) (significand : Nat) (power : Int) (cs : List Char) :
    Except Fault (Number × List Char) :=
  let negativePower := cs.head? == some '-'
  let unsigned := if negativePower || cs.head? == some '+' then cs.drop 1 else cs
  match spanDigits unsigned with
  | ([], []) => .error (.atEnd .endInValue)
  | ([], other) => .error (.within .badNumber other)
  | (exponent, rest) => readPower negative significand power negativePower exponent rest

/-- The number whose digits before the point are read, where `left` of them did not
fit. -/
def readFraction (negative : Bool) (significand left : Nat) (cs : List Char) :
    Except Fault (Number × List Char) :=
  match spanDigits cs with
  | ([], []) => .error (.atEnd .endInValue)
  | ([], other) => .error (.within .badNumber other)
  | (fraction, rest) =>
    let fitted := fit significand fraction
    let power : Int := left + fitted.2 - fraction.length
    match rest with
    | 'e' :: behind => readExponent negative fitted.1 power behind
    | 'E' :: behind => readExponent negative fitted.1 power behind
    | _ => readDouble negative fitted.1 power rest

/-- The integer `n`, or the double next to it if it is below the range or minus
zero. -/
def readInteger (negative : Bool) (n : Nat) (rest : List Char) : Number × List Char :=
  if negative then
    if 0 < n ∧ n ≤ 9223372036854775808 then (.integer (-n), rest)
    else (signed negative (.nearest false n 1), rest)
  else (.integer n, rest)

/-- What follows the digits before the point. -/
def readWhole (negative : Bool) (whole rest : List Char) : Except Fault (Number × List Char) :=
  let fitted := fit 0 whole
  match rest with
  | '.' :: behind => readFraction negative fitted.1 fitted.2 behind
  | 'e' :: behind => readExponent negative fitted.1 fitted.2 behind
  | 'E' :: behind => readExponent negative fitted.1 fitted.2 behind
  | _ =>
    if fitted.2 = 0 then .ok (readInteger negative fitted.1 rest)
    else readDouble negative fitted.1 fitted.2 rest

/-- The number in front of a list, behind its sign. -/
def readNumber (negative : Bool) (cs : List Char) : Except Fault (Number × List Char) :=
  match spanDigits cs with
  | ([], []) => .error (.atEnd .endInValue)
  | ([], other) => .error (.within .badNumber other)
  | ('0' :: digit :: digits, rest) => .error (.within .badNumber (digit :: digits ++ rest))
  | (whole, rest) => readWhole negative whole rest

/-- The text of a number. -/
def Number.write : Number → List Char
  | .integer n => (toString n).toList
  | .double x => layout.write x

/-- A number as a message names it. -/
def Number.found : Number → Found
  | .integer n => .integer n
  | .double x => .floating (String.ofList (layout.write x))

end Json
end SignedHooks
