/-
# Numbers in TOML

The digits of a number may be set apart by single underscores. An integer is
decimal, with an optional sign and no leading zero, or has a base of its own
and no sign. A number with a fraction or an exponent is the nearest double;
infinity and what is no number have names.

The form of an integer is checked first, and its digits only when the number
is looked at: a base without digits has the form, and so has a decimal whose
groups begin and end with digits of any base, even if tabs stand in between.
Such an integer is unreadable.

Key definitions: `Toml.joined?`, `Toml.areGroups`, `Toml.integer?`, `Toml.floating?`.
-/
import SignedHooks.Digest.Hex
import SignedHooks.Toml.Node

namespace SignedHooks
namespace Toml

/-- The digits without the underscores, of which each must stand between two
digits. -/
def joined? (isDigit : Char → Bool) : List Char → Option (List Char)
  | [] => none
  | [c] => if isDigit c then some [c] else none
  | c :: '_' :: rest => if isDigit c then (joined? isDigit rest).map (c :: ·) else none
  | c :: next :: rest =>
    if isDigit c then (joined? isDigit (next :: rest)).map (c :: ·) else none

/-- A digit of a base up to sixteen. -/
def isDigitOf (base : Nat) (c : Char) : Bool :=
  (Hex.digitValue? c).any (· < base)

/-- The number that digits of a base spell. -/
def ofBase (base : Nat) (digits : List Char) : Nat :=
  digits.foldl (fun n c => base * n + (Hex.digitValue? c).getD 0) 0

/-- What the digits of a base say, behind the mark of the base: without any
digits there is no number. -/
def ofBase? (base : Nat) (cs : List Char) : Option Node :=
  if cs.isEmpty then some .unreadable
  else (joined? (isDigitOf base) cs).map fun digits => .integer (ofBase base digits)

/-- The digits of a whole number, without a leading zero. -/
def whole? (cs : List Char) : Option (List Char) := do
  let digits ← joined? Char.isDigit cs
  if digits.length ≠ 1 && digits.head? == some '0' then none else some digits

/-- A sign that may stand in front. -/
inductive Sign where
  /-- None. -/
  | absent
  /-- A plus sign. -/
  | plus
  /-- A minus sign. -/
  | minus
  deriving DecidableEq, Repr

/-- A number with a sign. -/
def Sign.apply : Sign → Nat → Int
  | .minus, n => -(n : Int)
  | _, n => n

/-- The sign in front, and what stands behind it. -/
def splitSign : List Char → Sign × List Char
  | '-' :: rest => (.minus, rest)
  | '+' :: rest => (.plus, rest)
  | cs => (.absent, cs)

/-- What stands between the underscores. -/
def splitUnderscores : List Char → List (List Char)
  | [] => [[]]
  | c :: rest =>
    if c = '_' then [] :: splitUnderscores rest
    else
      match splitUnderscores rest with
      | [] => [[c]]
      | group :: groups => (c :: group) :: groups

/-- A digit of any base. -/
def isAnyDigit (c : Char) : Bool :=
  isDigitOf 16 c

/-- Groups behind an underscore: each begins with a digit of any base, and
each but the last ends with one. -/
def areGroups : List (List Char) → Bool
  | [] => true
  | [last] => last.head?.any isAnyDigit
  | group :: rest =>
    group.head?.any isAnyDigit && group.getLast?.any isAnyDigit && areGroups rest

/-- A character that no word with the form of a decimal integer has: one of a
fraction or an exponent, or the space between a date and a time. -/
def isForeign (c : Char) : Bool :=
  c == '.' || c == 'e' || c == 'E' || c == ' '

/-- What the digits of an integer say: nothing if not all of them are. -/
def ofDigits (sign : Sign) (digits : List Char) : Node :=
  if digits.all Char.isDigit then .integer (sign.apply (Decimal.ofDigits digits))
  else .unreadable

/-- What a decimal integer behind its sign says. Its form is checked in
groups: where an underscore stands, what stands between the digits at the
ends of the groups is not looked at before the number is. -/
def decimal? (sign : Sign) (cs : List Char) : Option Node :=
  match cs.takeWhile Char.isDigit, cs.dropWhile Char.isDigit with
  | digits, [] => (whole? digits).map (ofDigits sign)
  | digits, '_' :: rest =>
    let groups := splitUnderscores rest
    if digits.isEmpty || digits.head? == some '0' then none
    else if rest.any isForeign || !areGroups groups then none
    else some (ofDigits sign (digits ++ groups.flatten))
  | _, _ => none

/-- The integer that a word spells. -/
def integer? : List Char → Option Node
  | '0' :: 'x' :: rest => ofBase? 16 rest
  | '0' :: 'o' :: rest => ofBase? 8 rest
  | '0' :: 'b' :: rest => ofBase? 2 rest
  | cs =>
    let (sign, unsigned) := splitSign cs
    decimal? sign unsigned

/-- A letter that begins an exponent. -/
def isExponentMark (c : Char) : Bool :=
  c == 'e' || c == 'E'

/-- The exponent behind its letter. -/
def exponent? (cs : List Char) : Option Int :=
  let (sign, unsigned) := splitSign cs
  (joined? Char.isDigit unsigned).map fun digits => sign.apply (Decimal.ofDigits digits)

/-- The double of the digits before and behind the point, and the exponent. -/
def ofParts (negative : Bool) (whole fraction : List Char) (exponent : Int) : Floating :=
  match Binary64.ofDecimal negative (Decimal.ofDigits (whole ++ fraction))
      (exponent - fraction.length) with
  | some x => .finite x
  | none => .tooLarge

/-- The number with a fraction or an exponent, or both. -/
def fractional? (sign : Sign) (cs : List Char) : Option Floating := do
  let front := cs.takeWhile fun c => !isExponentMark c
  let whole ← whole? (front.takeWhile (· ≠ '.'))
  let fraction ← match front.dropWhile (· ≠ '.') with
    | [] => some []
    | _ :: digits => joined? Char.isDigit digits
  let exponent ← match cs.dropWhile fun c => !isExponentMark c with
    | [] => if fraction.isEmpty then none else some 0
    | _ :: digits => exponent? digits
  return ofParts (sign == .minus) whole fraction exponent

/-- The number that is no integer and that a word spells. -/
def floating? (cs : List Char) : Option Floating :=
  let (sign, unsigned) := splitSign cs
  if unsigned = ['i', 'n', 'f'] then some (.infinite (sign == .minus))
  else if unsigned = ['n', 'a', 'n'] then some .notANumber
  else fractional? sign unsigned

end Toml
end SignedHooks
