/-
# Directives of a log filter

A directive says from which level on records are shown: a level for all
records, or a level for those of a source and its parts, or a source alone, of
which all records are shown. Behind the source may stand brackets with the
name of a span of work, to which no record belongs, and in them braces with
the name of a value that a record must have. The value may have to match a
number or a pattern; then only the values of spans are meant.

The form of a directive is that of its text without the blank space around
it; but what its parts say stands in the text as it is, as many bytes from its
beginning as in the form.

Key definitions: `Log.Threshold`, `Log.ValueTest`, `Log.Directive`, `Log.Directive.read`,
`Log.Directive.applies`, `Log.Directive.outranks`.
-/
import SignedHooks.Decimal.Digits
import SignedHooks.Header.Name
import SignedHooks.Log.Pattern
import SignedHooks.Log.Record

namespace SignedHooks
namespace Log

/-- The level from which on records are shown, if any are. -/
inductive Threshold where
  /-- No records are shown. -/
  | off
  /-- Records are shown that matter at least so much. -/
  | atLeast (least : Level)
  deriving DecidableEq, Repr

/-- A record of a level is shown. -/
def Threshold.shows : Threshold → Level → Bool
  | .off, _ => false
  | .atLeast least, level => least.rank ≤ level.rank

/-- The words for the thresholds, in the order of their numbers. -/
def thresholds : List (String × Threshold) :=
  [("off", .off), ("error", .atLeast .error), ("warn", .atLeast .warn), ("info", .atLeast .info),
   ("debug", .atLeast .debug), ("trace", .atLeast .trace)]

/-- The natural number that a text spells, with an optional plus sign. -/
def natural? (cs : List Char) : Option Nat :=
  let digits := if cs.head? == some '+' then cs.drop 1 else cs
  if !digits.isEmpty && digits.all Char.isDigit then some (Decimal.ofDigits digits) else none

/-- The threshold that a word or a number says. -/
def Threshold.read? (cs : List Char) : Option Threshold :=
  match natural? cs with
  | some n => (thresholds[n]?).map (·.2)
  | none => (thresholds.find? fun t => Header.same t.1 (String.ofList cs)).map (·.2)

/-- Why a directive cannot be read. -/
inductive DirectiveFault where
  /-- It is none. -/
  | malformed
  /-- Its level is none. -/
  | badLevel
  /-- Its pattern is refused. -/
  | badPattern (fault : PatternFault)
  deriving DecidableEq, Repr

/-- The wording of a fault. -/
def DirectiveFault.message : DirectiveFault → String
  | .malformed => "invalid filter directive"
  | .badLevel =>
    "error parsing level filter: expected one of \"off\", \"error\", \"warn\", \"info\", " ++
      "\"debug\", \"trace\", or a number 0-5"
  | .badPattern fault => "invalid field filter: " ++ fault.message

/-- What a directive asks of a value. -/
structure ValueTest where
  /-- The name of the value. -/
  name : String
  /-- The value must match something. -/
  matchesValue : Bool
  deriving DecidableEq, Repr

namespace ValueTest

/-- What stands behind a sign, if one stands in front. -/
def dropSign : List Char → List Char
  | '+' :: rest => rest
  | '-' :: rest => rest
  | cs => cs

/-- An exponent, or nothing. -/
def isExponent : List Char → Bool
  | [] => true
  | c :: rest =>
    let digits := dropSign rest
    (c == 'e' || c == 'E') && !digits.isEmpty && digits.all Char.isDigit

/-- A number, with an optional sign, fraction and exponent, or one that has
only a name. -/
def isNumber (cs : List Char) : Bool :=
  let unsigned := dropSign cs
  let behind := unsigned.dropWhile Char.isDigit
  let whole := !(unsigned.takeWhile Char.isDigit).isEmpty
  ["inf", "infinity", "nan"].contains (Header.lower (String.ofList unsigned)) ||
    match behind with
    | '.' :: digits =>
      (whole || !(digits.takeWhile Char.isDigit).isEmpty) &&
        isExponent (digits.dropWhile Char.isDigit)
    | rest => whole && isExponent rest

/-- What must match is a number or a pattern that is well formed. -/
def check (cs : List Char) : Except DirectiveFault Unit :=
  if isNumber cs then .ok () else (checkPattern cs).mapError .badPattern

/-- The test that stands in braces. -/
def read (cs : List Char) : Except DirectiveFault ValueTest :=
  let name := String.ofList (cs.takeWhile (· ≠ '='))
  match cs.dropWhile (· ≠ '=') with
  | [] => .ok ⟨name, false⟩
  | _ :: rest => (check (rest.takeWhile (· ≠ '='))).map fun _ => ⟨name, true⟩

end ValueTest

/-- What a filter says about some records. -/
structure Directive where
  /-- The source that the path of a record must begin with. -/
  source : String
  /-- The directive is about spans of work, to which no record belongs. -/
  aboutSpans : Bool
  /-- What is asked of a value. -/
  test : Option ValueTest
  /-- From which level on records are shown. -/
  threshold : Threshold
  deriving DecidableEq, Repr

namespace Directive

/-- The directive that shows all records of a source. -/
def ofSource (source : String) : Directive :=
  ⟨source, false, none, .atLeast .trace⟩

/-- The directive about all records. -/
def ofThreshold (threshold : Threshold) : Directive :=
  ⟨"", false, none, threshold⟩

/-- A character that may begin a directive. -/
def isStart (c : Char) : Bool :=
  c == '-' || c == ':' || c == '_' || Text.isAlphanumeric c

/-- A character that ends a source. -/
def endsSource (c : Char) : Bool :=
  c == '=' || c == '['

/-- A character that ends the name of a span. -/
def endsSpan (c : Char) : Bool :=
  c == ']' || c == '\x7b'

/-- The bytes of some characters. -/
def width : List Char → Nat
  | [] => 0
  | c :: rest => c.utf8Size + width rest

/-- The characters without those that begin in the first so many bytes. -/
def dropBytes : Nat → List Char → List Char
  | 0, cs => cs
  | _ + 1, [] => []
  | n + 1, c :: rest => dropBytes (n + 1 - c.utf8Size) rest

/-- The characters that begin in the first so many bytes. -/
def takeBytes : Nat → List Char → List Char
  | 0, _ => []
  | _ + 1, [] => []
  | n + 1, c :: rest => c :: takeBytes (n + 1 - c.utf8Size) rest

/-- What stands in a text where `part` stands behind `front` in its form. -/
def inPlace (text front part : List Char) : List Char :=
  takeBytes (width part) (dropBytes (width front) text)

/-- The directive with the level that stands in a text behind `front`. -/
def readLevel (text front : List Char) (d : Directive) : Except DirectiveFault Directive :=
  let level := dropBytes (width front) text
  if level.isEmpty then .ok d
  else
    match Threshold.read? level with
    | some threshold => .ok { d with threshold := threshold }
    | none => .error .badLevel

/-- What stands behind the brackets: a level, or nothing. -/
def readEnd (text front : List Char) (d : Directive) : List Char → Except DirectiveFault Directive
  | [] => .ok d
  | '=' :: _ => readLevel text (front ++ ['=']) d
  | _ => .error .malformed

/-- What stands behind a brace. -/
def readTest (text front : List Char) (d : Directive) (rest : List Char) :
    Except DirectiveFault Directive :=
  let part := rest.takeWhile (· ≠ '\x7d')
  if part.isEmpty then .error .malformed
  else
    match rest.dropWhile (· ≠ '\x7d') with
    | [] => .error .malformed
    | _ :: after => do
      let test ← ValueTest.read (inPlace text front part)
      match after with
      | ']' :: behind =>
        readEnd text (front ++ part ++ ['\x7d', ']']) { d with test := some test } behind
      | _ => .error .malformed

/-- What stands behind a bracket. -/
def readSpan (text front : List Char) (d : Directive) (rest : List Char) :
    Except DirectiveFault Directive :=
  let part := rest.takeWhile fun c => !endsSpan c
  match rest.dropWhile fun c => !endsSpan c with
  | [] => .error .malformed
  | ']' :: behind => readEnd text (front ++ part ++ [']']) { d with aboutSpans := true } behind
  | sign :: behind =>
    readTest text (front ++ part ++ [sign]) { d with aboutSpans := !part.isEmpty } behind

/-- The directive that is a level or a source. -/
def readWord (cs : List Char) : Directive :=
  match Threshold.read? cs with
  | some threshold => ofThreshold threshold
  | none => ofSource (String.ofList cs)

/-- The directive that a text says. -/
def readList (text : List Char) : Except DirectiveFault Directive :=
  match Text.trimList text with
  | [] => .error .malformed
  | '[' :: rest => readSpan text ['['] (ofSource "") rest
  | first :: others =>
    let form := first :: others
    let part := form.takeWhile fun c => !endsSource c
    let source := ofSource (String.ofList (inPlace text [] part))
    if isStart first then
      match form.dropWhile fun c => !endsSource c with
      | [] => .ok (readWord text)
      | '=' :: _ => readLevel text (part ++ ['=']) source
      | sign :: rest => readSpan text (part ++ [sign]) source rest
    else .error .malformed

/-- The directive that a text says. -/
def read (text : String) : Except DirectiveFault Directive :=
  readList text.toList

/-- The directive is about records. -/
def isAboutRecords (d : Directive) : Bool :=
  !d.aboutSpans && !d.test.any (·.matchesValue)

/-- The directive applies to a record. -/
def applies (d : Directive) (r : Record) : Bool :=
  d.isAboutRecords && d.source.toList.isPrefixOf r.path.toList &&
    d.test.all fun test => r.fieldNames.contains test.name

/-- The name of the value that the first test asks for comes after that of the
second; any name comes after none. -/
def isAfter : Option ValueTest → Option ValueTest → Bool
  | some a, some b => b.name < a.name
  | some _, none => true
  | none, _ => false

/-- Of two directives that apply, the first decides whatever their order: its
source is longer, or it asks for a value and the second does not, or for one
whose name comes after. -/
def outranks (a b : Directive) : Bool :=
  b.source.length < a.source.length ||
    (a.source.length == b.source.length && isAfter a.test b.test)

end Directive
end Log
end SignedHooks
