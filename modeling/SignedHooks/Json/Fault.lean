/-
# Why a text is not the JSON that was asked for

Reading stops at the first fault. A fault knows its reason and how many bytes
were left unread; with the whole text this gives its place: the line, and the
bytes between the start of the line and the place. A fault that names an
offending byte counts that byte as read; the end of the text adds none.

Key definitions: `Json.Reason`, `Json.Fault`, `Json.placeAfter`, `Json.Error`,
`Json.Error.message`.
-/
import SignedHooks.Schema.Mismatch

namespace SignedHooks
namespace Json

/-- Why reading stopped. -/
inductive Reason where
  /-- The text ends inside an object. -/
  | endInObject
  /-- The text ends inside a list. -/
  | endInList
  /-- The text ends inside a text. -/
  | endInText
  /-- The text ends where a value should come. -/
  | endInValue
  /-- A word is neither `null` nor `true` nor `false`. -/
  | badWord
  /-- A key is followed by something else than a colon. -/
  | noColon
  /-- An item of a list is followed by something else than a comma or bracket. -/
  | noListSeparator
  /-- A member of an object is followed by something else than a comma or brace. -/
  | noMemberSeparator
  /-- There is something else where a value should come. -/
  | noValue
  /-- A number has a digit too many or too few. -/
  | badNumber
  /-- A number is too large for a double. -/
  | numberTooLarge
  /-- A backslash is followed by something else than an escape. -/
  | badEscape
  /-- A control character stands in a text. -/
  | controlCharacter
  /-- An escape is one half of a pair of surrogates, without the other half. -/
  | loneSurrogate
  /-- The first half of a pair of surrogates is followed by something else than
  an escape. -/
  | endOfSurrogate
  /-- A member of an object does not begin with a text. -/
  | keyNotText
  /-- A comma is followed by the end of a list or an object. -/
  | trailingComma
  /-- Something follows the value. -/
  | trailingText
  /-- Too many lists and objects are open at once. -/
  | tooDeep
  /-- The value is not of the type that was asked for. -/
  | mismatch (m : Mismatch)
  deriving DecidableEq, Repr

/-- The wording of a reason. -/
def Reason.message : Reason → String
  | .endInObject => "EOF while parsing an object"
  | .endInList => "EOF while parsing a list"
  | .endInText => "EOF while parsing a string"
  | .endInValue => "EOF while parsing a value"
  | .badWord => "expected ident"
  | .noColon => "expected `:`"
  | .noListSeparator => "expected `,` or `]`"
  | .noMemberSeparator => "expected `,` or `\x7d`"
  | .noValue => "expected value"
  | .badNumber => "invalid number"
  | .numberTooLarge => "number out of range"
  | .badEscape => "invalid escape"
  | .controlCharacter => "control character (\\u0000-\\u001F) found while parsing a string"
  | .loneSurrogate => "lone leading surrogate in hex escape"
  | .endOfSurrogate => "unexpected end of hex escape"
  | .keyNotText => "key must be a string"
  | .trailingComma => "trailing comma"
  | .trailingText => "trailing characters"
  | .tooDeep => "recursion limit exceeded"
  | .mismatch m => m.message

/-- The number of bytes of some characters. -/
def byteLength (cs : List Char) : Nat :=
  cs.foldl (fun n c => n + c.utf8Size) 0

/-- A stop of reading. -/
structure Fault where
  /-- Why reading stopped. -/
  reason : Reason
  /-- The bytes that were left unread. -/
  unread : Nat
  deriving DecidableEq, Repr

/-- The fault in front of `rest`. -/
def Fault.before (reason : Reason) (rest : List Char) : Fault :=
  ⟨reason, byteLength rest⟩

/-- The fault whose offending byte is the first of `rest`. -/
def Fault.within (reason : Reason) (rest : List Char) : Fault :=
  ⟨reason, byteLength rest - 1⟩

/-- The fault at the end of the text. -/
def Fault.atEnd (reason : Reason) : Fault :=
  ⟨reason, 0⟩

/-- The line and the column after so many bytes of `cs`, where `line` and
`column` are those before it. -/
def placeFrom (line column : Nat) : List Char → Nat → Nat × Nat
  | [], _ => (line, column)
  | c :: cs, bytes =>
    if bytes = 0 then (line, column)
    else if c = '\n' then placeFrom (line + 1) 0 cs (bytes - 1)
    else if bytes < c.utf8Size then (line, column + bytes)
    else placeFrom line (column + c.utf8Size) cs (bytes - c.utf8Size)

/-- The line and the column after so many bytes of a text; lines are counted
from one, and columns in bytes. -/
def placeAfter (text : List Char) (bytes : Nat) : Nat × Nat :=
  placeFrom 1 0 text bytes

/-- What is wrong with a text, and where. -/
structure Error where
  /-- What is wrong. -/
  reason : Reason
  /-- The line, counted from one. -/
  line : Nat
  /-- The bytes of the line that were read. -/
  column : Nat
  deriving DecidableEq, Repr

/-- The fault with its place in the text. -/
def Fault.locate (text : List Char) (fault : Fault) : Error :=
  let place := placeAfter text (byteLength text - fault.unread)
  ⟨fault.reason, place.1, place.2⟩

/-- The wording of an error. -/
def Error.message (e : Error) : String :=
  e.reason.message ++ " at line " ++ toString e.line ++ " column " ++ toString e.column

end Json
end SignedHooks
