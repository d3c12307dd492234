/-
# Header fields of an HTTP message

An HTTP message holds its headers under lowercase tokens, each with a list of
byte strings. A value may hold any byte but the control characters, the tab
excepted; it can be handed out as text only if all its bytes are printing
ASCII or tabs, and counts as absent otherwise.

Key definitions: `Fields`, `Fields.append`, `Fields.get?`, `Fields.visible?`.
-/
import SignedHooks.Header.Name

namespace SignedHooks

/-- The headers of an HTTP message, in the order in which they were added. -/
structure Fields where
  /-- The names, in lower case, with their values. -/
  entries : List (String × List UInt8)
  deriving DecidableEq, Repr

namespace Fields

/-- Why a header cannot stand in an HTTP message. -/
inductive Fault where
  /-- The name is no token. -/
  | invalidName
  /-- The value holds a control character. -/
  | invalidValue
  deriving DecidableEq, Repr

/-- The wording of a fault. -/
def Fault.message : Fault → String
  | .invalidName => "invalid HTTP header name"
  | .invalidValue => "failed to parse header value"

/-- A byte that may stand in a value. -/
def isValueByte (b : UInt8) : Bool :=
  b == 9 || (32 ≤ b && b != 127)

/-- A byte of a value that can be handed out as text. -/
def isVisible (b : UInt8) : Bool :=
  b == 9 || (32 ≤ b && b < 127)

/-- No headers at all. -/
def empty : Fields := ⟨[]⟩

/-- The headers with one more behind them. -/
def append (m : Fields) (name : String) (value : List UInt8) : Except Fault Fields :=
  if !Header.isToken name then .error .invalidName
  else if !value.all isValueByte then .error .invalidValue
  else .ok ⟨m.entries ++ [(Header.lower name, value)]⟩

/-- The headers with some more behind them, in order. -/
def appendAll (m : Fields) : List (String × List UInt8) → Except Fault Fields
  | [] => .ok m
  | (name, value) :: rest => do
    let longer ← m.append name value
    longer.appendAll rest

/-- A value as text, if it can be handed out so. -/
def visible? (value : List UInt8) : Option String :=
  if value.all isVisible then some (String.ofList (value.map fun b => Char.ofNat b.toNat)) else none

/-- The first value under a name, as text. -/
def get? (m : Fields) (name : String) : Option String :=
  if Header.isToken name then
    (m.entries.find? fun e => e.1 == Header.lower name).bind fun e => visible? e.2
  else none

end Fields
end SignedHooks
