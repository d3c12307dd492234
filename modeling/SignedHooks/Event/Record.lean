/-
# Reading records from JSON

A record has fields of known names and types, some of which must be there.
It is read from an object: its members are looked at in their order, and the
first with a value of the wrong type is the fault; then the first field that
is missing, in the order of the record. Members of other names are not looked
at, and an optional field may be null instead of absent.

A record may also be read from a list of its fields in their order, of which
optional ones may be cut off at the end: this is the object that gives these
names to the elements.

Key definitions: `Event.Field`, `Event.Field.required`, `Event.Field.optional`,
`Event.Record`, `Event.Record.ofObject`, `Event.Record.ofList`, `Event.Record.read`.
-/
import SignedHooks.Decimal.Signed64
import SignedHooks.Json.Reader

namespace SignedHooks
namespace Event

open Json (Value Object Number)

/-- The mismatch of a value of another type. -/
def wrongType (v : Value) (wanted : String) : Mismatch :=
  .wrongType v.found wanted

/-- A text. -/
def readText : Value → Except Mismatch String
  | .text s => .ok s
  | v => .error (wrongType v "a string")

/-- A truth value. -/
def readFlag : Value → Except Mismatch Bool
  | .boolean b => .ok b
  | v => .error (wrongType v "a boolean")

/-- An integer of 64 bits. -/
def readInteger : Value → Except Mismatch Int
  | .number (.integer n) =>
    if Signed64.Fits n then .ok n else .error (.wrongValue (.integer n) "i64")
  | v => .error (wrongType v "i64")

/-- A list of texts. -/
def readTexts : Value → Except Mismatch (List String)
  | .array items => items.mapM readText
  | v => .error (wrongType v "a sequence")

/-- An object. -/
def readMembers : Value → Except Mismatch Object
  | .object m => .ok m
  | v => .error (wrongType v "a map")

/-- Any value. -/
def readAny (v : Value) : Except Mismatch Value :=
  .ok v

/-- A field of a record: its name, and how its value is read. -/
structure Field (α : Type) where
  /-- The name. -/
  name : String
  /-- How the value is read. -/
  read : Value → Except Mismatch α

/-- What must hold of the value under a name. -/
structure Check where
  /-- The name. -/
  name : String
  /-- The value is accepted, or the mismatch. -/
  accept : Value → Except Mismatch Unit

namespace Field

variable {α : Type}

/-- The value of a field that must be there. -/
def required (f : Field α) (m : Object) : Except Mismatch α :=
  match m.get? f.name with
  | none => .error (.missingField f.name)
  | some v => f.read v

/-- The value of a field that may be absent or null. -/
def optional (f : Field α) (m : Object) : Except Mismatch (Option α) :=
  match m.get? f.name with
  | none => .ok none
  | some .null => .ok none
  | some v => (f.read v).map some

/-- The check of a field that must be there. -/
def must (f : Field α) : Check :=
  ⟨f.name, fun v => (f.read v).map fun _ => ()⟩

/-- The check of a field that may be absent or null. -/
def may (f : Field α) : Check :=
  ⟨f.name, fun v =>
    match v with
    | .null => .ok ()
    | other => (f.read other).map fun _ => ()⟩

end Field

/-- The first member whose value its check does not accept is the fault. -/
def checkMembers (checks : List Check) : Object → Except Mismatch Unit
  | [] => .ok ()
  | e :: rest =>
    match checks.find? fun c => c.name == e.1 with
    | none => checkMembers checks rest
    | some c => do
      c.accept e.2
      checkMembers checks rest

/-- A record type. -/
structure Record (α : Type) where
  /-- The name of the record in messages. -/
  title : String
  /-- The checks of its fields, in their order, those that must be there first. -/
  checks : List Check
  /-- How many fields must be there. -/
  mandatory : Nat
  /-- The record of an object whose members are of the right types. -/
  build : Object → Except Mismatch α

namespace Record

variable {α : Type}

/-- The record that an object says. -/
def ofObject (r : Record α) (m : Object) : Except Mismatch α := do
  checkMembers r.checks m
  r.build m

/-- The elements of a list under the names of the fields. -/
def named (r : Record α) (items : List Value) : Object :=
  (r.checks.map (·.name)).zip items

/-- The record that a list says. -/
def ofList (r : Record α) (items : List Value) : Except Mismatch α := do
  checkMembers r.checks (r.named items)
  if items.length < r.mandatory then
    .error (.tooShort items.length r.title r.checks.length)
  else if r.checks.length < items.length then .error (.tooLong items.length)
  else r.build (r.named items)

/-- The record that a value says, as an object or as a list. -/
def read (r : Record α) : Value → Except Mismatch α
  | .object m => r.ofObject m
  | .array items => r.ofList items
  | v => .error (wrongType v (recordNamed r.title))

/-- The record that a value says, as an object only. -/
def readObject (r : Record α) : Value → Except Mismatch α
  | .object m => r.ofObject m
  | v => .error (wrongType v (recordNamed r.title))

end Record

/-- The member of a field that must be there. -/
def member (name : String) (value : Value) : Object :=
  [(name, value)]

/-- The member of a field that may be absent. -/
def member? (name : String) (value : Option Value) : Object :=
  match value with
  | none => []
  | some v => [(name, v)]

/-- An integer as a value. -/
def ofInteger (n : Int) : Value :=
  .number (.integer n)

end Event
end SignedHooks
