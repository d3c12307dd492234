/-
# Settings files

A settings file is a TOML document with one section, `webhook`, which may say
a secret and a tolerance. Nothing else may be in it. The names of a table are
looked at in their order, and the first that is not known or has a value of
the wrong type is the mismatch. The section may also be a list of its two
fields, of which both must be there.

Key definitions: `Settings.File`, `Settings.File.ofDocument`, `Settings.File.read`,
`Settings.Fault`, `Settings.File.template`.
-/
import SignedHooks.Decimal.Shortest
import SignedHooks.Decimal.Signed64
import SignedHooks.Schema.Mismatch
import SignedHooks.Toml.Excerpt
import SignedHooks.Toml.Reader

namespace SignedHooks
namespace Settings

open Toml (Node Span Entries Floating)

/-- What a settings file says. -/
structure File where
  /-- The secret. -/
  secret : Option String
  /-- The tolerance in milliseconds. -/
  tolerance : Option Int
  deriving DecidableEq, Repr

/-- A mismatch, or a number that cannot be held, with its place. -/
inductive Misfit where
  /-- The value at a place is not what was asked for. -/
  | mismatch (span : Span) (m : Mismatch)
  /-- The number at a place is too large to be looked at, or spells none. -/
  | noNumber (span : Span)
  deriving DecidableEq, Repr

/-- The name of the section in messages. -/
def sectionTitle : String := "WebhookSection"

/-- The field of the root. -/
def sectionName : String := "webhook"

/-- The field of the secret. -/
def secretName : String := "secret"

/-- The field of the tolerance. -/
def toleranceName : String := "tolerance_ms"

/-- The one field of a date, a time or both. -/
def momentName : String := "$__toml_private_datetime"

/-- The first integer that is too large for 64 bits without a sign. -/
def unsigned64Limit : Int := 18446744073709551616

/-- The first integer that is too large for 128 bits with a sign. -/
def signed128Limit : Int := 170141183460469231731687303715884105728

/-- The first integer that is too large for 128 bits without a sign. -/
def unsigned128Limit : Int := 340282366920938463463374607431768211456

/-- An integer as a message names it, if it can be held. -/
def foundInteger? (n : Int) : Option Found :=
  if Signed64.least ≤ n && n < unsigned64Limit then some (.integer n)
  else if -signed128Limit ≤ n && n < signed128Limit then some (.wideInteger n "i128")
  else if 0 ≤ n && n < unsigned128Limit then some (.wideInteger n "u128")
  else none

/-- Doubles are always written out around a point, and of two equally near
decimals the one farther from zero is taken. -/
def floatLayout : Decimal.Layout :=
  ⟨.up, fun _ => true⟩

/-- A number as a message names it, if it can be held. -/
def foundFloating? : Floating → Option Found
  | .finite x => some (.floating (String.ofList (floatLayout.write x)))
  | .infinite negative => some (.floating (if negative then "-inf" else "inf"))
  | .notANumber => some (.floating "NaN")
  | .tooLarge => none

/-- A node as a message names it, if it can be held. -/
def found? : Node → Option Found
  | .text s => some (.text s)
  | .integer n => foundInteger? n
  | .unreadable => none
  | .floating x => foundFloating? x
  | .boolean b => some (.boolean b)
  | .moment => some .map
  | .array _ => some .sequence
  | .tables _ => some .sequence
  | .table _ _ => some .map

/-- The misfit of a value of another type. -/
def wrongType (wanted : String) (value : Span × Node) : Misfit :=
  match found? value.2 with
  | some found => .mismatch value.1 (.wrongType found wanted)
  | none => .noNumber value.1

/-- A text. -/
def readText (value : Span × Node) : Except Misfit String :=
  match value.2 with
  | .text s => .ok s
  | _ => .error (wrongType "a string" value)

/-- An integer of 64 bits. -/
def readInteger (value : Span × Node) : Except Misfit Int :=
  match value.2 with
  | .integer n =>
    if Signed64.Fits n then .ok n
    else if Signed64.greatest < n && n < unsigned64Limit then
      .error (.mismatch value.1 (.wrongValue (.integer n) "i64"))
    else .error (wrongType "i64" value)
  | _ => .error (wrongType "i64" value)

/-- The entries in the order of their names. -/
def inOrder (entries : Entries) : Entries :=
  entries.mergeSort fun a b => a.1.name ≤ b.1.name

/-- The misfit of a name that is not known. -/
def unknown (span : Span) (name : String) (known : List String) : Misfit :=
  .mismatch span (.unknownField name known)

/-- The section after one more entry. -/
def File.extend (file : File) (entry : Toml.Key × Span × Node) : Except Misfit File :=
  if entry.1.name = secretName then
    (readText entry.2).map fun s => { file with secret := some s }
  else if entry.1.name = toleranceName then
    (readInteger entry.2).map fun n => { file with tolerance := some n }
  else .error (unknown entry.1.span entry.1.name [secretName, toleranceName])

/-- The file that says nothing. -/
def File.empty : File := ⟨none, none⟩

/-- The section that a list says. -/
def File.ofItems (span : Span) : List (Span × Node) → Except Misfit File
  | [] => .error (.mismatch span (.tooShort 0 sectionTitle 2))
  | [first] => do
    let _ ← readText first
    .error (.mismatch span (.tooShort 1 sectionTitle 2))
  | first :: second :: _ => do
    let secret ← readText first
    let tolerance ← readInteger second
    return ⟨some secret, some tolerance⟩

/-- The section that a value says. -/
def File.ofSection (value : Span × Node) : Except Misfit File :=
  match value.2 with
  | .table _ entries => (inOrder entries).foldlM File.extend File.empty
  | .array items => File.ofItems value.1 items
  | .tables items => File.ofItems value.1 items
  | .moment => .error (unknown value.1 momentName [secretName, toleranceName])
  | _ => .error (wrongType (recordNamed sectionTitle) value)

/-- What the root of a document says. -/
def File.ofDocument (root : Entries) : Except Misfit File :=
  (inOrder root).foldlM (fun _ entry =>
    if entry.1.name = sectionName then File.ofSection entry.2
    else .error (unknown entry.1.span entry.1.name [sectionName])) File.empty

/-- Why a text is no settings file. -/
inductive Fault where
  /-- The text is no TOML document, or holds a number that cannot be held. -/
  | malformed
  /-- The document says something else than a settings file may. -/
  | mismatch (excerpt : Toml.Excerpt) (m : Mismatch)
  deriving DecidableEq, Repr

/-- The wording of a fault. -/
def Fault.message : Fault → String
  | .malformed => "TOML parse error\n"
  | .mismatch e m =>
    "TOML parse error at line " ++ toString e.line ++ ", column " ++ toString (e.indent + 1) ++
      "\n" ++ e.render ++ m.message ++ "\n"

/-- A misfit, shown in the text. -/
def Misfit.locate (text : List Char) : Misfit → Fault
  | .mismatch span m => .mismatch (.ofSpan text span) m
  | .noNumber _ => .malformed

/-- What a text says as a settings file. -/
def File.read (text : String) : Except Fault File :=
  match Toml.readDocument text.toList with
  | none => .error .malformed
  | some root => (File.ofDocument root).mapError (Misfit.locate text.toList)

/-- The name that a settings file has unless there is another. -/
def File.defaultName : String := "usesend-webhooks.toml"

/-- A settings file that says nothing, with its fields in comments. -/
def File.template : String :=
  String.intercalate "\n" [
    "# usesend-webhooks Configuration File",
    "",
    "[webhook]",
    "# Signing secret from the webhook settings page (required)",
    "# Can be overridden by the --secret CLI flag",
    "# secret = \"whsec_...\"",
    "",
    "# Allowed drift between the delivery timestamp and the local clock,",
    "# in milliseconds (default: 300000 = 5 minutes).",
    "# A negative value disables the check; 0 requires an exact match.",
    "# tolerance_ms = 300000",
    ""]

end Settings
end SignedHooks
