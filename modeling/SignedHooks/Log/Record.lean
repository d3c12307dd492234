/-
# Log records

What a step of the work has to say besides its result: how much it matters,
which part of the program says it, the words, and values with names.

Key definitions: `Log.Level`, `Log.Record`, `Log.Record.fieldNames`, `Log.Record.render`,
`Logged`.
-/
import SignedHooks.Text.Quoted

namespace SignedHooks
namespace Log

/-- How much a record matters. -/
inductive Level where
  /-- A single step, for following the work. -/
  | trace
  /-- What helps to find a fault. -/
  | debug
  /-- What is worth knowing. -/
  | info
  /-- What may be wrong. -/
  | warn
  /-- What is wrong. -/
  | error
  deriving DecidableEq, Repr

/-- The levels in order, the one that matters least first. -/
def Level.rank : Level → Nat
  | .trace => 0
  | .debug => 1
  | .info => 2
  | .warn => 3
  | .error => 4

/-- The word for a level in front of a record. -/
def Level.word : Level → String
  | .trace => "TRACE"
  | .debug => "DEBUG"
  | .info => "INFO"
  | .warn => "WARN"
  | .error => "ERROR"

/-- One record. -/
structure Record where
  /-- How much it matters. -/
  level : Level
  /-- The part of the program that says it. -/
  source : List String
  /-- The words. -/
  message : String
  /-- The values behind the words, each with its name. -/
  fields : List (String × String)
  deriving DecidableEq, Repr

/-- The path of the source of a record, from the program to the part. -/
def Record.path (r : Record) : String :=
  String.intercalate "::" r.source

/-- The name under which the words of a record stand. -/
def wordsName : String := "message"

/-- The names of what a record says. -/
def Record.fieldNames (r : Record) : List String :=
  wordsName :: r.fields.map (·.1)

/-- What a record says. -/
def Record.text (r : Record) : String :=
  r.message ++ String.join (r.fields.map fun f => " " ++ f.1 ++ "=" ++ f.2)

/-- The line of a record, without its time. -/
def Record.render (r : Record) : String :=
  r.level.word ++ " " ++ r.text

/-- The program, as the source of its records. -/
def program : List String :=
  ["usesend_webhooks"]

/-- The part that runs the subcommands. -/
def commands : List String :=
  program ++ ["run"]

/-- The part that verifies deliveries. -/
def verification : List String :=
  program ++ ["webhook", "verifier"]

end Log

/-- A result with the records that were made on the way. -/
structure Logged (α : Type) where
  /-- The result. -/
  value : α
  /-- The records, the first one first. -/
  records : List Log.Record
  deriving Repr

end SignedHooks
