/-
# Invocations

What a command line asks for: a subcommand with its own options, and the
options that all subcommands share. A command line that asks for nothing that
can be done is a usage fault; the wishes for help and for the version are
faults that end well.

Key definitions: `CommandLine.Command`, `CommandLine.Invocation`,
`CommandLine.UsageFault`, `CommandLine.UsageFault.exitCode`.
-/

namespace SignedHooks
namespace CommandLine

/-- A subcommand with its options. -/
inductive Command where
  /-- A settings file is to be written. -/
  | init (output : String)
  /-- A body is to be signed. -/
  | sign (body : String) (timestamp : Option Int) (event call : Option String)
  /-- A delivery is to be verified. -/
  | verify (body : String) (headers : List String)
  deriving DecidableEq, Repr

/-- What a command line asks for. -/
structure Invocation where
  /-- The subcommand. -/
  command : Command
  /-- The secret. -/
  secret : Option String
  /-- The tolerance in milliseconds. -/
  tolerance : Option Int
  /-- The settings file. -/
  config : Option String
  /-- More records in the log. -/
  verbose : Bool
  deriving DecidableEq, Repr

/-- The subcommand is to write a settings file. -/
def Command.isInit : Command → Bool
  | .init _ => true
  | _ => false

/-- Why a command line asks for nothing that can be done. -/
inductive UsageFault where
  /-- It asks for an explanation. -/
  | help
  /-- It asks for the version. -/
  | version
  /-- It is empty. -/
  | nothing
  /-- An option that must be there is not. -/
  | missingOption
  /-- There is no subcommand. -/
  | missingSubcommand
  /-- A word is no subcommand. -/
  | unknownSubcommand
  /-- A word is not known. -/
  | unknownWord
  /-- An option has no value, or an empty one where a path should be. -/
  | missingValue
  /-- A value is no integer of 64 bits. -/
  | badValue
  /-- An option is given twice. -/
  | repeated
  /-- A flag has a value. -/
  | extraValue
  deriving DecidableEq, Repr

/-- The fault ends well. -/
def UsageFault.isWish : UsageFault → Bool
  | .help => true
  | .version => true
  | _ => false

/-- The exit code of a fault. -/
def UsageFault.exitCode (fault : UsageFault) : Nat :=
  if fault.isWish then 0 else 2

end CommandLine
end SignedHooks
