/-
# Options and subcommands

The program has three subcommands. Each level, that of the program and that of
each subcommand, knows some options: the ones that all levels share, and its
own. An option is a flag or takes a value, and a value may have to be an
integer or a path.

Key definitions: `CommandLine.OptionName`, `CommandLine.ValueKind`,
`CommandLine.OptionSpec`, `CommandLine.Level`, `CommandLine.Level.options`.
-/

namespace SignedHooks
namespace CommandLine

/-- The options. -/
inductive OptionName where
  /-- The secret. -/
  | secret
  /-- The tolerance in milliseconds. -/
  | tolerance
  /-- The settings file. -/
  | config
  /-- More records in the log. -/
  | verbose
  /-- An explanation of the options. -/
  | help
  /-- The version of the program. -/
  | version
  /-- The file to be written. -/
  | output
  /-- The file of the body. -/
  | body
  /-- The time of signing. -/
  | timestamp
  /-- The type of the event. -/
  | event
  /-- The identifier of the delivery. -/
  | call
  /-- A header of the delivery. -/
  | header
  deriving DecidableEq, Repr

/-- What stands behind an option. -/
inductive ValueKind where
  /-- Nothing. -/
  | flag
  /-- Any text. -/
  | text
  /-- A path, which is not empty. -/
  | path
  /-- An integer of 64 bits. -/
  | integer
  deriving DecidableEq, Repr

/-- An option as a level knows it. -/
structure OptionSpec where
  /-- Which option it is. -/
  name : OptionName
  /-- The long name. -/
  long : String
  /-- The letter. -/
  short : Option Char
  /-- What stands behind it. -/
  kind : ValueKind
  /-- The next word may be a negative number. -/
  negatives : Bool
  /-- The option may be given more than once. -/
  repeats : Bool
  deriving DecidableEq, Repr

/-- An option that is given at most once. -/
def OptionSpec.once (name : OptionName) (long : String) (short : Option Char) (kind : ValueKind) :
    OptionSpec :=
  ⟨name, long, short, kind, false, false⟩

/-- The options of all levels. -/
def sharedOptions : List OptionSpec :=
  [.once .secret "secret" none .text,
   ⟨.tolerance, "tolerance", none, .integer, true, false⟩,
   .once .config "config" (some 'c') .path,
   .once .verbose "verbose" (some 'v') .flag,
   .once .help "help" (some 'h') .flag]

/-- The option that names the file of the body. -/
def bodyOption : OptionSpec :=
  .once .body "body" none .path

/-- A part of the command line with options of its own. -/
inductive Level where
  /-- In front of the subcommand. -/
  | program
  /-- Writing a settings file. -/
  | init
  /-- Signing a body. -/
  | sign
  /-- Verifying a delivery. -/
  | verify
  deriving DecidableEq, Repr

namespace Level

/-- The options of a level alone. -/
def ownOptions : Level → List OptionSpec
  | .program => [.once .version "version" (some 'V') .flag]
  | .init => [.once .output "output" (some 'o') .path]
  | .sign =>
    [bodyOption, .once .timestamp "timestamp" none .integer, .once .event "event" none .text,
     .once .call "call" none .text]
  | .verify => [bodyOption, ⟨.header, "header", none, .text, false, true⟩]

/-- All options of a level. -/
def options (level : Level) : List OptionSpec :=
  sharedOptions ++ level.ownOptions

/-- The option with a long name. -/
def long? (level : Level) (name : String) : Option OptionSpec :=
  level.options.find? fun spec => spec.long == name

/-- The option with a letter. -/
def short? (level : Level) (letter : Char) : Option OptionSpec :=
  level.options.find? fun spec => spec.short == some letter

/-- The level of a subcommand. -/
def ofSubcommand? : String → Option Level
  | "init" => some .init
  | "sign" => some .sign
  | "verify" => some .verify
  | _ => none

end Level

/-- The subcommand that explains the others. -/
def helpCommand : String := "help"

end CommandLine
end SignedHooks
