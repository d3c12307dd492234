/-
# Reading a command line

The words are read one after another at one level, until a plain word names a
subcommand, whose level reads the rest. An option that takes a value waits for
the next word, unless that is an option again; it is settled only when the
next option comes or the level ends. A shared option may stand at both levels,
and then the inner one counts.

Key definitions: `CommandLine.Progress`, `CommandLine.readWord`, `CommandLine.readLevel`,
`CommandLine.read`.
-/
import SignedHooks.CommandLine.Invocation
import SignedHooks.CommandLine.Options
import SignedHooks.CommandLine.Word
import SignedHooks.Decimal.Signed64
import SignedHooks.Settings.File

namespace SignedHooks
namespace CommandLine

/-- How far a level has been read. -/
structure Progress where
  /-- The options that are settled, with their values, in order. -/
  settled : List (OptionName × String)
  /-- The option that came last, with the word behind it, until it is settled. -/
  pending : Option (OptionSpec × Option String)
  /-- The end of the options has come. -/
  escaped : Bool
  deriving DecidableEq, Repr

namespace Progress

/-- Nothing has been read. -/
def start : Progress := ⟨[], none, false⟩

/-- The option that waits for its value. -/
def awaiting? (p : Progress) : Option OptionSpec :=
  match p.pending with
  | some (spec, none) => some spec
  | _ => none

/-- The value of an option, if it is settled. -/
def value? (p : Progress) (name : OptionName) : Option String :=
  (p.settled.find? fun e => e.1 == name).map (·.2)

/-- All values of an option. -/
def values (p : Progress) (name : OptionName) : List String :=
  (p.settled.filter fun e => e.1 == name).map (·.2)

/-- The option is settled. -/
def has (p : Progress) (name : OptionName) : Bool :=
  (p.value? name).isSome

/-- The integer value of an option, if it is settled. -/
def integer? (p : Progress) (name : OptionName) : Option Int :=
  (p.value? name).bind fun text => (Signed64.read text.toList).toOption

end Progress

/-- A value fits its option. -/
def checkValue (kind : ValueKind) (value : String) : Except UsageFault Unit :=
  match kind with
  | .flag => .ok ()
  | .text => .ok ()
  | .path => if value.isEmpty then .error .missingValue else .ok ()
  | .integer =>
    match Signed64.read value.toList with
    | .ok _ => .ok ()
    | .error _ => .error .badValue

namespace Progress

/-- An option is settled with a value. -/
def record (p : Progress) (spec : OptionSpec) (value : String) : Except UsageFault Progress :=
  if !spec.repeats && p.has spec.name then .error .repeated
  else (checkValue spec.kind value).map fun _ =>
    { p with settled := p.settled ++ [(spec.name, value)] }

/-- What came last is settled. -/
def settle (p : Progress) : Except UsageFault Progress :=
  match p.pending with
  | none => .ok p
  | some (_, none) => .error .missingValue
  | some (spec, some value) => { p with pending := none }.record spec value

/-- A flag is given. -/
def flag (p : Progress) (spec : OptionSpec) : Except UsageFault Progress := do
  let p ← p.settle
  match spec.name with
  | .help => .error .help
  | .version => .error .version
  | _ => p.record spec ""

/-- An option is given with a value attached to it. -/
def attach (p : Progress) (spec : OptionSpec) (value : String) : Except UsageFault Progress := do
  let p ← p.settle
  p.record spec value

/-- An option is given that takes the next word. -/
def wait (p : Progress) (spec : OptionSpec) : Except UsageFault Progress := do
  let p ← p.settle
  return { p with pending := some (spec, none) }

end Progress

/-- A long option. -/
def readLong (level : Level) (p : Progress) (name : String) (value : Option String) :
    Except UsageFault Progress :=
  match level.long? name with
  | none => .error .unknownWord
  | some spec =>
    match spec.kind, value with
    | .flag, some _ => .error .extraValue
    | .flag, none => p.flag spec
    | _, some text => p.attach spec text
    | _, none => p.wait spec

/-- Short options in a row; one that takes a value takes the rest of the word. -/
def readShort (level : Level) : Progress → List Char → Except UsageFault Progress
  | p, [] => .ok p
  | p, letter :: rest =>
    match level.short? letter with
    | none => .error .unknownWord
    | some spec =>
      if spec.kind = .flag then do readShort level (← p.flag spec) rest
      else
        match rest with
        | [] => p.wait spec
        | '=' :: value => p.attach spec (String.ofList value)
        | value => p.attach spec (String.ofList value)

/-- A plain word that no option waits for. -/
def strayWord (level : Level) (p : Progress) (word : String) : UsageFault :=
  let isCommand := (Level.ofSubcommand? word).isSome || word == helpCommand
  if level ≠ .program then .unknownWord
  else if p.escaped && isCommand then .unknownWord
  else .unknownSubcommand

/-- A plain word, which an option may wait for. -/
def readPlain (level : Level) (p : Progress) (word : String) : Except UsageFault Progress :=
  match p.awaiting? with
  | some spec => .ok { p with pending := some (spec, some word) }
  | none => .error (strayWord level p word)

/-- A word that is no subcommand. -/
def readWord (level : Level) (p : Progress) (word : String) : Except UsageFault Progress :=
  if p.escaped then .error (strayWord level p word)
  else
    match Word.ofText word with
    | .escape => .ok { p with escaped := true }
    | .long name value => readLong level p name value
    | .short letters =>
      if p.awaiting?.any (·.negatives) && looksNumeric letters then readPlain level p word
      else readShort level p letters
    | .plain text => readPlain level p text

/-- What a level makes of its words: options, and the subcommand with the
words behind it. -/
structure Reading where
  /-- The options. -/
  options : Progress
  /-- The subcommand with its words. -/
  rest : Option (Level × List String)
  deriving DecidableEq, Repr

/-- The words behind the wish for an explanation: at most one subcommand. -/
def explain : List String → UsageFault
  | [] => .help
  | [word] =>
    if (Level.ofSubcommand? word).isSome || word == helpCommand then .help else .unknownSubcommand
  | _ => .unknownSubcommand

/-- A subcommand may come next. -/
def Progress.takesSubcommand (p : Progress) (level : Level) : Bool :=
  level = .program && !p.escaped && p.awaiting?.isNone

/-- The words of a level, up to a subcommand. -/
def readWords (level : Level) : Progress → List String → Except UsageFault Reading
  | p, [] => .ok ⟨p, none⟩
  | p, word :: rest =>
    if p.takesSubcommand level && word == helpCommand then .error (explain rest)
    else
      match (if p.takesSubcommand level then Level.ofSubcommand? word else none) with
      | some sub => .ok ⟨p, some (sub, rest)⟩
      | none => do readWords level (← readWord level p word) rest

/-- The options of a subcommand. -/
def readLevel (level : Level) (words : List String) : Except UsageFault Progress := do
  (← readWords level .start words).options.settle

/-- The subcommand that a level with its options is. -/
def command (level : Level) (p : Progress) : Except UsageFault Command :=
  match level, p.value? .body with
  | .init, _ => .ok (.init ((p.value? .output).getD Settings.File.defaultName))
  | .sign, some body => .ok (.sign body (p.integer? .timestamp) (p.value? .event) (p.value? .call))
  | .verify, some body => .ok (.verify body (p.values .header))
  | _, _ => .error .missingOption

/-- The invocation of a subcommand, with the options of the program's level. -/
def invocation (command : Command) (outer inner : Progress) : Invocation :=
  ⟨command, (inner.value? .secret).or (outer.value? .secret),
    (inner.integer? .tolerance).or (outer.integer? .tolerance),
    (inner.value? .config).or (outer.value? .config), inner.has .verbose || outer.has .verbose⟩

/-- What a command line asks for. -/
def read (words : List String) : Except UsageFault Invocation := do
  let reading ← readWords .program .start words
  match reading.rest with
  | some (level, rest) =>
    let inner ← readLevel level rest
    let asked ← command level inner
    let outer ← reading.options.settle
    return invocation asked outer inner
  | none =>
    let outer ← reading.options.settle
    if outer.settled.isEmpty then .error .nothing else .error .missingSubcommand

end CommandLine
end SignedHooks
