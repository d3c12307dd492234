/-
# The program

The three subcommands as actions. Settings are read first, from the command
line and the settings file; then the body; then it is signed, and its headers
are printed, or it is verified, and the type of its event is printed. The exit
code tells the cause of a failure: a delivery that is refused from everything
else.

Key definitions: `Program.Failure`, `Program.signed`, `Program.received`,
`Program.perform`, `Program.start`.
Key theorems: `Program.exitCode_eq_two_iff`.
-/
import SignedHooks.CommandLine.Reader
import SignedHooks.CommandLine.Usage
import SignedHooks.Log.Filter
import SignedHooks.Program.Action
import SignedHooks.Settings
import SignedHooks.Signer

namespace SignedHooks
namespace Program

open CommandLine (Command Invocation UsageFault)

/-- Why a subcommand fails. -/
inductive Failure where
  /-- A file or a header cannot be read. -/
  | input (failure : Settings.Failure)
  /-- The body to be signed is no text. -/
  | bodyNotText (path : String)
  /-- The delivery is refused. -/
  | refused (refusal : Refusal)
  deriving DecidableEq, Repr

/-- The wording of a failure. -/
def Failure.message : Failure → String
  | .input failure => failure.message
  | .bodyNotText path => "Body file '" ++ path ++ "' is not valid UTF-8"
  | .refused refusal => refusal.report

/-- The exit code of a failure. -/
def Failure.exitCode : Failure → Nat
  | .refused _ => 2
  | .input _ => 1
  | .bodyNotText _ => 1

/-- The exit code of a program that failed for want of settings. -/
def settingsExitCode : Nat := 1

/-- The headers of a body that is sent at some millisecond. -/
def signed (s : Settings) (millis : Int) (event call : Option String) (body : String) :
    SignedHeaders :=
  ((Signer.mk s.secret).signAt millis body).label event call

/-- The event of a delivery whose headers are given as lines. -/
def received (v : Verifier) (now : Instant) (body : List UInt8) (lines : List String) :
    Logged (Except Failure Event) :=
  match Settings.readHeaders lines with
  | .error failure => ⟨.error (.input failure), []⟩
  | .ok headers =>
    let result := v.receive now (.bytes body) (.ofTexts headers) .none
    ⟨result.value.mapError .refused, result.records⟩

/-- The records that a filter shows go to the log. -/
def logAll (filter : Log.Filter) (records : List Log.Record) (next : Action) : Action :=
  records.foldr (fun r rest => if filter.shows r then .log r rest else rest) next

/-- The program ends with a failure. -/
def fail (failure : Failure) : Action :=
  .complain (failure.message ++ "\n") (.exit failure.exitCode)

/-- The program ends for want of settings. -/
def failSettings (failure : Settings.Failure) : Action :=
  let hint :=
    match failure.hint? with
    | none => ""
    | some text => "\n" ++ text ++ "\n"
  .complain ("Configuration error: " ++ failure.message ++ "\n" ++ hint) (.exit settingsExitCode)

/-- What the settings file says, if there is one. -/
def loadFile (path : Option String) (next : Option Settings.File → Action) : Action :=
  match path with
  | none => next none
  | some path =>
    .read path fun answer =>
      match answer with
      | .error fault => failSettings (.unreadable path fault)
      | .ok bytes =>
        match Utf8.decode bytes with
        | .error _ => failSettings (.unreadable path .notText)
        | .ok text =>
          match Settings.File.read text with
          | .error fault => failSettings (.malformed fault)
          | .ok file => next (some file)

/-- The settings are read. -/
def loadSettings (asked : Invocation) (next : Settings → Action) : Action :=
  loadFile asked.config fun file =>
    match Settings.resolve asked file with
    | .error failure => failSettings failure
    | .ok settings => next settings

/-- The record of a body that was signed. -/
def signedRecord (h : SignedHeaders) : Log.Record :=
  ⟨.debug, Log.commands, "Signed delivery body", [("timestamp", h.timestamp)]⟩

/-- The record of the settings. -/
def settingsRecord (s : Settings) : Log.Record :=
  ⟨.debug, Log.program, s.describe, []⟩

/-- A body is signed and its headers are printed. -/
def sign (s : Settings) (filter : Log.Filter) (path : String) (timestamp : Option Int)
    (event call : Option String) : Action :=
  .read path fun answer =>
    match answer with
    | .error fault => fail (.input (.unreadable path fault))
    | .ok bytes =>
      match Utf8.decode bytes with
      | .error _ => fail (.bodyNotText path)
      | .ok body =>
        let finish (millis : Int) : Action :=
          let h := signed s millis event call body
          logAll filter [signedRecord h] (.print h.lines (.exit 0))
        match timestamp with
        | some millis => finish millis
        | none => .now fun t => finish t.millis

/-- A delivery is verified and the type of its event is printed. -/
def verify (s : Settings) (filter : Log.Filter) (path : String) (lines : List String) : Action :=
  .read path fun answer =>
    match answer with
    | .error fault => fail (.input (.unreadable path fault))
    | .ok bytes =>
      .now fun t =>
        let result := received s.verifier t bytes lines
        logAll filter result.records
          (match result.value with
          | .error failure => fail failure
          | .ok event => .print (event.tag?.getD "<untyped>" ++ "\n") (.exit 0))

/-- A settings file is written. -/
def writeTemplate (path : String) : Action :=
  .write path (Utf8.encode Settings.File.template) fun answer =>
    match answer with
    | .ok _ => .print ("Configuration template written to: " ++ path ++ "\n") (.exit 0)
    | .error fault =>
      .complain ("Error: " ++ (Settings.Failure.unwritable path fault).message ++ "\n")
        (.exit settingsExitCode)

/-- The level from which on records are shown unless a filter is given. -/
def defaultLevel (verbose : Bool) : Log.Level :=
  if verbose then .debug else .warn

/-- The log is opened: what is wrong with its filter comes first, and the
settings are the first record. -/
def openLog (s : Settings) (filterText : String) (next : Log.Filter → Action) : Action :=
  let (filter, complaints) := Log.Filter.read (defaultLevel s.verbose) filterText
  let rest := logAll filter [settingsRecord s] (next filter)
  complaints.foldr (fun text rest => .complain (text ++ "\n") rest) rest

/-- What an invocation asks for is done. -/
def perform (asked : Invocation) (filterText : String) : Action :=
  match asked.command with
  | .init output => writeTemplate output
  | .sign body timestamp event call =>
    loadSettings asked fun s =>
      openLog s filterText fun filter => sign s filter body timestamp event call
  | .verify body headers =>
    loadSettings asked fun s => openLog s filterText fun filter => verify s filter body headers

/-- A command line that asks for nothing that can be done is answered. -/
def answerFault (fault : UsageFault) : Action :=
  match fault with
  | .help => .print CommandLine.usageLine (.exit fault.exitCode)
  | .version => .print CommandLine.versionText (.exit fault.exitCode)
  | _ => .complain CommandLine.usageLine (.exit fault.exitCode)

/-- The program, for a command line and the text of a log filter. -/
def start (words : List String) (filterText : String) : Action :=
  match CommandLine.read words with
  | .error fault => answerFault fault
  | .ok asked => perform asked filterText

/-- Only a delivery that is refused has the exit code two. -/
theorem exitCode_eq_two_iff (failure : Failure) :
    failure.exitCode = 2 ↔ ∃ refusal, failure = .refused refusal := by
  cases failure <;> simp [Failure.exitCode]

end Program
end SignedHooks
