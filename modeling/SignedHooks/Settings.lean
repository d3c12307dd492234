/-
# Settings

The secret, the tolerance and how much is logged, from the command line and
the settings file: what the command line says goes before what the file says,
and the default comes last. There is no default for the secret, and it must
not be empty.

Key definitions: `Settings`, `Settings.resolve`, `Settings.verifier`.
Key theorems: `Settings.secret_ne_empty_of_resolve`.
-/
import SignedHooks.CommandLine.Invocation
import SignedHooks.Header.Line
import SignedHooks.Settings.Failure
import SignedHooks.Verifier

namespace SignedHooks

/-- What the program works with. -/
structure Settings where
  /-- The secret. -/
  secret : String
  /-- The tolerance in milliseconds. -/
  tolerance : Int
  /-- More records in the log. -/
  verbose : Bool
  deriving DecidableEq, Repr

namespace Settings

open CommandLine (Invocation)

/-- The secret that is given, if any is. -/
def secret? (asked : Invocation) (file : Option File) : Option String :=
  (asked.secret.or (file.bind File.secret)).filter fun s => !s.isEmpty

/-- The tolerance that is given, or the default. -/
def tolerance? (asked : Invocation) (file : Option File) : Int :=
  (asked.tolerance.or (file.bind File.tolerance)).getD Verifier.defaultTolerance

/-- The settings that a command line and a file say. -/
def resolve (asked : Invocation) (file : Option File) : Except Failure Settings :=
  match secret? asked file with
  | none => .error .missingSecret
  | some secret => .ok ⟨secret, tolerance? asked file, asked.verbose⟩

/-- The verifier of some settings. -/
def verifier (s : Settings) : Verifier :=
  ⟨s.secret, s.tolerance⟩

/-- The settings in one line, for the log. -/
def describe (s : Settings) : String :=
  let tolerance := if s.tolerance < 0 then "disabled" else toString s.tolerance ++ "ms"
  "Config \x7b secret: <redacted>, tolerance: " ++ tolerance ++ ", verbose: " ++
    (if s.verbose then "true" else "false") ++ " \x7d"

/-- The settings in one line, field by field. -/
def summary (s : Settings) : String :=
  "ValidatedConfig \x7b secret: " ++ Verifier.hidden ++ ", tolerance_ms: " ++
    toString s.tolerance ++ ", verbose: " ++ (if s.verbose then "true" else "false") ++ " \x7d"

/-- A settings file in one line, field by field. -/
def File.summary (file : File) : String :=
  "TomlConfig \x7b webhook: " ++ sectionTitle ++ " \x7b secret: " ++
    Verifier.summarise (file.secret.map fun _ => Verifier.hidden) ++ ", tolerance_ms: " ++
    Verifier.summarise (file.tolerance.map toString) ++ " \x7d \x7d"

/-- The header that a line says. -/
def readHeader (line : String) : Except Failure (String × String) :=
  match HeaderLine.read line with
  | some header => .ok header
  | none => .error (.invalidHeader line)

/-- The headers that some lines say; the first that says none is the failure. -/
def readHeaders : List String → Except Failure (List (String × String))
  | [] => .ok []
  | line :: rest => do
    let header ← readHeader line
    let headers ← readHeaders rest
    return header :: headers

/-- The secret is never empty. -/
theorem secret_ne_empty_of_resolve {asked : Invocation} {file : Option File} {s : Settings}
    (h : resolve asked file = .ok s) : s.secret ≠ "" := by
  unfold resolve at h
  split at h
  · cases h
  · next secret hs =>
    cases h
    have := Option.mem_filter_iff.mp hs
    simpa using this.2

end Settings
end SignedHooks
