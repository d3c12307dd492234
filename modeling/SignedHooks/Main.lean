/-
# The command line

Carries out the actions of the program: files, the clock and the outputs are
those of the system.

Key definitions: `main`.
-/
import Std.Time.DateTime.Timestamp
import SignedHooks.Log.Stamp
import SignedHooks.Program

namespace SignedHooks
namespace Program

/-- The fault that the system reports. -/
def faultOfCode (code : UInt32) (message : String) : Files.Fault :=
  if code = 2 then .missing
  else if code = 20 then .notADirectory
  else if code = 21 then .isADirectory
  else if code = 36 then .nameTooLong
  else .other (message ++ " (os error " ++ toString code ++ ")")

/-- The fault that an error of the system is. -/
def faultOfError (e : IO.Error) : Files.Fault :=
  match e with
  | .noFileOrDirectory _ code details => faultOfCode code details
  | .inappropriateType _ code details => faultOfCode code details
  | .invalidArgument _ code details => faultOfCode code details
  | .permissionDenied _ code details => faultOfCode code details
  | .resourceExhausted _ code details => faultOfCode code details
  | .otherError code details => faultOfCode code details
  | other => .other (toString other)

/-- What the clock of the system says. -/
def systemTime : IO Instant := do
  let t ← Std.Time.Timestamp.now
  return .ofOffset t.toNanosecondsSinceUnixEpoch.toInt

/-- The level of a record, with spaces in front up to five characters. -/
def levelColumn (level : Log.Level) : String :=
  String.ofList (List.replicate (5 - level.word.length) ' ') ++ level.word

/-- Carries out an action and gives the exit code. -/
def carryOut : Action → IO UInt32
  | .read path next => do
    let answer ← (IO.FS.readBinFile path).toBaseIO
    match answer with
    | .ok bytes => carryOut (next (.ok bytes.toList))
    | .error e => carryOut (next (.error (faultOfError e)))
  | .write path content next => do
    let answer ← (IO.FS.writeBinFile path ⟨content.toArray⟩).toBaseIO
    match answer with
    | .ok _ => carryOut (next (.ok ()))
    | .error e => carryOut (next (.error (faultOfError e)))
  | .now next => do
    let t ← systemTime
    carryOut (next t)
  | .print text next => do
    IO.print text
    carryOut next
  | .complain text next => do
    IO.eprint text
    carryOut next
  | .log record next => do
    let t ← systemTime
    IO.eprintln (Log.stamp t ++ " " ++ levelColumn record.level ++ " " ++ record.text)
    carryOut next
  | .exit code => return UInt32.ofNat code

end Program
end SignedHooks

/-- Runs the program. -/
def main (words : List String) : IO UInt32 := do
  let filterText ← IO.getEnv "RUST_LOG"
  SignedHooks.Program.carryOut (SignedHooks.Program.start words (filterText.getD ""))
