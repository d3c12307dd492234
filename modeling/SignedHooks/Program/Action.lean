/-
# Actions

What a program does, one effect after another: it reads or writes a file, asks
for the time, writes to one of its two outputs, leaves a record in the log, or
ends. An effect that has an answer is followed by what the program does for
each answer.

Key definitions: `Program.Action`.
-/
import SignedHooks.Files.Fault
import SignedHooks.Instant
import SignedHooks.Log.Record

namespace SignedHooks
namespace Program

/-- What a program does. -/
inductive Action where
  /-- A file is read. -/
  | read (path : String) (next : Except Files.Fault (List UInt8) → Action)
  /-- A file is written. -/
  | write (path : String) (content : List UInt8) (next : Except Files.Fault Unit → Action)
  /-- The clock is asked. -/
  | now (next : Instant → Action)
  /-- A text goes to the output. -/
  | print (text : String) (next : Action)
  /-- A text goes to the output for errors. -/
  | complain (text : String) (next : Action)
  /-- A record goes to the log. -/
  | log (record : Log.Record) (next : Action)
  /-- The program ends. -/
  | exit (code : Nat)

end Program
end SignedHooks
