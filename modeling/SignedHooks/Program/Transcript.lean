/-
# Transcripts

What comes of a program that runs on a system of files while the clock stands
still: its exit code, all that it wrote to its two outputs, and the files
afterwards. A record of the log is a line of the output for errors.

Key definitions: `Program.Transcript`, `Program.Action.run`.
Key theorems: `Program.Action.run_read`, `Program.Action.run_write`.
-/
import SignedHooks.Files.Directory
import SignedHooks.Program.Action

namespace SignedHooks
namespace Program

open Files (System)

/-- What comes of a program. -/
structure Transcript (σ : Type) where
  /-- The exit code. -/
  exitCode : Nat
  /-- What was written to the output. -/
  output : String
  /-- What was written to the output for errors. -/
  complaints : String
  /-- The files afterwards. -/
  directory : σ

namespace Action

variable {σ : Type} [System σ]

/-- The transcript of a program that runs on some files at an instant. -/
def run (now : Instant) : Action → σ → Transcript σ
  | .read path next, d => (next (System.read d path)).run now d
  | .write path content next, d =>
    match System.write d path content with
    | .ok changed => (next (.ok ())).run now changed
    | .error fault => (next (.error fault)).run now d
  | .now next, d => (next now).run now d
  | .print text next, d =>
    let t := next.run now d
    { t with output := text ++ t.output }
  | .complain text next, d =>
    let t := next.run now d
    { t with complaints := text ++ t.complaints }
  | .log record next, d =>
    let t := next.run now d
    { t with complaints := record.render ++ "\n" ++ t.complaints }
  | .exit code, d => ⟨code, "", "", d⟩

variable (now : Instant) (path text : String) (content : List UInt8) (record : Log.Record)
variable (code : Nat) (next : Action) (d : σ)

@[simp] theorem run_read (next : Except Files.Fault (List UInt8) → Action) :
    (read path next).run now d = (next (System.read d path)).run now d := rfl

@[simp] theorem run_write (next : Except Files.Fault Unit → Action) :
    (write path content next).run now d =
      match System.write d path content with
      | .ok changed => (next (.ok ())).run now changed
      | .error fault => (next (.error fault)).run now d := by
  rw [run]

@[simp] theorem run_now (next : Instant → Action) :
    (Action.now next).run now d = (next now).run now d := rfl

@[simp] theorem run_print : (print text next).run now d =
    { next.run now d with output := text ++ (next.run now d).output } := rfl

@[simp] theorem run_complain : (complain text next).run now d =
    { next.run now d with complaints := text ++ (next.run now d).complaints } := rfl

@[simp] theorem run_log : (log record next).run now d =
    { next.run now d with
      complaints := record.render ++ "\n" ++ (next.run now d).complaints } := rfl

@[simp] theorem run_exit : (exit code).run now d = ⟨code, "", "", d⟩ := rfl

end Action
end Program
end SignedHooks
