/-
# Transcripts of the program

What each part of the program leaves in the transcript. Records of the log stand in front
of what is written afterwards (`Program.run_logAll`, `Program.run_openLog`) and change
nothing else. Settings are read from some files (`Program.settingsIn`), and a subcommand
goes on with them or ends for want of them (`Program.run_loadSettings`). Signing prints the
lines of the headers (`Program.run_sign`), and verifying prints the tag of the event or
complains of the failure (`Program.run_verify`).

Key definitions: `Program.Transcript.after`, `Program.shownText`, `Program.openingText`,
`Program.settingsIn`.
Key theorems: `Program.run_logAll`, `Program.run_openLog`, `Program.run_loadSettings`,
`Program.run_sign`, `Program.run_verify`.
-/
import SignedHooks.Program
import SignedHooks.Program.Transcript

namespace SignedHooks
namespace Program

open CommandLine (Invocation UsageFault)
open Files (System)

variable {σ : Type}

/-! ### The log -/

/-- The transcript of a program that complains first. -/
def Transcript.after (text : String) (t : Transcript σ) : Transcript σ :=
  { t with complaints := text ++ t.complaints }

namespace Transcript

variable (text text' : String) (t : Transcript σ)

@[simp] theorem exitCode_after : (t.after text).exitCode = t.exitCode := rfl

@[simp] theorem output_after : (t.after text).output = t.output := rfl

@[simp] theorem after_empty : t.after "" = t := by
  rw [after, String.empty_append]

theorem after_after : (t.after text').after text = t.after (text ++ text') := by
  rw [after, after, after, String.append_assoc]

end Transcript

/-- The text of the records that a filter shows. -/
def shownText (filter : Log.Filter) (records : List Log.Record) : String :=
  String.join ((records.filter filter.shows).map fun r => r.render ++ "\n")

variable [System σ] {now : Instant} {d : σ} {s : Settings} {filter : Log.Filter}

/-- Records stand in front of what is written afterwards. -/
theorem run_logAll (filter : Log.Filter) (records : List Log.Record) (next : Action) :
    (logAll filter records next).run now d = (next.run now d).after (shownText filter records) := by
  induction records with
  | nil => exact (Transcript.after_empty _).symm
  | cons r records ih =>
    by_cases hr : filter.shows r = true
    · have hcons : shownText filter (r :: records) =
          r.render ++ "\n" ++ shownText filter records := by
        rw [shownText, List.filter_cons_of_pos hr, List.map_cons, String.join_cons, shownText]
      calc (logAll filter (r :: records) next).run now d
          = ((logAll filter records next).run now d).after (r.render ++ "\n") := by
            rw [logAll, List.foldr_cons, if_pos hr]
            rfl
        _ = (next.run now d).after (shownText filter (r :: records)) := by
            rw [ih, Transcript.after_after, hcons]
    · have hcons : shownText filter (r :: records) = shownText filter records := by
        rw [shownText, List.filter_cons_of_neg hr, shownText]
      rw [hcons, ← ih, logAll, List.foldr_cons, if_neg hr]
      rfl

theorem run_complainAll (texts : List String) (next : Action) :
    (texts.foldr (fun text rest => Action.complain (text ++ "\n") rest) next).run now d =
      (next.run now d).after (String.join (texts.map (· ++ "\n"))) := by
  induction texts with
  | nil => exact (Transcript.after_empty _).symm
  | cons text texts ih =>
    rw [List.map_cons, String.join_cons, ← Transcript.after_after, ← ih]
    rfl

/-- The filter that the program uses. -/
def filterOf (s : Settings) (filterText : String) : Log.Filter :=
  (Log.Filter.read (defaultLevel s.verbose) filterText).1

/-- What is written when the log is opened. -/
def openingText (s : Settings) (filterText : String) : String :=
  String.join ((Log.Filter.read (defaultLevel s.verbose) filterText).2.map (· ++ "\n")) ++
    shownText (filterOf s filterText) [settingsRecord s]

/-- Opening the log leaves its text in front of what is written afterwards. -/
theorem run_openLog (s : Settings) (filterText : String) (next : Log.Filter → Action) :
    (openLog s filterText next).run now d =
      ((next (filterOf s filterText)).run now d).after (openingText s filterText) := by
  rw [openLog, run_complainAll, run_logAll, Transcript.after_after]
  rfl

/-! ### The settings -/

/-- What the settings file says, if one is named, or why it cannot be read. -/
def fileIn (d : σ) : Option String → Except Settings.Failure (Option Settings.File)
  | none => .ok none
  | some path =>
    match System.read d path with
    | .error fault => .error (.unreadable path fault)
    | .ok bytes =>
      match Utf8.decode bytes with
      | .error _ => .error (.unreadable path .notText)
      | .ok text => ((Settings.File.read text).mapError .malformed).map some

/-- The settings of an invocation, or why there are none. -/
def settingsIn (d : σ) (asked : Invocation) : Except Settings.Failure Settings := do
  let file ← fileIn d asked.config
  Settings.resolve asked file

theorem run_loadFile (path : Option String) (next : Option Settings.File → Action) :
    (loadFile path next).run now d =
      match fileIn d path with
      | .error failure => (failSettings failure).run now d
      | .ok file => (next file).run now d := by
  cases path with
  | none => rfl
  | some path =>
    rw [loadFile, fileIn, Action.run_read]
    cases System.read d path with
    | error fault => rfl
    | ok bytes =>
      cases hdecode : Utf8.decode bytes with
      | error bad => simp only [hdecode]
      | ok text =>
        cases hfile : Settings.File.read text with
        | error fault =>
          simp only [hdecode, hfile]
          rfl
        | ok file =>
          simp only [hdecode, hfile]
          rfl

/-- With settings a program goes on, and without it ends. -/
theorem run_loadSettings (asked : Invocation) (next : Settings → Action) :
    (loadSettings asked next).run now d =
      match settingsIn d asked with
      | .error failure => (failSettings failure).run now d
      | .ok s => (next s).run now d := by
  rw [loadSettings, run_loadFile, settingsIn]
  cases fileIn d asked.config with
  | error failure => rfl
  | ok file =>
    cases hresolve : Settings.resolve asked file <;> simp [bind, Except.bind, hresolve]

/-! ### Endings -/

theorem run_fail (failure : Failure) :
    (fail failure).run now d = ⟨failure.exitCode, "", failure.message ++ "\n", d⟩ := by
  rw [← String.append_empty (s := failure.message ++ "\n")]
  rfl

theorem exitCode_failSettings (failure : Settings.Failure) :
    ((failSettings failure).run now d).exitCode = 1 := rfl

theorem exitCode_answerFault (fault : UsageFault) :
    ((answerFault fault).run now d).exitCode = fault.exitCode := by
  cases fault <;> rfl

/-! ### Subcommands -/

/-- The template is written, or it is said why not. -/
theorem exitCode_writeTemplate (path : String) :
    ((writeTemplate path).run now d).exitCode =
      match System.write d path (Utf8.encode Settings.File.template) with
      | .ok _ => 0
      | .error _ => 1 := by
  rw [writeTemplate, Action.run_write]
  cases System.write d path (Utf8.encode Settings.File.template) <;> rfl

variable {path : String} {bytes : List UInt8}

theorem run_sign_of_unreadable {fault : Files.Fault} (hread : System.read d path = .error fault)
    (timestamp : Option Int) (event call : Option String) :
    (sign s filter path timestamp event call).run now d =
      (fail (.input (.unreadable path fault))).run now d := by
  rw [sign, Action.run_read, hread]

theorem run_sign_of_notText {bad : Utf8.Fault} (hread : System.read d path = .ok bytes)
    (hdecode : Utf8.decode bytes = .error bad) (timestamp : Option Int)
    (event call : Option String) :
    (sign s filter path timestamp event call).run now d = (fail (.bodyNotText path)).run now d := by
  rw [sign, Action.run_read, hread]
  simp only [hdecode]

/-- Signing a text prints the lines of its headers and leaves the files as they are. -/
theorem run_sign {body : String} (hread : System.read d path = .ok bytes)
    (hdecode : Utf8.decode bytes = .ok body) (timestamp : Option Int) (event call : Option String) :
    (sign s filter path timestamp event call).run now d =
      (⟨0, (signed s (timestamp.getD now.millis) event call body).lines, "", d⟩ :
        Transcript σ).after
      (shownText filter [signedRecord (signed s (timestamp.getD now.millis) event call body)]) := by
  rw [sign, Action.run_read, hread]
  cases timestamp with
  | some millis =>
    simp only [hdecode, run_logAll, Action.run_print, Action.run_exit, Option.getD_some,
      String.append_empty]
  | none =>
    simp only [hdecode, run_logAll, Action.run_now, Action.run_print, Action.run_exit,
      Option.getD_none, String.append_empty]

theorem run_verify_of_unreadable {fault : Files.Fault} (hread : System.read d path = .error fault)
    (lines : List String) :
    (verify s filter path lines).run now d =
      (fail (.input (.unreadable path fault))).run now d := by
  rw [verify, Action.run_read, hread]

/-- Verifying a delivery ends with its failure, or prints the tag of its event. -/
theorem run_verify (hread : System.read d path = .ok bytes) (lines : List String) :
    (verify s filter path lines).run now d =
      (match (received s.verifier now bytes lines).value with
      | .error failure => (fail failure).run now d
      | .ok event => ⟨0, event.tag?.getD "<untyped>" ++ "\n", "", d⟩ : Transcript σ).after
        (shownText filter (received s.verifier now bytes lines).records) := by
  rw [verify, Action.run_read, hread]
  simp only [Action.run_now, run_logAll]
  cases (received s.verifier now bytes lines).value with
  | error failure => rfl
  | ok event => simp only [Action.run_print, Action.run_exit, String.append_empty]

end Program
end SignedHooks
