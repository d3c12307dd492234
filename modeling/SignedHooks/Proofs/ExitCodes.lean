/-
# What the exit code tells

A run ends in one of three ways: what was asked for is done, or it cannot be done, or the
command line asks for nothing that can be done (`Program.Ending`). For each of them it is
said when it comes (`Program.Ends`): the files that are read and written, the settings, the
lines of the headers and the verdict on the delivery decide.

The description of the exit codes promises two for a delivery that is refused and for
nothing else, and one for a command line that is wrong. But a wrong command line ends with
two as well (`Program.exitCode_misused`), so that two means a refusal exactly if the command
line can be read; all other failures end with one, and the rest with zero
(`Program.exitCode_by_ending`). Of several lines that are no headers the first is reported,
and the delivery is not judged.

Key definitions: `Program.Ending`, `Program.Begins`, `Program.Refuses`, `Program.Ends`.
Key theorems: `Program.exists_ends`, `Program.exitCode_of_ends`,
`Program.exitCode_start_eq_two_iff`, `Program.exitCode_by_ending`.
-/
import SignedHooks.Proofs.HeaderLines
import SignedHooks.Proofs.Transcripts

namespace SignedHooks
namespace Program

open CommandLine (Command Invocation UsageFault)
open Files (System)

/-! ### Endings -/

/-- How a run ends. -/
inductive Ending where
  /-- The command line asks for nothing that can be done. -/
  | answered (fault : UsageFault)
  /-- What was asked for cannot be done. -/
  | failed (failure : Failure)
  /-- What was asked for is done. -/
  | done

/-- The exit code of an ending. -/
def Ending.exitCode : Ending → Nat
  | .answered fault => if fault.isWish then 0 else 2
  | .failed (.refused _) => 2
  | .failed (.input _) => 1
  | .failed (.bodyNotText _) => 1
  | .done => 0

variable {σ : Type} [System σ] (words : List String) (now : Instant) (d : σ)

/-- The command line asks for a subcommand, and there are settings. -/
def Begins (command : Command) (s : Settings) : Prop :=
  ∃ asked, CommandLine.read words = .ok asked ∧ asked.command = command ∧
    settingsIn d asked = .ok s

/-- The command line asks to verify a delivery, there are settings, the body can be read, and
each of the lines is a header. -/
structure Delivers (path : String) (lines : List String) (s : Settings) (bytes : List UInt8)
    (headers : List (String × String)) : Prop where
  /-- The delivery is to be verified. -/
  begins : Begins words d (.verify path lines) s
  /-- The body can be read. -/
  body : System.read d path = .ok bytes
  /-- Each line is a header. -/
  headers : List.Forall₂ (fun line header => HeaderLine.read line = some header) lines headers

/-- The delivery that the command line names is refused. -/
def Refuses (refusal : Refusal) : Prop :=
  ∃ path lines s bytes headers, Delivers words d path lines s bytes headers ∧
    s.verifier.event now (.bytes bytes) (.ofTexts headers) .none = .error refusal

/-- When a run ends in some way. -/
inductive Ends : Ending → Prop where
  /-- The command line cannot be read, or asks for help or the version. -/
  | answered {fault : UsageFault} : CommandLine.read words = .error fault → Ends (.answered fault)
  /-- The template is written. -/
  | written {asked : Invocation} {path : String} {d' : σ} :
      CommandLine.read words = .ok asked → asked.command = .init path →
      System.write d path (Utf8.encode Settings.File.template) = .ok d' → Ends .done
  /-- The template cannot be written. -/
  | unwritable {asked : Invocation} {path : String} {fault : Files.Fault} :
      CommandLine.read words = .ok asked → asked.command = .init path →
      System.write d path (Utf8.encode Settings.File.template) = .error fault →
      Ends (.failed (.input (.unwritable path fault)))
  /-- There are no settings: the file cannot be read or says something wrong, or there is no
  secret. -/
  | unsettled {asked : Invocation} {failure : Settings.Failure} :
      CommandLine.read words = .ok asked → asked.command.isInit = false →
      settingsIn d asked = .error failure → Ends (.failed (.input failure))
  /-- The body that is to be signed cannot be read. -/
  | unsignable {path : String} {timestamp : Option Int} {event call : Option String} {s : Settings}
      {fault : Files.Fault} : Begins words d (.sign path timestamp event call) s →
      System.read d path = .error fault → Ends (.failed (.input (.unreadable path fault)))
  /-- The body that is to be signed is no text. -/
  | notText {path : String} {timestamp : Option Int} {event call : Option String} {s : Settings}
      {bytes : List UInt8} {bad : Utf8.Fault} : Begins words d (.sign path timestamp event call) s →
      System.read d path = .ok bytes → Utf8.decode bytes = .error bad →
      Ends (.failed (.bodyNotText path))
  /-- The body is signed. -/
  | signed {path : String} {timestamp : Option Int} {event call : Option String} {s : Settings}
      {bytes : List UInt8} {body : String} : Begins words d (.sign path timestamp event call) s →
      System.read d path = .ok bytes → Utf8.decode bytes = .ok body → Ends .done
  /-- The body that is to be verified cannot be read. -/
  | unreadable {path : String} {lines : List String} {s : Settings} {fault : Files.Fault} :
      Begins words d (.verify path lines) s → System.read d path = .error fault →
      Ends (.failed (.input (.unreadable path fault)))
  /-- A line is no header, and it is the first one. -/
  | noHeader {path line : String} {before after : List String} {s : Settings}
      {bytes : List UInt8} : Begins words d (.verify path (before ++ line :: after)) s →
      System.read d path = .ok bytes → (∀ l ∈ before, HeaderLine.read l ≠ none) →
      HeaderLine.read line = none → Ends (.failed (.input (.invalidHeader line)))
  /-- The delivery is refused. -/
  | refused {refusal : Refusal} : Refuses words now d refusal → Ends (.failed (.refused refusal))
  /-- The delivery is accepted. -/
  | accepted {path : String} {lines : List String} {s : Settings} {bytes : List UInt8}
      {headers : List (String × String)} {event : Event} :
      Delivers words d path lines s bytes headers →
      s.verifier.event now (.bytes bytes) (.ofTexts headers) .none = .ok event → Ends .done

variable {words now d}

/-! ### Deliveries -/

theorem received_of_first {before after : List String} {line : String}
    (hbefore : ∀ l ∈ before, HeaderLine.read l ≠ none) (hline : HeaderLine.read line = none)
    (v : Verifier) (now : Instant) (bytes : List UInt8) :
    received v now bytes (before ++ line :: after) =
      ⟨.error (.input (.invalidHeader line)), []⟩ := by
  rw [received, Settings.readHeaders_of_first hbefore hline]

theorem value_received {lines : List String} {headers : List (String × String)}
    (hlines : List.Forall₂ (fun line header => HeaderLine.read line = some header) lines headers)
    (v : Verifier) (now : Instant) (bytes : List UInt8) :
    (received v now bytes lines).value =
      (v.event now (.bytes bytes) (.ofTexts headers) .none).mapError .refused := by
  rw [received, Settings.readHeaders_eq_ok_iff.mpr hlines]
  simp only [Verifier.receive]
  cases v.event now (.bytes bytes) (.ofTexts headers) .none <;> rfl

/-! ### Runs -/

section

variable {asked : Invocation} {s : Settings} {filterText path : String} {lines : List String}

theorem start_of_read (hread : CommandLine.read words = .ok asked) :
    start words filterText = perform asked filterText := by
  rw [start, hread]

theorem start_of_fault {fault : UsageFault} (hread : CommandLine.read words = .error fault) :
    start words filterText = answerFault fault := by
  rw [start, hread]

/-- Without settings neither of the two subcommands that need them is begun. -/
theorem exitCode_start_of_unsettled {failure : Settings.Failure}
    (hread : CommandLine.read words = .ok asked) (hcommand : asked.command.isInit = false)
    (hsettings : settingsIn d asked = .error failure) :
    ((start words filterText).run now d).exitCode = 1 := by
  rw [start_of_read hread, perform]
  cases h : asked.command with
  | init output =>
    rw [h] at hcommand
    cases hcommand
  | sign body timestamp event call =>
    simp only [run_loadSettings, hsettings, exitCode_failSettings]
  | verify body headers =>
    simp only [run_loadSettings, hsettings, exitCode_failSettings]

/-- Once there are settings a body is signed with them, and the log is opened first. -/
theorem run_start_sign {timestamp : Option Int} {event call : Option String}
    (hbegins : Begins words d (.sign path timestamp event call) s) :
    (start words filterText).run now d =
      ((sign s (filterOf s filterText) path timestamp event call).run now d).after
        (openingText s filterText) := by
  obtain ⟨asked, hread, hcommand, hsettings⟩ := hbegins
  rw [start_of_read hread, perform, hcommand]
  simp only [run_loadSettings, hsettings, run_openLog]

/-- Once there are settings a delivery is verified with them, and the log is opened first. -/
theorem run_start_verify (hbegins : Begins words d (.verify path lines) s) :
    (start words filterText).run now d =
      ((verify s (filterOf s filterText) path lines).run now d).after
        (openingText s filterText) := by
  obtain ⟨asked, hread, hcommand, hsettings⟩ := hbegins
  rw [start_of_read hread, perform, hcommand]
  simp only [run_loadSettings, hsettings, run_openLog]

/-- The exit code of a delivery that is verified is that of its failure, or zero. -/
theorem exitCode_start_verify {bytes : List UInt8}
    (hbegins : Begins words d (.verify path lines) s) (hbody : System.read d path = .ok bytes) :
    ((start words filterText).run now d).exitCode =
      match (received s.verifier now bytes lines).value with
      | .error failure => failure.exitCode
      | .ok _ => 0 := by
  rw [run_start_verify hbegins, run_verify hbody, Transcript.exitCode_after,
    Transcript.exitCode_after]
  cases (received s.verifier now bytes lines).value with
  | error failure => simp only [run_fail]
  | ok event => rfl

/-- Of several lines the first one that is no header is reported, and the delivery is not
judged. -/
theorem run_start_noHeader {before after : List String} {line : String} {bytes : List UInt8}
    (hbegins : Begins words d (.verify path (before ++ line :: after)) s)
    (hbody : System.read d path = .ok bytes) (hbefore : ∀ l ∈ before, HeaderLine.read l ≠ none)
    (hline : HeaderLine.read line = none) :
    (start words filterText).run now d =
      ⟨1, "", openingText s filterText ++
        ((Settings.Failure.invalidHeader line).message ++ "\n"), d⟩ := by
  rw [run_start_verify hbegins, run_verify hbody, received_of_first hbefore hline]
  simp only [run_fail]
  rfl

end

/-! ### Every run ends -/

/-- How a run ends decides its exit code. -/
theorem exitCode_of_ends {ending : Ending} (h : Ends words now d ending) (filterText : String) :
    ((start words filterText).run now d).exitCode = ending.exitCode := by
  cases h with
  | answered hread =>
    rw [start_of_fault hread, exitCode_answerFault]
    rfl
  | written hread hcommand hwrite =>
    rw [start_of_read hread, perform, hcommand]
    simp only [exitCode_writeTemplate, hwrite]
    rfl
  | unwritable hread hcommand hwrite =>
    rw [start_of_read hread, perform, hcommand]
    simp only [exitCode_writeTemplate, hwrite]
    rfl
  | unsettled hread hcommand hsettings => exact exitCode_start_of_unsettled hread hcommand hsettings
  | unsignable hbegins hbody =>
    rw [run_start_sign hbegins, run_sign_of_unreadable hbody, Transcript.exitCode_after, run_fail]
    rfl
  | notText hbegins hbody hdecode =>
    rw [run_start_sign hbegins, run_sign_of_notText hbody hdecode, Transcript.exitCode_after,
      run_fail]
    rfl
  | signed hbegins hbody hdecode =>
    rw [run_start_sign hbegins, run_sign hbody hdecode, Transcript.exitCode_after,
      Transcript.exitCode_after]
    rfl
  | unreadable hbegins hbody =>
    rw [run_start_verify hbegins, run_verify_of_unreadable hbody, Transcript.exitCode_after,
      run_fail]
    rfl
  | noHeader hbegins hbody hbefore hline =>
    rw [run_start_noHeader hbegins hbody hbefore hline]
    rfl
  | refused hrefuses =>
    obtain ⟨path, lines, s, bytes, headers, hdelivers, hevent⟩ := hrefuses
    rw [exitCode_start_verify hdelivers.begins hdelivers.body, value_received hdelivers.headers,
      hevent]
    rfl
  | accepted hdelivers hevent =>
    rw [exitCode_start_verify hdelivers.begins hdelivers.body, value_received hdelivers.headers,
      hevent]
    rfl

/-- A body that is to be signed is signed, or it is said why not. -/
theorem exists_ends_sign {path : String} {timestamp : Option Int} {event call : Option String}
    {s : Settings} (hbegins : Begins words d (.sign path timestamp event call) s) :
    ∃ ending, Ends words now d ending := by
  cases hbody : System.read d path with
  | error fault => exact ⟨_, .unsignable hbegins hbody⟩
  | ok bytes =>
    cases hdecode : Utf8.decode bytes with
    | error bad => exact ⟨_, .notText hbegins hbody hdecode⟩
    | ok body => exact ⟨_, .signed hbegins hbody hdecode⟩

/-- A delivery that is to be verified is judged, or it is said why not. -/
theorem exists_ends_verify {path : String} {lines : List String} {s : Settings}
    (hbegins : Begins words d (.verify path lines) s) : ∃ ending, Ends words now d ending := by
  cases hbody : System.read d path with
  | error fault => exact ⟨_, .unreadable hbegins hbody⟩
  | ok bytes =>
    cases hheaders : Settings.readHeaders lines with
    | error failure =>
      obtain ⟨line, hfind, -⟩ := Settings.readHeaders_eq_error_iff.mp hheaders
      obtain ⟨hline, before, after, rfl, hbefore⟩ := List.find?_eq_some_iff_append.mp hfind
      refine ⟨_, .noHeader hbegins hbody ?_ (by simpa using hline)⟩
      intro l hl hnone
      simpa [hnone] using hbefore l hl
    | ok headers =>
      have hdelivers : Delivers words d path lines s bytes headers :=
        ⟨hbegins, hbody, Settings.readHeaders_eq_ok_iff.mp hheaders⟩
      cases hevent : s.verifier.event now (.bytes bytes) (.ofTexts headers) .none with
      | error refusal => exact ⟨_, .refused ⟨path, lines, s, bytes, headers, hdelivers, hevent⟩⟩
      | ok event => exact ⟨_, .accepted hdelivers hevent⟩

/-- Every run ends in one of the ways. -/
theorem exists_ends (words : List String) (now : Instant) (d : σ) :
    ∃ ending, Ends words now d ending := by
  cases hread : CommandLine.read words with
  | error fault => exact ⟨_, .answered hread⟩
  | ok asked =>
    cases hcommand : asked.command with
    | init path =>
      cases hwrite : System.write d path (Utf8.encode Settings.File.template) with
      | error fault => exact ⟨_, .unwritable hread hcommand hwrite⟩
      | ok d' => exact ⟨_, .written hread hcommand hwrite⟩
    | sign path timestamp event call =>
      cases hsettings : settingsIn d asked with
      | error failure => exact ⟨_, .unsettled hread (by rw [hcommand]; rfl) hsettings⟩
      | ok s => exact exists_ends_sign ⟨asked, hread, hcommand, hsettings⟩
    | verify path lines =>
      cases hsettings : settingsIn d asked with
      | error failure => exact ⟨_, .unsettled hread (by rw [hcommand]; rfl) hsettings⟩
      | ok s => exact exists_ends_verify ⟨asked, hread, hcommand, hsettings⟩

/-! ### Exit codes -/

theorem exitCode_eq_iff {code : Nat} {filterText : String} :
    ((start words filterText).run now d).exitCode = code ↔
      ∃ ending, Ends words now d ending ∧ ending.exitCode = code := by
  constructor
  · intro hcode
    obtain ⟨ending, hends⟩ := exists_ends words now d
    have hsame := exitCode_of_ends hends filterText
    exact ⟨ending, hends, hsame.symm.trans hcode⟩
  · rintro ⟨ending, hends, rfl⟩
    exact exitCode_of_ends hends filterText

theorem ends_answered_iff {fault : UsageFault} :
    Ends words now d (.answered fault) ↔ CommandLine.read words = .error fault := by
  constructor
  · intro hends
    cases hends with
    | answered hread => exact hread
  · exact .answered

theorem ends_refused_iff {refusal : Refusal} :
    Ends words now d (.failed (.refused refusal)) ↔ Refuses words now d refusal := by
  constructor
  · intro hends
    cases hends with
    | refused hrefuses => exact hrefuses
  · exact .refused

theorem Ending.exitCode_eq_two_iff {ending : Ending} : ending.exitCode = 2 ↔
    (∃ refusal, ending = .failed (.refused refusal)) ∨
      ∃ fault, ending = .answered fault ∧ fault.isWish = false := by
  cases ending with
  | answered fault => cases fault <;> simp [exitCode, UsageFault.isWish]
  | failed failure => cases failure <;> simp [exitCode]
  | done => simp [exitCode]

theorem Ending.exitCode_eq_one_iff {ending : Ending} : ending.exitCode = 1 ↔
    ∃ failure, ending = .failed failure ∧ ∀ refusal, failure ≠ .refused refusal := by
  cases ending with
  | answered fault => cases fault <;> simp [exitCode, UsageFault.isWish]
  | failed failure => cases failure <;> simp [exitCode]
  | done => simp [exitCode]

theorem Ending.exitCode_eq_zero_iff {ending : Ending} : ending.exitCode = 0 ↔
    ending = .done ∨ ∃ fault, ending = .answered fault ∧ fault.isWish = true := by
  cases ending with
  | answered fault => cases fault <;> simp [exitCode, UsageFault.isWish]
  | failed failure => cases failure <;> simp [exitCode]
  | done => simp [exitCode]

/-- The exit code is two exactly if a delivery is refused or the command line is wrong. -/
theorem exitCode_start_eq_two_iff {filterText : String} :
    ((start words filterText).run now d).exitCode = 2 ↔
      (∃ refusal, Refuses words now d refusal) ∨
        ∃ fault, CommandLine.read words = .error fault ∧ fault.isWish = false := by
  rw [exitCode_eq_iff]
  constructor
  · rintro ⟨ending, hends, hcode⟩
    rcases Ending.exitCode_eq_two_iff.mp hcode with ⟨refusal, rfl⟩ | ⟨fault, rfl, hwish⟩
    · exact .inl ⟨refusal, ends_refused_iff.mp hends⟩
    · exact .inr ⟨fault, ends_answered_iff.mp hends, hwish⟩
  · rintro (⟨refusal, hrefuses⟩ | ⟨fault, hread, hwish⟩)
    · exact ⟨_, .refused hrefuses, rfl⟩
    · exact ⟨_, .answered hread, Ending.exitCode_eq_two_iff.mpr (.inr ⟨fault, rfl, hwish⟩)⟩

/-- The exit code is one exactly if something else fails. -/
theorem exitCode_start_eq_one_iff {filterText : String} :
    ((start words filterText).run now d).exitCode = 1 ↔
      ∃ failure, Ends words now d (.failed failure) ∧ ∀ refusal, failure ≠ .refused refusal := by
  rw [exitCode_eq_iff]
  constructor
  · rintro ⟨ending, hends, hcode⟩
    obtain ⟨failure, rfl, hother⟩ := Ending.exitCode_eq_one_iff.mp hcode
    exact ⟨failure, hends, hother⟩
  · rintro ⟨failure, hends, hother⟩
    exact ⟨_, hends, Ending.exitCode_eq_one_iff.mpr ⟨failure, rfl, hother⟩⟩

/-- The exit code is zero exactly if what was asked for is done, help and the version
included. -/
theorem exitCode_start_eq_zero_iff {filterText : String} :
    ((start words filterText).run now d).exitCode = 0 ↔ Ends words now d .done ∨
      ∃ fault, CommandLine.read words = .error fault ∧ fault.isWish = true := by
  rw [exitCode_eq_iff]
  constructor
  · rintro ⟨ending, hends, hcode⟩
    rcases Ending.exitCode_eq_zero_iff.mp hcode with rfl | ⟨fault, rfl, hwish⟩
    · exact .inl hends
    · exact .inr ⟨fault, ends_answered_iff.mp hends, hwish⟩
  · rintro (hends | ⟨fault, hread, hwish⟩)
    · exact ⟨_, hends, rfl⟩
    · exact ⟨_, .answered hread, Ending.exitCode_eq_zero_iff.mpr (.inr ⟨fault, rfl, hwish⟩)⟩

/-- **Exit codes.** Whatever the files answer, every run ends in one of the ways, and its
exit code is that of its ending. It is two exactly if the delivery is refused that a command
line names which can be carried out up to its verdict, or the command line itself is wrong;
one exactly if something else fails; and zero exactly if what was asked for is done, help and
the version included. If there are lines that are no headers then only the first of them is
reported, and nothing is said of the delivery. -/
theorem exitCode_by_ending (words : List String) (filterText : String) (now : Instant)
    (d : σ) :
    let t := (start words filterText).run now d
    (∃ ending, Ends words now d ending) ∧
    (∀ ending, Ends words now d ending → t.exitCode = ending.exitCode) ∧
    (t.exitCode = 2 ↔ (∃ refusal, Refuses words now d refusal) ∨
      ∃ fault, CommandLine.read words = .error fault ∧ fault.isWish = false) ∧
    (t.exitCode = 1 ↔ ∃ failure, Ends words now d (.failed failure) ∧
      ∀ refusal, failure ≠ .refused refusal) ∧
    (t.exitCode = 0 ↔ Ends words now d .done ∨
      ∃ fault, CommandLine.read words = .error fault ∧ fault.isWish = true) ∧
    ∀ path before line after s bytes, Begins words d (.verify path (before ++ line :: after)) s →
      System.read d path = .ok bytes → (∀ l ∈ before, HeaderLine.read l ≠ none) →
      HeaderLine.read line = none →
      t = ⟨1, "", openingText s filterText ++
        ((Settings.Failure.invalidHeader line).message ++ "\n"), d⟩ := by
  intro t
  refine ⟨exists_ends words now d, fun _ hends => exitCode_of_ends hends filterText,
    exitCode_start_eq_two_iff, exitCode_start_eq_one_iff, exitCode_start_eq_zero_iff, ?_⟩
  intro path before line after s bytes hbegins hbody hbefore hline
  exact run_start_noHeader hbegins hbody hbefore hline

/-- A command line that names a body and two lines that are no headers. -/
def unheadedWords : List String :=
  ["verify", "--secret", "whsec_test", "--body", "b.json", "--header", "first", "--header",
    "second"]

/-- The body is there and empty. -/
def unheadedDirectory : Files.Directory := Files.Directory.empty.put ["b.json"] []

/-- The first of the two lines is reported. -/
theorem exitCode_unheaded :
    Begins unheadedWords unheadedDirectory (.verify "b.json" ["first", "second"])
      ⟨"whsec_test", 300000, false⟩ ∧
    (start unheadedWords "").run (.ofMillis 0) unheadedDirectory =
      ⟨1, "", openingText ⟨"whsec_test", 300000, false⟩ "" ++
        ((Settings.Failure.invalidHeader "first").message ++ "\n"), unheadedDirectory⟩ := by
  have hbegins : Begins unheadedWords unheadedDirectory (.verify "b.json" ["first", "second"])
      ⟨"whsec_test", 300000, false⟩ :=
    ⟨⟨.verify "b.json" ["first", "second"], some "whsec_test", none, none, false⟩, rfl, rfl, rfl⟩
  obtain ⟨-, -, -, -, -, hfirst⟩ :=
    exitCode_by_ending unheadedWords "" (.ofMillis 0) unheadedDirectory
  refine ⟨hbegins, hfirst "b.json" [] "first" ["second"] _ [] hbegins rfl ?_ (by decide)⟩
  intro l hl
  cases hl

/-- A command line that names no body ends with two, and no delivery is refused. -/
theorem exitCode_misused :
    ((start ["verify"] "").run (.ofMillis 0) Files.Directory.empty).exitCode = 2 ∧
    ¬ ∃ refusal, Refuses ["verify"] (.ofMillis 0) Files.Directory.empty refusal := by
  refine ⟨rfl, ?_⟩
  rintro ⟨refusal, path, lines, s, bytes, headers, ⟨⟨asked, hread, -⟩, -, -⟩, -⟩
  have hwrong : CommandLine.read ["verify"] = .error .missingOption := rfl
  rw [hwrong] at hread
  cases hread

end Program
end SignedHooks
