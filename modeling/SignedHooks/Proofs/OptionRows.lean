/-
# Options in a row

A word that begins with a dash is an option, unless it is the dash alone; every other word is
plain (`CommandLine.plain_iff`). An option that waits for its value takes a plain word, and a
negative number only if it says so (`CommandLine.Takes`). All else is an option again, and as
the one that waits has no value then, the command line is wrong
(`CommandLine.wrong_readWords_of_not_takes`).

Options with their values may stand in a row (`CommandLine.Row`). Each of them settles one more
option (`CommandLine.readWord_of_takes`, `CommandLine.readWord_attached`), and by induction
along the row a level makes of it what it settles (`CommandLine.Row.exists_readWords`,
`CommandLine.Row.readLevel`). A value that is attached to its option is no word of its own, and
so it may begin with a dash.

Key definitions: `CommandLine.Plain`, `CommandLine.Takes`, `CommandLine.Wrong`,
`CommandLine.Progress.Holds`, `CommandLine.Settles`, `CommandLine.Row`.
Key theorems: `CommandLine.plain_iff`, `CommandLine.wrong_readWords_of_not_takes`,
`CommandLine.Row.exists_readWords`, `CommandLine.Row.readLevel`,
`CommandLine.Row.wrong_readLevel`, `CommandLine.read_configured`.
-/
import Mathlib.Data.String.Basic
import SignedHooks.CommandLine.Reader
import SignedHooks.Proofs.JsonParts

namespace SignedHooks
namespace CommandLine

/-! ### Words -/

/-- The word is no option. -/
def Plain (word : String) : Prop :=
  Word.ofText word = .plain word

instance : DecidablePred Plain := fun word =>
  inferInstanceAs (Decidable (Word.ofText word = .plain word))

/-- What begins with a dash is an option, unless it is the dash alone. -/
theorem plain_iff {word : String} : Plain word ↔ (word.toList.head? = some '-' → word = "-") := by
  unfold Plain Word.ofText
  split
  · next h => simp [h, ← String.toList_inj]
  · next h => simp [h, ← String.toList_inj, Word.ofLong]
  · next h => simp [h, ← String.toList_inj]
  · next hescape hlong hshort =>
    refine iff_of_true rfl fun hhead => ?_
    obtain ⟨rest, hrest⟩ := List.head?_eq_some_iff.mp hhead
    cases rest with
    | nil => exact String.toList_inj.mp hrest
    | cons c rest => exact absurd hrest (hshort c rest)

theorem plain_of_ofText {word text : String} (h : Word.ofText word = .plain text) : Plain word := by
  have htext : text = word := by
    unfold Word.ofText at h
    split at h <;> cases h
    rfl
  rw [Plain, h, htext]

theorem exists_of_ofText_short {word : String} {letters : List Char}
    (h : Word.ofText word = .short letters) : ∃ c rest, letters = c :: rest := by
  unfold Word.ofText at h
  split at h <;> cases h
  exact ⟨_, _, rfl⟩

theorem ofText_dashes {text : String} {c : Char} {rest : List Char}
    (h : text.toList = '-' :: '-' :: c :: rest) : Word.ofText text = .ofLong (c :: rest) := by
  rw [Word.ofText, h]
  rfl

theorem ofText_dash {text : String} {c : Char} {rest : List Char} (hc : c ≠ '-')
    (h : text.toList = '-' :: c :: rest) : Word.ofText text = .short (c :: rest) := by
  rw [Word.ofText, h]
  split
  · next heq => simp_all
  · next heq => simp_all
  · next heq =>
    cases heq
    rfl
  · next hshort => exact absurd rfl (hshort c rest)

theorem ofText_long {name : String} (hne : name ≠ "") (hequals : '=' ∉ name.toList) :
    Word.ofText ("--" ++ name) = .long name none := by
  obtain ⟨c, rest, hname⟩ := List.exists_cons_of_ne_nil (mt String.toList_eq_nil_iff.mp hne)
  have hkeep : ∀ d ∈ name.toList, decide (d ≠ '=') = true :=
    fun d hd => decide_eq_true fun heq => hequals (heq ▸ hd)
  have htext : ("--" ++ name).toList = '-' :: '-' :: name.toList := String.toList_append
  rw [hname] at htext hkeep
  rw [ofText_dashes htext, Word.ofLong, List.takeWhile_eq_self_iff.mpr hkeep,
    List.dropWhile_eq_nil_iff.mpr hkeep, ← hname, String.ofList_toList]

theorem ofText_attached {name : String} (hequals : '=' ∉ name.toList) (value : String) :
    Word.ofText ("--" ++ name ++ "=" ++ value) = .long name (some value) := by
  have hkeep : ∀ d ∈ name.toList, decide (d ≠ '=') = true :=
    fun d hd => decide_eq_true fun heq => hequals (heq ▸ hd)
  have htext : ("--" ++ name ++ "=" ++ value).toList =
      '-' :: '-' :: (name.toList ++ '=' :: value.toList) := by simp
  obtain ⟨c, rest, hrest⟩ : ∃ c rest, name.toList ++ '=' :: value.toList = c :: rest :=
    List.exists_cons_of_ne_nil (by simp)
  rw [hrest] at htext
  rw [ofText_dashes htext, ← hrest, Word.ofLong, List.takeWhile_append_of_pos hkeep,
    List.dropWhile_append_of_pos hkeep]
  simp

/-- The word is taken for the value of an option that waits for one. -/
inductive Takes (spec : OptionSpec) (word : String) : Prop where
  /-- It is no option. -/
  | plain (h : Plain word) : Takes spec word
  /-- It is a negative number, and the option says that it may be one. -/
  | negative {letters : List Char} (hspec : spec.negatives = true)
      (hword : Word.ofText word = .short letters) (hletters : looksNumeric letters = true) :
    Takes spec word

/-! ### Options of a level -/

namespace Level

variable {level : Level} {spec : OptionSpec}

theorem long?_of_mem (h : spec ∈ level.options) : level.long? spec.long = some spec := by
  have hall : ∀ spec ∈ level.options, level.long? spec.long = some spec := by
    cases level <;> decide
  exact hall spec h

theorem ofText_of_mem (h : spec ∈ level.options) :
    Word.ofText ("--" ++ spec.long) = .long spec.long none := by
  have hall : ∀ spec ∈ level.options, spec.long ≠ "" ∧ '=' ∉ spec.long.toList := by
    cases level <;> decide
  exact ofText_long (hall spec h).1 (hall spec h).2

theorem ofText_attached_of_mem (h : spec ∈ level.options) (value : String) :
    Word.ofText ("--" ++ spec.long ++ "=" ++ value) = .long spec.long (some value) := by
  have hall : ∀ spec ∈ level.options, '=' ∉ spec.long.toList := by
    cases level <;> decide
  exact ofText_attached (hall spec h) value

/-- No option is a digit. -/
theorem short?_of_isDigit {c : Char} (hc : c.isDigit = true) : level.short? c = none := by
  have hall : ∀ spec ∈ level.options, spec.short.any Char.isDigit = false := by
    cases level <;> decide
  rw [short?, List.find?_eq_none]
  intro spec hspec hshort
  have hletter := hall spec hspec
  rw [beq_iff_eq.mp hshort, Option.any_some, hc] at hletter
  cases hletter

end Level

/-! ### Wrong command lines -/

section

variable {α β : Type} {answer : Except UsageFault α}

/-- The answer is a fault, and no wish. -/
def Wrong (answer : Except UsageFault α) : Prop :=
  ∃ fault, answer = .error fault ∧ fault.isWish = false

theorem wrong_error {fault : UsageFault} (h : fault.isWish = false) :
    Wrong (.error fault : Except UsageFault α) :=
  ⟨fault, rfl, h⟩

/-- Once it is wrong nothing that comes later is looked at. -/
theorem Wrong.bind (h : Wrong answer) (next : α → Except UsageFault β) :
    Wrong (answer >>= next) := by
  obtain ⟨fault, rfl, hwish⟩ := h
  exact ⟨fault, rfl, hwish⟩

end

variable {level : Level} {p : Progress} {spec : OptionSpec} {word value : String}
  {settled : List (OptionName × String)} {words rest : List String}

theorem wrong_strayWord {α : Type} :
    Wrong (.error (strayWord level p word) : Except UsageFault α) := by
  refine wrong_error ?_
  simp only [strayWord]
  split_ifs <;> rfl

namespace Progress

/-- So much is settled, and an option waits for its value. -/
def waiting (settled : List (OptionName × String)) (spec : OptionSpec) : Progress :=
  ⟨settled, some (spec, none), false⟩

/-- An option that waits leaves what comes next without a chance but to be its value. -/
theorem wrong_settle (h : p.awaiting? = some spec) : Wrong p.settle := by
  unfold awaiting? at h
  split at h
  · next hpending =>
    rw [settle, hpending]
    exact wrong_error rfl
  · cases h

theorem wrong_flag (h : p.awaiting? = some spec) (other : OptionSpec) : Wrong (p.flag other) :=
  (wrong_settle h).bind _

theorem wrong_attach (h : p.awaiting? = some spec) (other : OptionSpec) (value : String) :
    Wrong (p.attach other value) :=
  (wrong_settle h).bind _

theorem wrong_wait (h : p.awaiting? = some spec) (other : OptionSpec) : Wrong (p.wait other) :=
  (wrong_settle h).bind _

end Progress

theorem wrong_readLong (h : p.awaiting? = some spec) (name : String) (value : Option String) :
    Wrong (readLong level p name value) := by
  unfold readLong
  split
  · exact wrong_error rfl
  · split
    · exact wrong_error rfl
    · exact Progress.wrong_flag h _
    · exact Progress.wrong_attach h _ _
    · exact Progress.wrong_wait h _

theorem wrong_readShort (h : p.awaiting? = some spec) (letter : Char) (letters : List Char) :
    Wrong (readShort level p (letter :: letters)) := by
  unfold readShort
  split
  · exact wrong_error rfl
  · split_ifs
    · exact (Progress.wrong_flag h _).bind _
    · split
      · exact Progress.wrong_wait h _
      · exact Progress.wrong_attach h _ _
      · exact Progress.wrong_attach h _ _

/-! ### Values -/

/-- A word that is taken is the value of the option that waits. -/
theorem readWord_of_takes (h : Takes spec word) :
    readWord level (.waiting settled spec) word = .ok ⟨settled, some (spec, some word), false⟩ := by
  cases h with
  | plain hplain =>
    rw [Plain] at hplain
    simp [readWord, Progress.waiting, hplain, readPlain, Progress.awaiting?]
  | negative hspec hword hletters =>
    simp [readWord, Progress.waiting, hword, hspec, hletters, readPlain, Progress.awaiting?]

/-- A dash with a letter that no option has is not known. -/
theorem readWord_of_unknown {c : Char} {letters : List Char} (hspec : spec.negatives = false)
    (hword : Word.ofText word = .short (c :: letters)) (hletter : level.short? c = none) :
    readWord level (.waiting settled spec) word = .error .unknownWord := by
  simp [readWord, Progress.waiting, Progress.awaiting?, hword, hspec, readShort, hletter]

/-- A word that is not taken ends the options, or is wrong. -/
theorem escape_or_wrong_of_not_takes (level : Level) (settled : List (OptionName × String))
    (h : ¬ Takes spec word) : (Word.ofText word = .escape ∧
      readWord level (.waiting settled spec) word = .ok ⟨settled, some (spec, none), true⟩) ∨
    Wrong (readWord level (.waiting settled spec) word) := by
  have hawaiting : (Progress.waiting settled spec).awaiting? = some spec := rfl
  cases hword : Word.ofText word with
  | escape => exact .inl ⟨rfl, by simp [readWord, Progress.waiting, hword]⟩
  | long name value =>
    right
    simp only [readWord, hword]
    exact wrong_readLong hawaiting name value
  | short letters =>
    right
    obtain ⟨c, rest, rfl⟩ := exists_of_ofText_short hword
    have hnumber : ¬ (spec.negatives && looksNumeric (c :: rest)) = true := by
      intro hboth
      rw [Bool.and_eq_true] at hboth
      exact h (.negative hboth.1 hword hboth.2)
    simp only [readWord, hword, hawaiting, Option.any_some, if_neg hnumber]
    exact wrong_readShort hawaiting c rest
  | plain text => exact absurd (.plain (plain_of_ofText hword)) h

theorem readWords_cons (h : p.takesSubcommand level = false) :
    readWords level p (word :: rest) =
      readWord level p word >>= fun q => readWords level q rest := by
  simp only [readWords, h, Bool.false_and, Bool.false_eq_true, if_false]

/-- Behind the end of the options there is no word that can be read. -/
theorem wrong_readWords_of_escaped (h : p.escaped = true) :
    Wrong (readWords level p (word :: rest)) := by
  have htakes : p.takesSubcommand level = false := by simp [Progress.takesSubcommand, h]
  have hword : readWord level p word = .error (strayWord level p word) := by
    rw [readWord, if_pos h]
  rw [readWords_cons htakes, hword]
  exact wrong_strayWord.bind _

/-- Where an option waits for its value, a word that is not taken makes the command line wrong,
at once or with the next word. -/
theorem wrong_readWords_of_not_takes (h : ¬ Takes spec word)
    (hnext : rest ≠ [] ∨ Word.ofText word ≠ .escape) :
    Wrong (readWords level (.waiting settled spec) (word :: rest)) := by
  have htakes : (Progress.waiting settled spec).takesSubcommand level = false := by
    simp [Progress.takesSubcommand, Progress.waiting, Progress.awaiting?]
  rw [readWords_cons htakes]
  rcases escape_or_wrong_of_not_takes level settled h with ⟨hescape, hread⟩ | hwrong
  · obtain ⟨next, behind, rfl⟩ :=
      List.exists_cons_of_ne_nil (hnext.resolve_right (not_not_intro hescape))
    rw [hread]
    exact wrong_readWords_of_escaped rfl
  · exact hwrong.bind _

/-! ### Rows -/

/-- So much is settled once what came last is, and nothing is missing for it. -/
structure Progress.Holds (p : Progress) (settled : List (OptionName × String)) : Prop where
  /-- What came last can be settled. -/
  settle : p.settle = .ok ⟨settled, none, false⟩
  /-- No option waits for a value. -/
  awaiting : p.awaiting? = none
  /-- The options have not ended. -/
  escaped : p.escaped = false

theorem Progress.holds_start : Progress.start.Holds [] :=
  ⟨rfl, rfl, rfl⟩

/-- An option of the level that takes a value can be settled with this one. -/
structure Settles (level : Level) (settled : List (OptionName × String)) (spec : OptionSpec)
    (value : String) : Prop where
  /-- The level knows the option. -/
  mem : spec ∈ level.options
  /-- It takes a value. -/
  kind : spec.kind ≠ .flag
  /-- It has not been settled before, or may be repeated. -/
  fresh : spec.repeats = true ∨ ∀ given ∈ settled, given.1 ≠ spec.name
  /-- The value fits. -/
  fits : checkValue spec.kind value = .ok ()

/-- The words give options in a row, and with them more is settled. -/
inductive Row (level : Level) :
    List (OptionName × String) → List String → List (OptionName × String) → Prop where
  /-- No more options. -/
  | nil {settled : List (OptionName × String)} : Row level settled [] settled
  /-- An option with its value in the next word. -/
  | next {settled settled' : List (OptionName × String)} {spec : OptionSpec} {value : String}
      {words : List String} (h : Settles level settled spec value) (htakes : Takes spec value)
      (hrest : Row level (settled ++ [(spec.name, value)]) words settled') :
    Row level settled (("--" ++ spec.long) :: value :: words) settled'
  /-- An option with its value behind an equals sign. -/
  | attached {settled settled' : List (OptionName × String)} {spec : OptionSpec} {value : String}
      {words : List String} (h : Settles level settled spec value)
      (hrest : Row level (settled ++ [(spec.name, value)]) words settled') :
    Row level settled (("--" ++ spec.long ++ "=" ++ value) :: words) settled'

theorem Settles.record (h : Settles level settled spec value) :
    (⟨settled, none, false⟩ : Progress).record spec value =
      .ok ⟨settled ++ [(spec.name, value)], none, false⟩ := by
  have hmay : ¬ (!spec.repeats && (⟨settled, none, false⟩ : Progress).has spec.name) = true := by
    rcases h.fresh with hrepeats | hnew
    · simp [hrepeats]
    · have hnone : settled.find? (fun given => given.1 == spec.name) = none := by
        simpa [List.find?_eq_none] using hnew
      simp [Progress.has, Progress.value?, hnone]
  rw [Progress.record, if_neg hmay, h.fits]
  rfl

theorem Settles.holds (h : Settles level settled spec value) :
    (⟨settled, some (spec, some value), false⟩ : Progress).Holds
      (settled ++ [(spec.name, value)]) :=
  ⟨h.record, rfl, rfl⟩

theorem readWord_long (hp : p.Holds settled) (hmem : spec ∈ level.options)
    (hkind : spec.kind ≠ .flag) :
    readWord level p ("--" ++ spec.long) = .ok (.waiting settled spec) := by
  have hwait : p.wait spec = .ok (.waiting settled spec) := by
    rw [Progress.wait, hp.settle]
    rfl
  have hlong : readLong level p spec.long none = p.wait spec := by
    simp only [readLong, Level.long?_of_mem hmem]
  rw [readWord, if_neg (by simp [hp.escaped]), Level.ofText_of_mem hmem]
  exact hlong.trans hwait

/-- A value that is attached to its option is not looked at as a word. -/
theorem readWord_attached (hp : p.Holds settled) (h : Settles level settled spec value) :
    readWord level p ("--" ++ spec.long ++ "=" ++ value) =
      .ok ⟨settled ++ [(spec.name, value)], none, false⟩ := by
  have hattach : p.attach spec value = .ok ⟨settled ++ [(spec.name, value)], none, false⟩ := by
    rw [Progress.attach, hp.settle]
    exact h.record
  have hlong : readLong level p spec.long (some value) = p.attach spec value := by
    have hkind := h.kind
    simp only [readLong, Level.long?_of_mem h.mem]
  rw [readWord, if_neg (by simp [hp.escaped]), Level.ofText_attached_of_mem h.mem]
  exact hlong.trans hattach

theorem takesSubcommand_eq_false (h : level ≠ .program) (p : Progress) :
    p.takesSubcommand level = false := by
  simp [Progress.takesSubcommand, h]

/-- A row is read to its end, and what stands behind it is read from there. -/
theorem Row.exists_readWords {settled' : List (OptionName × String)}
    (hrow : Row level settled words settled') (hlevel : level ≠ .program)
    (hp : p.Holds settled) :
    ∃ q : Progress, q.Holds settled' ∧
      ∀ rest, readWords level p (words ++ rest) = readWords level q rest := by
  -- an option is settled only by what comes behind it, so what is kept along the row is not
  -- what is settled but what will be
  induction hrow generalizing p with
  | nil => exact ⟨p, hp, fun _ => rfl⟩
  | @next settled settled' spec value words h htakes hrest ih =>
    obtain ⟨q, hq, hwords⟩ := ih h.holds
    refine ⟨q, hq, fun rest => ?_⟩
    rw [List.cons_append, List.cons_append, readWords_cons (takesSubcommand_eq_false hlevel _),
      readWord_long hp h.mem h.kind, ← hwords]
    exact (readWords_cons (takesSubcommand_eq_false hlevel _)).trans
      (by rw [readWord_of_takes htakes]; rfl)
  | @attached settled settled' spec value words h hrest ih =>
    have hsettled : (⟨settled ++ [(spec.name, value)], none, false⟩ : Progress).Holds
        (settled ++ [(spec.name, value)]) := ⟨rfl, rfl, rfl⟩
    obtain ⟨q, hq, hwords⟩ := ih hsettled
    refine ⟨q, hq, fun rest => ?_⟩
    rw [List.cons_append, readWords_cons (takesSubcommand_eq_false hlevel _),
      readWord_attached hp h, ← hwords]
    rfl

/-- A level makes of a row what the row settles. -/
theorem Row.readLevel (hrow : Row level [] words settled) (hlevel : level ≠ .program) :
    readLevel level words = .ok ⟨settled, none, false⟩ := by
  obtain ⟨q, hq, hwords⟩ := hrow.exists_readWords hlevel Progress.holds_start
  have hall := hwords []
  rw [List.append_nil] at hall
  rw [CommandLine.readLevel, hall]
  exact hq.settle

/-- Behind a row an option whose value is not taken makes the command line wrong. -/
theorem Row.wrong_readLevel (hrow : Row level [] words settled) (hlevel : level ≠ .program)
    (hmem : spec ∈ level.options) (hkind : spec.kind ≠ .flag) (htakes : ¬ Takes spec word)
    (hnext : rest ≠ [] ∨ Word.ofText word ≠ .escape) :
    Wrong (CommandLine.readLevel level (words ++ ("--" ++ spec.long) :: word :: rest)) := by
  obtain ⟨q, hq, hwords⟩ := hrow.exists_readWords hlevel Progress.holds_start
  rw [CommandLine.readLevel, hwords, readWords_cons (takesSubcommand_eq_false hlevel _),
    readWord_long hq hmem hkind]
  exact (wrong_readWords_of_not_takes htakes hnext).bind _

/-! ### Options by their names -/

/-- The option of the settings file. -/
def configOption : OptionSpec :=
  .once .config "config" (some 'c') .path

/-- An option that takes no negative numbers takes plain words only. -/
theorem takes_iff_plain (h : spec.negatives = false) : Takes spec word ↔ Plain word := by
  constructor
  · intro htakes
    cases htakes with
    | plain hplain => exact hplain
    | negative hspec => exact absurd (h.symm.trans hspec) (by decide)
  · exact .plain

theorem checkValue_path (h : value ≠ "") : checkValue .path value = .ok () := by
  simp [checkValue, h]

theorem checkValue_integer {n : Int} (h : Signed64.read value.toList = .ok n) :
    checkValue .integer value = .ok () := by
  simp only [checkValue, h]

/-- The words of the program's level up to the file of the settings. -/
theorem readWords_config (rest : List String) : readWords .program .start ("-c" :: rest) =
    readWords .program (.waiting [] configOption) rest := rfl

/-- In front of a subcommand the file of the settings can be named. -/
theorem read_configured (level : Level) {path name : String} (hpath : Plain path) (hne : path ≠ "")
    (hname : Level.ofSubcommand? name = some level) :
    read ("-c" :: path :: name :: rest) = do
      let inner ← readLevel level rest
      let asked ← command level inner
      return invocation asked ⟨[(.config, path)], none, false⟩ inner := by
  have hhelp : (name == helpCommand) = false := by
    rw [beq_eq_false_iff_ne]
    rintro rfl
    cases hname
  have hwords : readWords .program .start ("-c" :: path :: name :: rest) =
      .ok ⟨⟨[], some (configOption, some path), false⟩, some (level, rest)⟩ := by
    have hsub : (⟨[], some (configOption, some path), false⟩ : Progress).takesSubcommand .program =
        true := rfl
    rw [readWords_config, readWords_cons rfl, readWord_of_takes (.plain hpath)]
    simp only [bind, Except.bind, readWords, hsub, hhelp, hname]
    simp
  have hsettle : (⟨[], some (configOption, some path), false⟩ : Progress).settle =
      .ok ⟨[(.config, path)], none, false⟩ := by
    have hsettles : Settles .program [] configOption path :=
      ⟨by decide, by decide, .inr nofun, checkValue_path hne⟩
    exact hsettles.record
  rw [read, hwords]
  simp only [bind, Except.bind, hsettle]

theorem wrong_read_of_not_plain {path : String} (hpath : ¬ Plain path) (hrest : rest ≠ []) :
    Wrong (read ("-c" :: path :: rest)) := by
  have htakes : ¬ Takes configOption path := (takes_iff_plain rfl).not.mpr hpath
  rw [read, readWords_config]
  exact (wrong_readWords_of_not_takes htakes (.inl hrest)).bind _

end CommandLine
end SignedHooks
