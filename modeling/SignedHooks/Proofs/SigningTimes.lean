/-
# Signing at a given time

A time that the command line gives stands in a word of its own or is attached to its option. A
time before the epoch begins with a dash (`CommandLine.plain_write_iff`), and in a word of its
own it is taken for an option, since the option of the time does not say that it takes negative
numbers, as that of the tolerance does (`CommandLine.read_signWords_of_neg`,
`CommandLine.row_verify`). So there a body is signed exactly from the epoch on, and behind an
equals sign at every time (`Program.signed_iff_not_before_epoch`).

What is printed are two lines (`SignedHeaders.ended_signAt`), from which the two headers are read
again and which look like no options (`SignedHeaders.forall₂_bareLines`,
`SignedHeaders.plain_of_mem_bareLines`). A verifier that is given them and does not look at the
time accepts the body, whenever it was signed (`Program.Signable.run_verifying`).

Key definitions: `CommandLine.signWords`, `CommandLine.verifyWords`, `Program.Signable`.
Key theorems: `CommandLine.read_signWords`, `CommandLine.read_signWords_of_neg`,
`CommandLine.read_verifyWords`, `Program.Signable.run_signing`,
`Program.Signable.run_verifying`, `Program.signed_iff_not_before_epoch`.
-/
import SignedHooks.Proofs.BodyText
import SignedHooks.Proofs.Delivery
import SignedHooks.Proofs.EventReading
import SignedHooks.Proofs.OptionRows
import SignedHooks.Proofs.PrintedLines
import SignedHooks.Proofs.SettingsFile

namespace SignedHooks

/-! ### Command lines -/

namespace CommandLine

variable {config body : String} {millis : Int} {words : List String}

/-- The option of the time of signing. -/
def timestampOption : OptionSpec :=
  .once .timestamp "timestamp" none .integer

/-- The option of the tolerance. -/
def toleranceOption : OptionSpec :=
  ⟨.tolerance, "tolerance", none, .integer, true, false⟩

/-- The option of a header. -/
def headerOption : OptionSpec :=
  ⟨.header, "header", none, .text, false, true⟩

/-- A time before the epoch is a digit behind a dash. -/
theorem exists_ofText_write (h : millis < 0) : ∃ c rest,
    Word.ofText (Timestamp.write millis) = .short (c :: rest) ∧ c.isDigit = true := by
  have hdigits := Decimal.digits_digitsOf millis.natAbs
  obtain ⟨c, rest, hcs⟩ := List.exists_cons_of_ne_nil hdigits.1
  have hdigit : c.isDigit = true := hdigits.2 c (hcs ▸ List.mem_cons_self)
  have hdash : c ≠ '-' := by
    rintro rfl
    exact absurd hdigit (by decide)
  refine ⟨c, rest, ofText_dash hdash ?_, hdigit⟩
  rw [Timestamp.toList_write, if_pos h, hcs]

/-- All other times are plain. -/
theorem plain_write_iff : Plain (Timestamp.write millis) ↔ 0 ≤ millis := by
  by_cases h : millis < 0
  · obtain ⟨c, rest, hshort, -⟩ := exists_ofText_write h
    refine iff_of_false (fun hplain => ?_) (by omega)
    rw [Plain, hshort] at hplain
    cases hplain
  · refine iff_of_true (plain_iff.mpr fun hhead => ?_) (by omega)
    rw [Timestamp.toList_write, if_neg h] at hhead
    have hdigit := (Decimal.digits_digitsOf millis.natAbs).2 '-' (List.mem_of_mem_head? hhead)
    exact absurd hdigit (by decide)

theorem read_toList_write (h : Signed64.Fits millis) :
    Signed64.read (Timestamp.write millis).toList = .ok millis :=
  Signed64.read_of_spells (Timestamp.spells_write millis) h

theorem settles_body {level : Level} (hmem : bodyOption ∈ level.options) (hbody : body ≠ "") :
    Settles level [] bodyOption body :=
  ⟨hmem, by decide, .inr nofun, checkValue_path hbody⟩

theorem settles_timestamp (h : Signed64.Fits millis) :
    Settles .sign [(.body, body)] timestampOption (Timestamp.write millis) := by
  refine ⟨by decide, by decide, .inr ?_, checkValue_integer (read_toList_write h)⟩
  simp [timestampOption, OptionSpec.once]

/-- The words that ask to sign a body, with the settings of a file. -/
def signWords (config body : String) (stamp : List String) : List String :=
  "-c" :: config :: "sign" :: (["--body", body] ++ stamp)

/-- The words that ask to verify a delivery with the settings of a file, whatever its time. -/
def verifyWords (config body : String) (lines : List String) : List String :=
  "-c" :: config :: "verify" ::
    (["--body", body, "--tolerance", "-1"] ++ lines.flatMap fun line => ["--header", line])

/-- What signing a body at some time asks for. -/
def signing (config body : String) (millis : Int) : Invocation :=
  ⟨.sign body (some millis) none none, none, none, some config, false⟩

/-- What verifying a delivery asks for. -/
def verifying (config body : String) (lines : List String) : Invocation :=
  ⟨.verify body lines, none, some (-1), some config, false⟩

/-- The time in the next word. -/
theorem row_nextStamp (hbody : Plain body) (hne : body ≠ "") (h : Signed64.Fits millis)
    (hplain : Plain (Timestamp.write millis)) :
    Row .sign [] (["--body", body] ++ ["--timestamp", Timestamp.write millis])
      [(.body, body), (.timestamp, Timestamp.write millis)] :=
  .next (settles_body (by decide) hne) (.plain hbody)
    (.next (settles_timestamp h) (.plain hplain) .nil)

/-- The time behind an equals sign. -/
theorem row_attachedStamp (hbody : Plain body) (hne : body ≠ "") (h : Signed64.Fits millis) :
    Row .sign [] (["--body", body] ++ ["--timestamp=" ++ Timestamp.write millis])
      [(.body, body), (.timestamp, Timestamp.write millis)] :=
  .next (settles_body (by decide) hne) (.plain hbody) (.attached (settles_timestamp h) .nil)

/-- A row of headers, of which there may be any number. -/
theorem row_headers : ∀ {lines : List String} (settled : List (OptionName × String)),
    (∀ line ∈ lines, Plain line) →
      Row .verify settled (lines.flatMap fun line => ["--header", line])
        (settled ++ lines.map fun line => (.header, line))
  | [], settled, _ => by
    rw [List.map_nil, List.append_nil]
    exact .nil
  | line :: lines, settled, hlines => by
    obtain ⟨hline, hrest⟩ := List.forall_mem_cons.mp hlines
    have hrow := row_headers (settled ++ [(headerOption.name, line)]) hrest
    rw [List.append_assoc] at hrow
    exact .next ⟨by decide, by decide, .inl rfl, rfl⟩ (.plain hline) hrow

/-- The tolerance may be negative, though it stands in a word of its own. -/
theorem row_verify {lines : List String} (hbody : Plain body) (hne : body ≠ "")
    (hlines : ∀ line ∈ lines, Plain line) :
    Row .verify [] (["--body", body, "--tolerance", "-1"] ++
        lines.flatMap fun line => ["--header", line])
      ((.body, body) :: (.tolerance, "-1") :: lines.map fun line => (.header, line)) := by
  have htolerance : Settles .verify [(.body, body)] toleranceOption "-1" :=
    ⟨by decide, by decide, .inr (by simp [toleranceOption]), rfl⟩
  refine .next (settles_body (by decide) hne) (.plain hbody) (.next htolerance ?_ ?_)
  · exact .negative rfl rfl rfl
  · exact row_headers _ hlines

theorem read_signWords {stamp : List String} (hconfig : Plain config) (hnamed : config ≠ "")
    (h : Signed64.Fits millis) (hrow : Row .sign [] (["--body", body] ++ stamp)
      [(.body, body), (.timestamp, Timestamp.write millis)]) :
    read (signWords config body stamp) = .ok (signing config body millis) := by
  have hcommand : command .sign
      ⟨[(.body, body), (.timestamp, Timestamp.write millis)], none, false⟩ =
        .ok (.sign body (some millis) none none) := by
    simp [command, Progress.integer?, Progress.value?, read_toList_write h,
      Except.toOption]
  rw [signWords, read_configured .sign hconfig hnamed rfl, hrow.readLevel (by decide)]
  simp only [bind, Except.bind, hcommand]
  rfl

/-- A time before the epoch in the next word is taken for an option. -/
theorem read_signWords_of_neg (hconfig : Plain config) (hnamed : config ≠ "")
    (hbody : Plain body) (hne : body ≠ "") (h : millis < 0) :
    read (signWords config body ["--timestamp", Timestamp.write millis]) = .error .unknownWord := by
  have hrow : Row .sign [] ["--body", body] [(.body, body)] :=
    .next (settles_body (by decide) hne) (.plain hbody) .nil
  have hsign : Level.sign ≠ .program := by decide
  obtain ⟨q, hq, hwords⟩ := hrow.exists_readWords hsign Progress.holds_start
  obtain ⟨c, letters, hshort, hdigit⟩ := exists_ofText_write h
  have hlong : readWord .sign q "--timestamp" = .ok (.waiting [(.body, body)] timestampOption) :=
    readWord_long hq (by decide : timestampOption ∈ Level.sign.options) (by decide)
  have hunknown : readWord .sign (.waiting [(.body, body)] timestampOption)
      (Timestamp.write millis) = .error .unknownWord :=
    readWord_of_unknown rfl hshort (Level.short?_of_isDigit hdigit)
  have hlevel : readLevel .sign (["--body", body] ++ ["--timestamp", Timestamp.write millis]) =
      .error .unknownWord := by
    rw [readLevel, hwords, readWords_cons (takesSubcommand_eq_false hsign _), hlong]
    simp only [bind, Except.bind, readWords_cons (takesSubcommand_eq_false hsign _), hunknown]
  rw [signWords, read_configured .sign hconfig hnamed rfl, hlevel]
  rfl

theorem wrong_signWords (hnamed : config ≠ "") (hne : body ≠ "")
    (h : ¬ (Plain config ∧ Plain body ∧ 0 ≤ millis)) :
    Wrong (read (signWords config body ["--timestamp", Timestamp.write millis])) := by
  by_cases hconfig : Plain config
  · by_cases hbody : Plain body
    · have hneg : millis < 0 := by
        by_contra hpos
        exact h ⟨hconfig, hbody, by omega⟩
      rw [read_signWords_of_neg hconfig hnamed hbody hne hneg]
      exact wrong_error rfl
    · have htakes : ¬ Takes bodyOption body := (takes_iff_plain rfl).not.mpr hbody
      rw [signWords, read_configured .sign hconfig hnamed rfl]
      exact (Row.nil.wrong_readLevel (by decide) (by decide) (by decide) htakes
        (.inl (List.cons_ne_nil _ _))).bind _
  · exact wrong_read_of_not_plain hconfig (List.cons_ne_nil _ _)

theorem read_verifyWords {lines : List String} (hconfig : Plain config) (hnamed : config ≠ "")
    (hbody : Plain body) (hne : body ≠ "") (hlines : ∀ line ∈ lines, Plain line) :
    read (verifyWords config body lines) = .ok (verifying config body lines) := by
  have hrow := row_verify hbody hne hlines
  have hheaders : (lines.map fun line => (OptionName.header, line)).filter
      (fun given => given.1 == .header) = lines.map fun line => (OptionName.header, line) := by
    simp [List.filter_eq_self]
  have hothers : ∀ name, name ≠ .header → (lines.map fun line => (OptionName.header, line)).find?
      (fun given => given.1 == name) = none := by
    intro name hname
    simpa [List.find?_eq_none] using fun _ _ => hname.symm
  have hdisabled : (Signed64.read ['-', '1']).toOption = some (-1) := rfl
  have hcommand : command .verify ⟨(.body, body) :: (.tolerance, "-1") ::
      lines.map fun line => (.header, line), none, false⟩ = .ok (.verify body lines) := by
    simp [command, Progress.value?, Progress.values, hheaders]
  rw [verifyWords, read_configured .verify hconfig hnamed rfl, hrow.readLevel (by decide)]
  simp only [bind, Except.bind, hcommand]
  simp [pure, Except.pure, invocation, verifying, Progress.value?, Progress.has,
    Progress.integer?, hothers, hdisabled]

end CommandLine

/-! ### Printed lines -/

/-- A header without blank characters in its value is read from its line. -/
theorem HeaderLine.read_line_of_no_blank {name value : String} (hname : Nameable name)
    (hvalue : ∀ c ∈ value.toList, Text.isBlank c = false) :
    read (name ++ ": " ++ value) = some (name, value) := by
  rw [read_line hname, trim_of_no_blank hvalue]

namespace SignedHeaders

/-- The lines of a signature and a timestamp alone. -/
def bareLines (signature timestamp : String) : List String :=
  [Header.signature ++ ": " ++ signature, Header.timestamp ++ ": " ++ timestamp]

/-- Without labels and line feeds there are two lines. -/
theorem printed_bare {signature timestamp : String} (hsigned : '\n' ∉ signature.toList)
    (hstamped : '\n' ∉ timestamp.toList) :
    (SignedHeaders.mk timestamp signature none none).pairs.flatMap HeaderLine.printed =
      bareLines signature timestamp := by
  have hfirst : HeaderLine.printed (Header.signature, signature) =
      [Header.signature ++ ": " ++ signature] :=
    HeaderLine.printed_eq HeaderLine.nameable_signature hsigned
  have hsecond : HeaderLine.printed (Header.timestamp, timestamp) =
      [Header.timestamp ++ ": " ++ timestamp] :=
    HeaderLine.printed_eq HeaderLine.nameable_timestamp hstamped
  simp [pairs, hfirst, hsecond, bareLines]

/-- What a signer makes is printed on two lines. -/
theorem ended_signAt (s : Signer) (millis : Int) (body : String) :
    Text.Ended (s.signAt millis body).lines.toList
      (bareLines (s.signAt millis body).signature (s.signAt millis body).timestamp) := by
  rw [← printed_bare (lineFeed_not_mem_signature s millis body)
    (lineFeed_not_mem_timestamp s millis body)]
  exact ended_lines _

/-- They are read as what was signed. -/
theorem forall₂_bareLines (s : Signer) (millis : Int) (body : String) :
    List.Forall₂ (fun line header => HeaderLine.read line = some header)
      (bareLines (s.signAt millis body).signature (s.signAt millis body).timestamp)
      (s.signAt millis body).pairs := by
  refine .cons ?_ (.cons ?_ .nil)
  · exact HeaderLine.read_line_of_no_blank HeaderLine.nameable_signature
      fun _ => Signature.isBlank_of_mem_compute
  · exact HeaderLine.read_line_of_no_blank HeaderLine.nameable_timestamp
      fun _ => Timestamp.isBlank_of_mem_write

/-- And none of them looks like an option. -/
theorem plain_of_mem_bareLines {signature timestamp line : String}
    (h : line ∈ bareLines signature timestamp) : CommandLine.Plain line := by
  have hletter : ∀ name value : String, name.toList.head? = some 'X' →
      CommandLine.Plain (name ++ ": " ++ value) := by
    intro name value hname
    rw [CommandLine.plain_iff, String.toList_append, String.toList_append, List.head?_append,
      List.head?_append, hname, Option.some_or, Option.some_or]
    exact fun hhead => absurd hhead (by decide)
  simp only [bareLines, List.mem_cons, List.not_mem_nil, or_false] at h
  rcases h with rfl | rfl
  · exact hletter _ _ rfl
  · exact hletter _ _ rfl

end SignedHeaders

/-- A path that can be read is not empty. -/
theorem Files.System.ne_empty_of_read {σ : Type} [System σ] {d : σ} {path : String}
    {bytes : List UInt8} (h : System.read d path = .ok bytes) : path ≠ "" := by
  rintro rfl
  rw [System.read_empty] at h
  cases h

/-! ### Runs -/

namespace Program

open CommandLine (Invocation Plain Wrong signWords verifyWords signing verifying)
open Files (System)

variable {σ : Type} [System σ]

/-- There is a file of settings with a secret that is not empty, and a file that is a text. -/
structure Signable (d : σ) (config path secret body : String) : Prop where
  /-- The file of the settings. -/
  settings : ∃ file, fileIn d (some config) = .ok (some file) ∧ file.secret = some secret
  /-- The secret is not empty. -/
  secret_ne : secret ≠ ""
  /-- The body. -/
  text : ∃ bytes, System.read d path = .ok bytes ∧ Utf8.decode bytes = .ok body

variable {d : σ} {config path secret body : String} {millis : Int}
  {words : List String} {filterText : String} {now : Instant}

namespace Signable

theorem config_ne (h : Signable d config path secret body) : config ≠ "" := by
  obtain ⟨file, hfile, -⟩ := h.settings
  cases hread : System.read d config with
  | error fault => simp [fileIn, hread] at hfile
  | ok bytes => exact System.ne_empty_of_read hread

theorem path_ne (h : Signable d config path secret body) : path ≠ "" := by
  obtain ⟨bytes, hread, -⟩ := h.text
  exact System.ne_empty_of_read hread

/-- The settings of a command line that names the file and gives no secret. -/
theorem settingsIn_eq (h : Signable d config path secret body) (asked : Invocation)
    (hconfig : asked.config = some config) (hsecret : asked.secret = none) :
    ∃ tolerance, settingsIn d asked = .ok ⟨secret, tolerance, asked.verbose⟩ ∧
      ∀ t, asked.tolerance = some t → tolerance = t := by
  obtain ⟨file, hfile, hgiven⟩ := h.settings
  have hfound : Settings.secret? asked (some file) = some secret := by
    simp [Settings.secret?, hsecret, hgiven, h.secret_ne]
  refine ⟨Settings.tolerance? asked (some file), ?_, ?_⟩
  · rw [settingsIn, hconfig, hfile]
    simp only [bind, Except.bind, Settings.resolve, hfound]
  · intro t ht
    rw [Settings.tolerance?, ht]
    rfl

/-- A body is signed at the time that the command line gives. -/
theorem run_signing (h : Signable d config path secret body)
    (hread : CommandLine.read words = .ok (signing config path millis)) :
    ((start words filterText).run now d).exitCode = 0 ∧
      ((start words filterText).run now d).output =
        ((Signer.mk secret).signAt millis body).lines := by
  obtain ⟨bytes, hbytes, hdecode⟩ := h.text
  obtain ⟨tolerance, hsettings, -⟩ := h.settingsIn_eq (signing config path millis) rfl rfl
  obtain ⟨hexit, houtput, -⟩ := run_start_signed ⟨_, hread, rfl, hsettings⟩ hbytes hdecode
  exact ⟨hexit, houtput⟩

/-- A verifier that does not look at the time accepts what is printed, and tells the type of the
event. -/
theorem run_verifying (h : Signable d config path secret body) (hfits : Signed64.Fits millis)
    {lines : List String}
    (hread : CommandLine.read words = .ok (verifying config path lines))
    (hlines : List.Forall₂ (fun line header => HeaderLine.read line = some header) lines
      ((Signer.mk secret).signAt millis body).pairs)
    {event : Event} (hevent : Event.read body = .ok event) :
    ((start words filterText).run now d).exitCode = 0 ∧
      ((start words filterText).run now d).output = event.tag?.getD "<untyped>" ++ "\n" := by
  obtain ⟨bytes, hbytes, hdecode⟩ := h.text
  obtain ⟨tolerance, hsettings, hgiven⟩ := h.settingsIn_eq (verifying config path lines) rfl rfl
  obtain rfl : tolerance = -1 := hgiven (-1) rfl
  have hraw : bytes = Utf8.encode body := (Utf8.encode_of_decode hdecode).symm
  have hbegins : Begins words d (.verify path lines) ⟨secret, -1, false⟩ :=
    ⟨_, hread, rfl, hsettings⟩
  -- the delivery that the words describe, as one call
  let c : Verifier.Call := ⟨⟨secret, -1⟩, now, .bytes bytes,
    .ofTexts ((Signer.mk secret).signAt millis body).pairs, .none⟩
  obtain ⟨hsig, hts⟩ := Headers.get?_ofTexts_genuine
    ((Signer.mk secret).signAt millis body).signature
    ((Signer.mk secret).signAt millis body).timestamp []
  have hnear : Verifier.Near c.tolerance c.now.millis millis := .inl (by decide : (-1 : Int) < 0)
  have hok : c.verify = .ok () := by
    rw [Verifier.Call.verify_of_compute (c := c) hfits hsig hts hraw, if_pos hnear]
  have hcall : c.event = .ok event := by
    rw [Verifier.Call.event_of_verify hok (Body.decode_eq_ok_iff.mpr hraw), hevent]
    rfl
  have hvalue : (received (Settings.verifier ⟨secret, -1, false⟩) now bytes lines).value =
      .ok event := by
    rw [value_received hlines]
    exact congrArg (Except.mapError Failure.refused) hcall
  rw [run_start_verify hbegins, run_verify hbytes, hvalue]
  exact ⟨rfl, rfl⟩

end Signable

theorem exitCode_of_wrong (h : Wrong (CommandLine.read words)) :
    ((start words filterText).run now d).exitCode = 2 := by
  obtain ⟨fault, hread, hwish⟩ := h
  rw [start_of_fault hread, exitCode_answerFault, CommandLine.UsageFault.exitCode, hwish]
  rfl

/-- **Signing at a given time.** Given settings with a secret and a body that is a text, a time
of the range that stands in a word of its own is signed exactly if the two paths are no options
and the time is not before the epoch; otherwise the command line is wrong, and a time before the
epoch is why: it is taken for an option that is not known. Behind an equals sign every time is
signed. What is printed are two lines, and whenever the body is an event, a verifier that is given
these and does not look at the time tells the type of it, for every time. -/
theorem signed_iff_not_before_epoch (h : Signable d config path secret body)
    (hfits : Signed64.Fits millis) (filterText : String) (now : Instant) :
    let stamp := Timestamp.write millis
    let headers := (Signer.mk secret).signAt millis body
    let next := (start (signWords config path ["--timestamp", stamp]) filterText).run now d
    let attached := (start (signWords config path ["--timestamp=" ++ stamp]) filterText).run now d
    (next.exitCode = 0 ∧ next.output = headers.lines ↔
      Plain config ∧ Plain path ∧ 0 ≤ millis) ∧
    (next.exitCode = 2 ↔ ¬ (Plain config ∧ Plain path ∧ 0 ≤ millis)) ∧
    (Plain config → Plain path →
      (millis < 0 → CommandLine.read (signWords config path ["--timestamp", stamp]) =
        .error .unknownWord) ∧
      attached.exitCode = 0 ∧ attached.output = headers.lines ∧
      ∃ lines, Text.Ended headers.lines.toList lines ∧ lines.length = 2 ∧
        ∀ event, Event.read body = .ok event → ∀ (filterText' : String) (now' : Instant),
          let verified := (start (verifyWords config path lines) filterText').run now' d
          verified.exitCode = 0 ∧ verified.output = event.tag?.getD "<untyped>" ++ "\n") := by
  intro stamp headers next attached
  have hnext : Plain config ∧ Plain path ∧ 0 ≤ millis →
      next.exitCode = 0 ∧ next.output = headers.lines := by
    rintro ⟨hconfig, hpath, hnonneg⟩
    exact h.run_signing (CommandLine.read_signWords hconfig h.config_ne hfits
      (CommandLine.row_nextStamp hpath h.path_ne hfits (CommandLine.plain_write_iff.mpr hnonneg)))
  have hwrong : ¬ (Plain config ∧ Plain path ∧ 0 ≤ millis) → next.exitCode = 2 :=
    fun hnot => exitCode_of_wrong (CommandLine.wrong_signWords h.config_ne h.path_ne hnot)
  refine ⟨⟨fun hdone => ?_, hnext⟩, ⟨fun htwo hall => ?_, hwrong⟩, fun hconfig hpath => ?_⟩
  · by_contra hnot
    rw [hwrong hnot] at hdone
    exact absurd hdone.1 (by decide)
  · rw [(hnext hall).1] at htwo
    exact absurd htwo (by decide)
  · refine ⟨CommandLine.read_signWords_of_neg hconfig h.config_ne hpath h.path_ne, ?_⟩
    obtain ⟨hexit, houtput⟩ := h.run_signing (CommandLine.read_signWords hconfig h.config_ne hfits
      (CommandLine.row_attachedStamp hpath h.path_ne hfits))
    refine ⟨hexit, houtput, _, SignedHeaders.ended_signAt _ _ _, rfl, ?_⟩
    intro event hevent filterText' now' verified
    exact h.run_verifying hfits (CommandLine.read_verifyWords hconfig h.config_ne hpath h.path_ne
      fun _ => SignedHeaders.plain_of_mem_bareLines) (SignedHeaders.forall₂_bareLines _ _ _) hevent

/-- A file of settings that gives a secret. -/
def secretText : String := "[webhook]\nsecret = \"whsec_test\"\n"

/-- The file of the settings, and a body that is an object without members. -/
def stampDirectory : Files.Directory :=
  (Files.Directory.empty.put ["b.json"] (Utf8.encode "\x7b\x7d")).put ["c.toml"]
    (Utf8.encode secretText)

theorem read_secretText : Settings.File.read secretText = .ok ⟨some "whsec_test", none⟩ := by
  refine (Settings.File.read_eq_ok_iff_rootGives rfl).mpr ⟨by decide, ?_⟩
  exact .present (.table ⟨by decide, .present (.text _), .absent⟩)

theorem signable_stampDirectory :
    Signable stampDirectory "c.toml" "b.json" "whsec_test" "\x7b\x7d" := by
  have hread : System.read stampDirectory "c.toml" = .ok (Utf8.encode secretText) := rfl
  refine ⟨⟨⟨some "whsec_test", none⟩, ?_, rfl⟩, by decide, _, rfl, Utf8.decode_encode _⟩
  rw [fileIn, hread]
  simp only [Utf8.decode_encode, read_secretText]
  rfl

/-- The millisecond before the epoch, given behind an equals sign, is signed, and the two lines
are verified. -/
theorem signed_before_epoch_attached :
    Signable stampDirectory "c.toml" "b.json" "whsec_test" "\x7b\x7d" ∧ Signed64.Fits (-1) ∧
    ((start (signWords "c.toml" "b.json" ["--timestamp=" ++ Timestamp.write (-1)]) "").run
      (.ofMillis 0) stampDirectory).exitCode = 0 ∧
    ∃ lines, lines.length = 2 ∧
      let verified := (start (verifyWords "c.toml" "b.json" lines) "").run (.ofMillis 0)
        stampDirectory
      verified.exitCode = 0 ∧ verified.output = "<untyped>\n" := by
  have hfits : Signed64.Fits (-1) := by decide
  have hevent : Event.read "\x7b\x7d" = .ok ⟨[]⟩ := rfl
  obtain ⟨-, -, hplain⟩ :=
    signed_iff_not_before_epoch signable_stampDirectory hfits "" (.ofMillis 0)
  obtain ⟨-, hexit, -, lines, -, hlength, hverify⟩ := hplain (by decide) (by decide)
  exact ⟨signable_stampDirectory, hfits, hexit, lines, hlength, hverify _ hevent "" (.ofMillis 0)⟩

/-- In a word of its own it is not signed. -/
theorem exitCode_before_epoch :
    Signable stampDirectory "c.toml" "b.json" "whsec_test" "\x7b\x7d" ∧ Signed64.Fits (-1) ∧
    Timestamp.write (-1) = "-1" ∧
    ((start ["-c", "c.toml", "sign", "--body", "b.json", "--timestamp", "-1"] "").run
      (.ofMillis 0) stampDirectory).exitCode = 2 :=
  ⟨signable_stampDirectory, by decide, rfl, rfl⟩

end Program
end SignedHooks
