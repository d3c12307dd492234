/-
# The text of a body

A body that comes as bytes has a text exactly if the bytes are those of one
(`Body.decode_eq_ok_iff`), and if it has none it is refused with what stands behind the
longest text in front (`Body.exists_stops_of_decode_error`). A verifier looks at the text
alone, so that a text and its bytes are the same to it (`Verifier.judge_congr_body`). Signing
looks at the same text, and gives up where a verifier refuses the body
(`Program.run_start_notText`). All this together is `Program.text_of_bytes`.

Key theorems: `Utf8.exists_encode_iff`, `Body.exists_stops_of_decode_error`,
`Verifier.judge_congr_body`, `Program.run_start_signed`, `Program.text_of_bytes`.
-/
import SignedHooks.Proofs.Body
import SignedHooks.Proofs.ExitCodes
import SignedHooks.Proofs.Utf8Faults

namespace SignedHooks

namespace Utf8

/-- The bytes of a text are sequences one after another. -/
theorem exists_encode_iff {bytes : List UInt8} : (∃ s, encode s = bytes) ↔
    ∃ parts : List (List UInt8), (∀ p ∈ parts, Sequence p) ∧ parts.flatten = bytes := by
  constructor
  · rintro ⟨s, rfl⟩
    refine ⟨s.toList.map String.utf8EncodeChar, ?_, List.flatMap_def.symm⟩
    intro p hp
    obtain ⟨c, -, rfl⟩ := List.mem_map.mp hp
    exact sequence_encodeChar c
  · rintro ⟨parts, hparts, rfl⟩
    induction parts with
    | nil => exact ⟨"", rfl⟩
    | cons p parts ih =>
      obtain ⟨hp, hrest⟩ := List.forall_mem_cons.mp hparts
      obtain ⟨c, rfl⟩ := sequence_iff.mp hp
      obtain ⟨s, hs⟩ := ih hrest
      refine ⟨String.ofList (c :: s.toList), ?_⟩
      rw [encode, String.toList_ofList, encodeList_cons, List.flatten_cons, ← hs, encode]

variable {index : Nat} {rest : List UInt8} {fault : Fault}

theorem Stops.message_of_begun (h : Stops index rest fault) (hrest : Begun rest) :
    fault.message = "incomplete utf-8 byte sequence from index " ++ toString index := by
  rw [h.incomplete_iff.mpr hrest]
  rfl

theorem Stops.message_of_not_begun (h : Stops index rest fault) (hrest : ¬ Begun rest) :
    ∃ count : Nat, fault.message =
      "invalid utf-8 sequence of " ++ toString count ++ " bytes from index " ++ toString index := by
  cases h with
  | cut hbegun => exact absurd hbegun hrest
  | ruledOut => exact ⟨_, rfl⟩

end Utf8

/-! ### Refused bodies -/

namespace Body

variable {bytes : List UInt8} {refusal : Refusal}

theorem decode_bytes_eq_error_iff : (Body.bytes bytes).decode = .error refusal ↔
    ∃ fault, Utf8.decode bytes = .error fault ∧ refusal = .invalidBody fault := by
  rw [decode]
  cases Utf8.decode bytes with
  | ok s => simp [Except.mapError]
  | error fault => simp [Except.mapError, eq_comm]

/-- Bytes that are no text are refused for what stands behind the longest text in front. -/
theorem exists_stops_of_decode_error (h : (Body.bytes bytes).decode = .error refusal) :
    ∃ front rest fault, refusal = .invalidBody fault ∧ Utf8.Front bytes front rest ∧
      Utf8.Stops (Utf8.encode front).length rest fault := by
  obtain ⟨fault, hfault, rfl⟩ := decode_bytes_eq_error_iff.mp h
  obtain ⟨front, rest, hfront, hstops⟩ := Utf8.front_of_decode_error hfault
  exact ⟨front, rest, fault, rfl, hfront, hstops⟩

theorem decode_bytes_encode (s : String) : (Body.bytes (Utf8.encode s)).decode = .ok s :=
  decode_eq_ok_iff.mpr rfl

end Body

/-! ### Text and bytes -/

namespace Verifier

variable {b b' : Body}

/-- A verifier looks at the text of a body alone. -/
theorem judge_congr_body (h : b.decode = b'.decode) (v : Verifier) (now : Int)
    (headers : Headers) : v.judge now b headers = v.judge now b' headers := by
  simp only [judge, checkSignature, h]

theorem verify_congr_body (h : b.decode = b'.decode) (v : Verifier) (now : Instant)
    (headers : Headers) (o : Overrides) : v.verify now b headers o = v.verify now b' headers o := by
  rw [verify, verify, judge_congr_body h]

theorem accepts_congr_body (h : b.decode = b'.decode) (v : Verifier) (now : Instant)
    (headers : Headers) (o : Overrides) :
    v.accepts now b headers o = v.accepts now b' headers o := by
  rw [accepts, accepts, verify_congr_body h]

theorem event_congr_body (h : b.decode = b'.decode) (v : Verifier) (now : Instant)
    (headers : Headers) (o : Overrides) : v.event now b headers o = v.event now b' headers o := by
  rw [event, event, judge_congr_body h]

theorem receive_congr_body (h : b.decode = b'.decode) (v : Verifier) (now : Instant)
    (headers : Headers) (o : Overrides) :
    v.receive now b headers o = v.receive now b' headers o := by
  rw [receive, receive, event_congr_body h]

end Verifier

/-! ### Signing -/

namespace Program

open Files (System)

variable {words : List String} {filterText path : String} {now : Instant}
variable {σ : Type} [System σ] {d : σ}
  {s : Settings} {timestamp : Option Int} {event call : Option String} {bytes : List UInt8}

/-- Bytes that are no text are not signed. -/
theorem run_start_notText {bad : Utf8.Fault}
    (hbegins : Begins words d (.sign path timestamp event call) s)
    (hread : System.read d path = .ok bytes)
    (hdecode : Utf8.decode bytes = .error bad) :
    (start words filterText).run now d =
      ⟨1, "", openingText s filterText ++
        ("Body file '" ++ path ++ "' is not valid UTF-8" ++ "\n"), d⟩ := by
  rw [run_start_sign hbegins, run_sign_of_notText hread hdecode, run_fail]
  rfl

/-- A text is signed, and the lines of its headers are printed. -/
theorem run_start_signed {body : String}
    (hbegins : Begins words d (.sign path timestamp event call) s)
    (hread : System.read d path = .ok bytes)
    (hdecode : Utf8.decode bytes = .ok body) :
    ((start words filterText).run now d).exitCode = 0 ∧
      ((start words filterText).run now d).output =
        (((Signer.mk s.secret).signAt (timestamp.getD now.millis) body).label event call).lines ∧
      ((start words filterText).run now d).directory = d := by
  rw [run_start_sign hbegins, run_sign hread hdecode]
  exact ⟨rfl, rfl, rfl⟩

/-- **Text and bytes.** Bytes are read as a text exactly if they are those of the text; these
are the sequences of characters one after another. Otherwise they are refused as a body, with
the length of the longest text in front, and it is said that the input is incomplete exactly if
what stands behind it is the beginning of a character. A text and its bytes are answered alike
by every verifier, whatever the time, the headers and the overrides. And a file is signed as the
text that is read from its bytes; there is no signature exactly if the bytes are refused. -/
theorem text_of_bytes (bytes : List UInt8) :
    (∀ x, (Body.bytes bytes).decode = .ok x ↔ bytes = Utf8.encode x) ∧
    ((∃ x, bytes = Utf8.encode x) ↔
      ∃ parts : List (List UInt8), (∀ p ∈ parts, Utf8.Sequence p) ∧ parts.flatten = bytes) ∧
    (∀ refusal, (Body.bytes bytes).decode = .error refusal → ∃ front rest fault,
      refusal = .invalidBody fault ∧ refusal.code.text = "INVALID_BODY" ∧
      Utf8.Front bytes front rest ∧ Utf8.Stops (Utf8.encode front).length rest fault ∧
      (Utf8.Begun rest → refusal.cause? = some
        ("incomplete utf-8 byte sequence from index " ++ toString (Utf8.encode front).length)) ∧
      (¬ Utf8.Begun rest → ∃ count : Nat, refusal.cause? = some
        ("invalid utf-8 sequence of " ++ toString count ++ " bytes from index " ++
          toString (Utf8.encode front).length))) ∧
    (∀ x (v : Verifier) (now : Instant) (headers : Headers) (o : Verifier.Overrides),
      bytes = Utf8.encode x →
      v.verify now (.text x) headers o = v.verify now (.bytes bytes) headers o ∧
      v.accepts now (.text x) headers o = v.accepts now (.bytes bytes) headers o ∧
      v.event now (.text x) headers o = v.event now (.bytes bytes) headers o ∧
      v.receive now (.text x) headers o = v.receive now (.bytes bytes) headers o) ∧
    ∀ (words : List String) (filterText path : String) (now : Instant) (σ : Type) [System σ] (d : σ)
      (s : Settings) (timestamp : Option Int) (event call : Option String),
      Begins words d (.sign path timestamp event call) s → System.read d path = .ok bytes →
      let t := (start words filterText).run now d
      (t = ⟨1, "", openingText s filterText ++
          ("Body file '" ++ path ++ "' is not valid UTF-8" ++ "\n"), d⟩ ↔
        ∃ refusal, (Body.bytes bytes).decode = .error refusal) ∧
      ∀ x, (Body.bytes bytes).decode = .ok x → t.exitCode = 0 ∧ t.output =
        (((Signer.mk s.secret).signAt (timestamp.getD now.millis) x).label event call).lines := by
  refine ⟨fun x => Body.decode_eq_ok_iff, ?_, ?_, ?_, ?_⟩
  · rw [← Utf8.exists_encode_iff]
    simp only [eq_comm]
  · intro refusal h
    obtain ⟨front, rest, fault, rfl, hfront, hstops⟩ := Body.exists_stops_of_decode_error h
    refine ⟨front, rest, fault, rfl, rfl, hfront, hstops, ?_, ?_⟩
    · intro hrest
      exact congrArg some (hstops.message_of_begun hrest)
    · intro hrest
      obtain ⟨count, hmessage⟩ := hstops.message_of_not_begun hrest
      exact ⟨count, congrArg some hmessage⟩
  · rintro x v now headers o rfl
    have hsame : (Body.text x).decode = (Body.bytes (Utf8.encode x)).decode :=
      (Body.decode_bytes_encode x).symm
    exact ⟨v.verify_congr_body hsame now headers o, v.accepts_congr_body hsame now headers o,
      v.event_congr_body hsame now headers o, v.receive_congr_body hsame now headers o⟩
  · intro words filterText path now σ _ d s timestamp event call hbegins hread t
    have hsigned : ∀ x, (Body.bytes bytes).decode = .ok x → t.exitCode = 0 ∧ t.output =
        (((Signer.mk s.secret).signAt (timestamp.getD now.millis) x).label event call).lines := by
      intro x hx
      obtain rfl : bytes = Utf8.encode x := Body.decode_eq_ok_iff.mp hx
      obtain ⟨hexit, houtput, -⟩ := run_start_signed hbegins hread (Utf8.decode_encode x)
      exact ⟨hexit, houtput⟩
    refine ⟨⟨?_, ?_⟩, hsigned⟩
    · -- a text would have been signed, with another exit code
      intro ht
      cases hdecode : (Body.bytes bytes).decode with
      | error refusal => exact ⟨refusal, rfl⟩
      | ok x =>
        have hexit := (hsigned x hdecode).1
        rw [ht] at hexit
        cases hexit
    · rintro ⟨refusal, hrefusal⟩
      obtain ⟨bad, hbad, -⟩ := Body.decode_bytes_eq_error_iff.mp hrefusal
      exact run_start_notText hbegins hread hbad

/-- A command line that asks to sign a body. -/
def cutWords : List String :=
  ["sign", "--secret", "whsec_test", "--body", "b.json"]

/-- The body is a letter and three of the four bytes of another character. -/
def cutBytes : List UInt8 := [0x61, 0xF0, 0x9F, 0x98]

/-- The directory of this body. -/
def cutDirectory : Files.Directory := Files.Directory.empty.put ["b.json"] cutBytes

/-- Bytes that end within a character are not signed. -/
theorem text_of_cutBytes :
    Begins cutWords cutDirectory (.sign "b.json" none none none) ⟨"whsec_test", 300000, false⟩ ∧
    (start cutWords "").run (.ofMillis 0) cutDirectory =
      ⟨1, "", openingText ⟨"whsec_test", 300000, false⟩ "" ++
        ("Body file '" ++ "b.json" ++ "' is not valid UTF-8" ++ "\n"), cutDirectory⟩ := by
  have hbegins : Begins cutWords cutDirectory (.sign "b.json" none none none)
      ⟨"whsec_test", 300000, false⟩ :=
    ⟨⟨.sign "b.json" none none none, some "whsec_test", none, none, false⟩, rfl, rfl, rfl⟩
  obtain ⟨-, -, -, -, hsign⟩ := text_of_bytes cutBytes
  obtain ⟨hfails, -⟩ :=
    hsign cutWords "" "b.json" (.ofMillis 0) Files.Directory cutDirectory _ none none none
    hbegins rfl
  exact ⟨hbegins, hfails.mpr ⟨.invalidBody (.incomplete 1), rfl⟩⟩

end Program
end SignedHooks
