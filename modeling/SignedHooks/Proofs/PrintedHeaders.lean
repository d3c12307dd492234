/-
# Headers that are printed and read again

The headers of a signed body are printed each on a line, and the type of the event and the
identifier of the delivery are printed as they are, with whatever line feeds and separators
they hold. So the lines that come out may be more than the headers, and some of them may be
no headers; but the first two are the signature and the timestamp, whatever comes behind
them (`SignedHeaders.exists_lines`), and a look-up takes the first header of a name
(`Headers.get?_ofTexts_genuine`). A verifier that is given the lines therefore says what it
says of the headers themselves, or that a line is no header, and that only if a line feed
was printed (`Program.received_printed`).

Key theorems: `SignedHeaders.lines_lines`, `SignedHeaders.exists_lines`,
`Verifier.receive_congr`, `Program.received_printed`.
-/
import Mathlib.Tactic.FinCases
import SignedHooks.Proofs.HeaderLines
import SignedHooks.Proofs.Transcripts
import SignedHooks.Proofs.UnrelatedHeaders

namespace SignedHooks

/-! ### Signatures and timestamps are not trimmed -/

theorem Signature.isBlank_of_mem_compute {secret timestamp body : String} {c : Char}
    (h : c ∈ (compute secret timestamp body).toList) : Text.isBlank c = false := by
  have hmarker : (marker.toList.all fun c => !Text.isBlank c) = true := rfl
  have hdigit : ∀ n : Fin 16, Text.isBlank (Hex.digit n) = false := by
    intro n
    fin_cases n <;> rfl
  rw [compute_eq, String.toList_append, List.mem_append] at h
  rcases h with h | h
  · simpa using List.all_eq_true.mp hmarker c h
  · rw [Hex.encode, String.toList_ofList] at h
    obtain ⟨n, rfl⟩ := Hex.exists_digit_of_mem h
    exact hdigit n

/-- A character of a token is neither blank nor a separator. -/
theorem Header.plain_of_isTokenChar {c : Char} (h : isTokenChar c = true) :
    (!Text.isBlank c && !HeaderLine.isSeparator c) = true := by
  have hsymbols : ("!#$%&'*+-.^_`|~".toList.all fun c =>
      !Text.isBlank c && !HeaderLine.isSeparator c) = true := rfl
  rw [isTokenChar, Bool.or_eq_true, isAlphanum_iff, List.contains_iff_mem] at h
  rcases h with h | h
  · have hblank : Text.isBlank c = false := by
      simp only [Text.isBlank, Bool.or_eq_false_iff, Bool.and_eq_false_iff,
        decide_eq_false_iff_not, beq_eq_false_iff_ne]
      omega
    have hcolon : c ≠ ':' := by
      rintro rfl
      revert h
      decide
    have hequals : c ≠ '=' := by
      rintro rfl
      revert h
      decide
    simp [hblank, HeaderLine.isSeparator, hcolon, hequals]
  · exact List.all_eq_true.mp hsymbols c h

namespace HeaderLine

/-- A line can hold every token for a name. -/
theorem nameable_of_isToken {name : String} (h : Header.isToken name = true) : Nameable name := by
  simp only [Header.isToken, Bool.and_eq_true, Bool.not_eq_true', List.all_eq_true] at h
  obtain ⟨⟨hne, -⟩, hchars⟩ := h
  have hplain : ∀ c ∈ name.toList, Text.isBlank c = false ∧ isSeparator c = false := by
    intro c hc
    simpa using Header.plain_of_isTokenChar (hchars c hc)
  refine ⟨fun c hc => (hplain c hc).2, fun hend => ?_, ?_, ?_⟩
  · exact absurd (hplain '\n' hend).1 (by decide)
  · exact Text.trimList_of_no_blank fun c hc => (hplain c hc).1
  · intro hnil
    rw [String.toList_eq_nil_iff] at hnil
    subst hnil
    exact absurd hne (by decide)

theorem nameable_signature : Nameable Header.signature :=
  nameable_of_isToken (by decide)

theorem nameable_timestamp : Nameable Header.timestamp :=
  nameable_of_isToken (by decide)

theorem trim_of_no_blank {value : String} (hvalue : ∀ c ∈ value.toList, Text.isBlank c = false) :
    Text.trim value = value := by
  rw [Text.trim, Text.trimList_of_no_blank hvalue, String.ofList_toList]

/-- A header whose value has no blank character is one line, from which it is read again. -/
theorem read_written_of_no_blank {name value : String} (hname : Nameable name)
    (hvalue : ∀ c ∈ value.toList, Text.isBlank c = false) :
    ∃ line, Text.lines (write name value) = [line] ∧ read line = some (name, value) := by
  have hend : '\n' ∉ value.toList := fun hmem => absurd (hvalue '\n' hmem) (by decide)
  obtain ⟨line, hlines, hread⟩ := read_written hname hend
  exact ⟨line, hlines, by rw [hread, trim_of_no_blank hvalue]⟩

end HeaderLine

/-! ### The lines of signed headers -/

namespace SignedHeaders

/-- Signed headers are printed as the lines of each header, one after another. -/
theorem lines_lines (h : SignedHeaders) : Text.lines h.lines =
    h.pairs.flatMap fun p => Text.lines (HeaderLine.write p.1 p.2) := by
  rw [lines, Text.lines_join, List.flatMap_map]
  intro t ht
  obtain ⟨p, -, rfl⟩ := List.mem_map.mp ht
  exact ⟨p.1 ++ ": " ++ p.2, rfl⟩

theorem nameable_of_mem_pairs {h : SignedHeaders} {p : String × String} (hp : p ∈ h.pairs) :
    HeaderLine.Nameable p.1 :=
  HeaderLine.nameable_of_isToken (isToken_of_mem_pairs hp)

/-- The headers that the labels add. -/
def labelPairs (event call : Option String) : List (String × String) :=
  (event.map (Prod.mk Header.event)).toList ++ (call.map (Prod.mk Header.call)).toList

theorem pairs_label (s : Signer) (millis : Int) (body : String) (event call : Option String) :
    ((s.signAt millis body).label event call).pairs =
      (Header.signature, (s.signAt millis body).signature) ::
      (Header.timestamp, (s.signAt millis body).timestamp) :: labelPairs event call := by
  simp [pairs, label, labelPairs, Signer.signAt]

theorem mem_labelPairs {event call : Option String} {p : String × String}
    (h : p ∈ labelPairs event call) : event = some p.2 ∨ call = some p.2 := by
  unfold labelPairs at h
  simp only [List.mem_append, Option.mem_toList, Option.map_eq_some_iff] at h
  rcases h with ⟨value, hvalue, rfl⟩ | ⟨value, hvalue, rfl⟩
  · exact .inl hvalue
  · exact .inr hvalue

/-- A line that is no header comes from a value with a line feed. -/
theorem lineFeed_of_read_none {name value line : String} (hname : HeaderLine.Nameable name)
    (hline : line ∈ Text.lines (HeaderLine.write name value))
    (hread : HeaderLine.read line = none) : '\n' ∈ value.toList := by
  by_contra hend
  obtain ⟨only, hlines, hsome⟩ := HeaderLine.read_written hname hend
  rw [hlines, List.mem_singleton] at hline
  rw [hline, hsome] at hread
  cases hread

/-- The first two lines are the signature and the timestamp that were signed, and a line that
is no header comes from a label with a line feed. -/
theorem exists_lines (s : Signer) (millis : Int) (body : String) (event call : Option String) :
    ∃ first second rest, Text.lines ((s.signAt millis body).label event call).lines =
        first :: second :: rest ∧
      HeaderLine.read first = some (Header.signature, (s.signAt millis body).signature) ∧
      HeaderLine.read second = some (Header.timestamp, (s.signAt millis body).timestamp) ∧
      ∀ line ∈ rest, HeaderLine.read line = none →
        ∃ value, (event = some value ∨ call = some value) ∧ '\n' ∈ value.toList := by
  have hsigned : ∀ c ∈ (s.signAt millis body).signature.toList, Text.isBlank c = false :=
    fun _ => Signature.isBlank_of_mem_compute
  have hstamped : ∀ c ∈ (s.signAt millis body).timestamp.toList, Text.isBlank c = false :=
    fun _ => Timestamp.isBlank_of_mem_write
  obtain ⟨first, hfirst, hsignature⟩ :=
    HeaderLine.read_written_of_no_blank HeaderLine.nameable_signature hsigned
  obtain ⟨second, hsecond, htimestamp⟩ :=
    HeaderLine.read_written_of_no_blank HeaderLine.nameable_timestamp hstamped
  have hlabels : ∀ p ∈ labelPairs event call, HeaderLine.Nameable p.1 := by
    intro p hp
    have hmem : p ∈ ((s.signAt millis body).label event call).pairs := by
      rw [pairs_label]
      exact List.mem_cons_of_mem _ (List.mem_cons_of_mem _ hp)
    exact nameable_of_mem_pairs hmem
  refine ⟨first, second,
    (labelPairs event call).flatMap fun p => Text.lines (HeaderLine.write p.1 p.2),
    ?_, hsignature, htimestamp, ?_⟩
  · rw [lines_lines, pairs_label, List.flatMap_cons, List.flatMap_cons, hfirst, hsecond]
    rfl
  · intro line hline hread
    obtain ⟨p, hp, hmem⟩ := List.mem_flatMap.mp hline
    exact ⟨p.2, mem_labelPairs hp, lineFeed_of_read_none (hlabels p hp) hmem hread⟩

end SignedHeaders

/-! ### What is looked up -/

/-- Where a signature and a timestamp stand in front they are what is found. -/
theorem Headers.get?_ofTexts_genuine (signature timestamp : String)
    (rest : List (String × String)) :
    (ofTexts ((Header.signature, signature) :: (Header.timestamp, timestamp) :: rest)).get?
        Header.signature = some signature ∧
      (ofTexts ((Header.signature, signature) :: (Header.timestamp, timestamp) :: rest)).get?
        Header.timestamp = some timestamp := by
  have hne : Header.signature ≠ Header.timestamp := by decide
  constructor
  · simp [ofTexts, get?, pairValue?, HeaderValue.first]
  · simp [ofTexts, get?, pairValue?, HeaderValue.first, hne]

/-- What a verifier makes of a delivery depends on what it finds under two names. -/
theorem Verifier.receive_congr {h h' : Headers}
    (hsig : h.get? Header.signature = h'.get? Header.signature)
    (hts : h.get? Header.timestamp = h'.get? Header.timestamp) (v : Verifier) (now : Instant)
    (body : Body) (o : Overrides) : v.receive now body h o = v.receive now body h' o := by
  have hevent : v.event now body h o = v.event now body h' o := by
    rw [event, event, judge_congr hsig hts]
  rw [receive, receive, hevent]

/-! ### Deliveries -/

namespace Program

open Files (System)

/-- Headers that are read from lines of which the first two are genuine have these in front. -/
theorem exists_headers_of_genuine {first second : String} {rest : List String}
    {genuine genuine' : String × String} {headers : List (String × String)}
    (hfirst : HeaderLine.read first = some genuine)
    (hsecond : HeaderLine.read second = some genuine')
    (h : Settings.readHeaders (first :: second :: rest) = .ok headers) :
    ∃ others, headers = genuine :: genuine' :: others := by
  rw [Settings.readHeaders_eq_ok_iff] at h
  obtain ⟨header, back, hheader, hback, rfl⟩ := List.forall₂_cons_left_iff.mp h
  obtain ⟨header', others, hheader', -, rfl⟩ := List.forall₂_cons_left_iff.mp hback
  obtain rfl : genuine = header := Option.some.inj (hfirst.symm.trans hheader)
  obtain rfl : genuine' = header' := Option.some.inj (hsecond.symm.trans hheader')
  exact ⟨others, rfl⟩

/-- **Printed headers.** A text is signed by printing the lines of its headers. A verifier
that is given these lines says, of any delivery at any instant, that one of the lines is no
header, which takes a label with a line feed, or what it says of the headers as they were
signed, with the same records. In whatever headers are read from the lines the signature and
the timestamp are those that were signed. -/
theorem received_printed (s : Settings) (clock : Instant) (timestamp : Option Int)
    (event call : Option String) (body : String) (v : Verifier) (now : Instant)
    (bytes : List UInt8) :
    let h := signed s (timestamp.getD clock.millis) event call body
    let result := v.receive now (.bytes bytes) h.toHeaders .none
    (∀ (filter : Log.Filter) (σ : Type) [System σ] (d : σ) (path : String) (content : List UInt8),
      System.read d path = .ok content → Utf8.decode content = .ok body →
      ((sign s filter path timestamp event call).run clock d).output = h.lines) ∧
    ((∃ line ∈ Text.lines h.lines, HeaderLine.read line = none ∧
        received v now bytes (Text.lines h.lines) = ⟨.error (.input (.invalidHeader line)), []⟩ ∧
        ∃ value, (event = some value ∨ call = some value) ∧ '\n' ∈ value.toList) ∨
      received v now bytes (Text.lines h.lines) =
        ⟨result.value.mapError .refused, result.records⟩) ∧
    ∀ headers, Settings.readHeaders (Text.lines h.lines) = .ok headers →
      (Headers.ofTexts headers).get? Header.signature = some h.signature ∧
      (Headers.ofTexts headers).get? Header.timestamp = some h.timestamp := by
  intro h result
  obtain ⟨first, second, rest, hlines, hfirst, hsecond, hrest⟩ :=
    SignedHeaders.exists_lines ⟨s.secret⟩ (timestamp.getD clock.millis) body event call
  have hfound : ∀ headers, Settings.readHeaders (Text.lines h.lines) = .ok headers →
      (Headers.ofTexts headers).get? Header.signature = some h.signature ∧
      (Headers.ofTexts headers).get? Header.timestamp = some h.timestamp := by
    intro headers hread
    rw [show Text.lines h.lines = first :: second :: rest from hlines] at hread
    obtain ⟨others, rfl⟩ := exists_headers_of_genuine hfirst hsecond hread
    exact Headers.get?_ofTexts_genuine _ _ others
  have hprinted : ∀ (filter : Log.Filter) (σ : Type) [System σ] (d : σ) (path : String)
      (content : List UInt8), System.read d path = .ok content → Utf8.decode content = .ok body →
      ((sign s filter path timestamp event call).run clock d).output = h.lines := by
    intro filter σ _ d path content hread hdecode
    rw [run_sign hread hdecode, Transcript.output_after]
  refine ⟨hprinted, ?_, hfound⟩
  cases hread : Settings.readHeaders (Text.lines h.lines) with
  | error failure =>
    left
    obtain ⟨line, hfind, rfl⟩ := Settings.readHeaders_eq_error_iff.mp hread
    have hmem : line ∈ Text.lines h.lines := List.mem_of_find?_eq_some hfind
    have hnone : HeaderLine.read line = none := by simpa using List.find?_some hfind
    refine ⟨line, hmem, hnone, by rw [received, hread], ?_⟩
    rw [show Text.lines h.lines = first :: second :: rest from hlines] at hmem
    rcases List.mem_cons.mp hmem with rfl | hmem
    · rw [hfirst] at hnone
      cases hnone
    rcases List.mem_cons.mp hmem with rfl | hmem
    · rw [hsecond] at hnone
      cases hnone
    exact hrest line hmem hnone
  | ok headers =>
    right
    obtain ⟨hsig, hts⟩ := hfound headers hread
    have hpairs : h.pairs = (Header.signature, h.signature) :: (Header.timestamp, h.timestamp) ::
        SignedHeaders.labelPairs event call := SignedHeaders.pairs_label _ _ _ _ _
    have hgenuine := Headers.get?_ofTexts_genuine h.signature h.timestamp
      (SignedHeaders.labelPairs event call)
    rw [← hpairs] at hgenuine
    have hsame : v.receive now (.bytes bytes) (.ofTexts headers) .none = result :=
      Verifier.receive_congr (hsig.trans hgenuine.1.symm) (hts.trans hgenuine.2.symm) v now _ _
    rw [received, hread]
    simp only [hsame]

/-- A label with a line feed may print a line that is a header of its own, behind the genuine
one. -/
example : Text.lines
      (SignedHeaders.mk "7" "v1=00" (some "x\nX-UseSend-Signature: v1=1") none).lines =
    ["X-UseSend-Signature: v1=00", "X-UseSend-Timestamp: 7", "X-UseSend-Event: x",
      "X-UseSend-Signature: v1=1"] := by rfl

/-- It may also print a line that is no header. -/
example : Settings.readHeaders
      (Text.lines (SignedHeaders.mk "7" "v1=00" (some "x\nnote") none).lines) =
    .error (.invalidHeader "note") := by rfl

end Program

end SignedHooks
