/-
# Signed headers as the fields of a message

Signed headers travel as a list of pairs or as the fields of an HTTP message. Both name the
same headers, no two of them with one name (`SignedHeaders.distinct_pairs`). Which values a
message takes and which it hands out again are different questions: it takes every text
without a control character (`Utf8.all_isValueByte_iff`), and hands out those of them that
are ASCII (`Utf8.all_isVisible_iff`). So the type of an event or the identifier of a delivery
with other letters is carried, but counts as absent when it is looked up, and all else that
is looked up in the fields is as in the list (`SignedHeaders.renderings_agree`).

Key definitions: `Header.Forbidden`, `Header.Ascii`.
Key theorems: `Utf8.all_isValueByte_iff`, `Utf8.all_isVisible_iff`,
`SignedHeaders.get?_fields_iff`, `SignedHeaders.renderings_agree`.
-/
import SignedHooks.Proofs.HeaderLookup
import SignedHooks.Proofs.PrintedHeaders

namespace SignedHooks

/-- The character may not stand in the value of a field: it is a control character of ASCII
other than the tab. -/
def Header.Forbidden (c : Char) : Prop :=
  (c.toNat < 32 ∧ c ≠ '\t') ∨ c.toNat = 127

/-- By their numbers, the characters that a message takes in a value. -/
theorem Header.not_forbidden_iff (c : Char) :
    ¬ Forbidden c ↔ c.toNat = 9 ∨ (32 ≤ c.toNat ∧ c.toNat ≠ 127) := by
  have htab : c = '\t' ↔ c.toNat = 9 := by
    rw [← Char.toNat_inj]
    rfl
  simp only [Forbidden, ne_eq, htab]
  omega

/-- The text is one of ASCII. -/
def Header.Ascii (s : String) : Prop :=
  ∀ c ∈ s.toList, c.toNat < 128

instance (s : String) : Decidable (Header.Ascii s) :=
  decidable_of_iff (s.toList.all fun c => c.toNat < 128) (by simp [Header.Ascii])

theorem Header.Printing.ascii {s : String} (h : Printing s) : Ascii s :=
  fun c hc => Nat.lt_succ_of_lt (h c hc).2

namespace Utf8

/-- The bytes of a character may stand in a value unless it is forbidden. -/
theorem isValueByte_encodeChar_iff (c : Char) :
    (∀ b ∈ String.utf8EncodeChar c, Fields.isValueByte b = true) ↔ ¬ Header.Forbidden c := by
  have h9 : (9 : UInt8).toNat = 9 := rfl
  have h32 : (32 : UInt8).toNat = 32 := rfl
  have h127 : (127 : UInt8).toNat = 127 := rfl
  have hbyte : ∀ b, Fields.isValueByte b = true ↔
      b.toNat = 9 ∨ (32 ≤ b.toNat ∧ b.toNat ≠ 127) := by
    intro b
    simp only [Fields.isValueByte, Bool.or_eq_true, Bool.and_eq_true, beq_iff_eq, bne_iff_ne,
      decide_eq_true_eq, UInt8.le_iff_toNat_le, ne_eq, ← UInt8.toNat_inj, h9, h32, h127]
  simp only [hbyte, Header.not_forbidden_iff]
  by_cases hc : c.toNat ≤ 0x7f
  · rw [encodeChar_one hc, List.forall_mem_singleton, toNat_byte (by omega)]
  · refine iff_of_true (fun b hb => ?_) (by omega)
    have := high_of_mem_encodeChar (Nat.lt_of_not_le hc) hb
    omega

/-- The bytes of a character can be seen if it is of ASCII and not forbidden. -/
theorem isVisible_encodeChar_iff (c : Char) :
    (∀ b ∈ String.utf8EncodeChar c, Fields.isVisible b = true) ↔
      ¬ Header.Forbidden c ∧ c.toNat < 128 := by
  have h9 : (9 : UInt8).toNat = 9 := rfl
  have h32 : (0x20 : UInt8).toNat = 32 := rfl
  have h126 : (0x7e : UInt8).toNat = 126 := rfl
  have hbyte : ∀ b, Fields.isVisible b = true ↔
      b.toNat = 9 ∨ (32 ≤ b.toNat ∧ b.toNat ≤ 126) := by
    intro b
    simp only [Fields.isVisible_iff, UInt8.le_iff_toNat_le, ← UInt8.toNat_inj, h9, h32, h126]
  simp only [hbyte, Header.not_forbidden_iff]
  by_cases hc : c.toNat ≤ 0x7f
  · rw [encodeChar_one hc, List.forall_mem_singleton, toNat_byte (by omega)]
    omega
  · have hne : String.utf8EncodeChar c ≠ [] := by
      rw [← List.length_pos_iff, String.length_utf8EncodeChar]
      exact c.utf8Size_pos
    refine iff_of_false (fun hall => ?_) (by omega)
    obtain ⟨b, hb⟩ := List.exists_mem_of_ne_nil _ hne
    have := high_of_mem_encodeChar (Nat.lt_of_not_le hc) hb
    have := hall b hb
    omega

/-- A message takes a text as a value unless it has a forbidden character. -/
theorem all_isValueByte_iff (s : String) : (encode s).all Fields.isValueByte = true ↔
    ∀ c ∈ s.toList, ¬ Header.Forbidden c :=
  all_encode_iff s isValueByte_encodeChar_iff

/-- A text that a message takes can be seen if it is one of ASCII. -/
theorem all_isVisible_iff {s : String} (h : (encode s).all Fields.isValueByte = true) :
    (encode s).all Fields.isVisible = true ↔ Header.Ascii s := by
  rw [all_encode_iff s isVisible_encodeChar_iff]
  exact forall₂_congr fun c hc => and_iff_right ((all_isValueByte_iff s).mp h c hc)

end Utf8

/-! ### Fields that are not taken -/

namespace Fields

/-- Headers whose names are tokens can only fail for their values. -/
theorem fault_of_tokens {fault : Fault} : ∀ {m : Fields} {entries : List (String × List UInt8)},
    (∀ e ∈ entries, Header.isToken e.1 = true) → m.appendAll entries = .error fault →
      fault = .invalidValue
  | _, [], _, h => by
    cases h
  | m, (name, value) :: rest, htokens, h => by
    obtain ⟨hname, hrest⟩ := List.forall_mem_cons.mp htokens
    rw [appendAll, append, hname, Bool.not_true, if_neg Bool.false_ne_true] at h
    by_cases hvalue : (!value.all isValueByte) = true
    · rw [if_pos hvalue] at h
      exact (Except.error.inj h).symm
    · rw [if_neg hvalue] at h
      exact fault_of_tokens hrest h

end Fields

/-! ### Signed headers in both shapes -/

namespace SignedHeaders

/-- No two of the headers have one name. -/
theorem distinct_pairs (h : SignedHeaders) : Header.Distinct h.pairs := by
  have hnames : List.Sublist ((Header.lowered h.pairs).map (·.1))
      ([Header.signature, Header.timestamp, Header.event, Header.call].map Header.lower) := by
    unfold pairs
    cases h.eventType <;> cases h.callId <;> simp [Header.lowered]
  rw [Header.distinct_iff_nodup]
  exact List.Nodup.sublist hnames (by decide)

/-- What is looked up in the list is the value of the header with this name. -/
theorem get?_toHeaders_iff {h : SignedHeaders} {name value : String} :
    h.toHeaders.get? name = some value ↔ ∃ p ∈ h.pairs, Header.same p.1 name ∧ p.2 = value := by
  rw [toHeaders, Headers.get?_ofTexts, Headers.pairValue?_eq_some_iff h.distinct_pairs,
    Header.mem_lowered]
  simp only [Header.same_iff]

/-- Signed headers are only refused for their values. -/
theorem fault_eq {h : SignedHeaders} {fault : Fields.Fault} (hfault : h.toFields = .error fault) :
    fault = .invalidValue :=
  Fields.fault_of_tokens (List.forall_mem_map.mpr fun _ hp => isToken_of_mem_pairs hp) hfault

/-- What is looked up in the fields is what is looked up in the list, if it is of ASCII. -/
theorem get?_fields_iff {h : SignedHeaders} {m : Fields} (hm : h.toFields = .ok m)
    {name value : String} : (Headers.fields m).get? name = some value ↔
      h.toHeaders.get? name = some value ∧ Header.Ascii value := by
  have hlegal : ∀ p ∈ h.pairs, (Utf8.encode p.2).all Fields.isValueByte = true :=
    (toFields_ok_iff.mp hm).1
  have hlower : (Headers.ofTexts (Header.lowered h.pairs)).get? (Header.lower name) =
      h.toHeaders.get? name := by
    have hagain : Header.lowered (Header.lowered h.pairs) = Header.lowered h.pairs := by
      simp only [Header.lowered, List.map_map, Function.comp_def, Header.lower_lower]
    rw [toHeaders, Headers.get?_ofTexts, Headers.get?_ofTexts]
    refine (Headers.pairValue?_congr h.distinct_pairs (.of_eq hagain.symm) ?_).symm
    rw [Header.same_iff, Header.lower_lower]
  rw [Headers.get?, Fields.get?_of_texts hm, hlower, Option.filter_eq_some_iff]
  refine and_congr_right fun hfound => Utf8.all_isVisible_iff ?_
  obtain ⟨p, hp, -, rfl⟩ := get?_toHeaders_iff.mp hfound
  exact hlegal p hp

/-- Signed headers that a message does not take have a value with a forbidden character. -/
theorem toFields_error_iff (s : Signer) (millis : Int) (body : String)
    (event call : Option String) :
    ((s.signAt millis body).label event call).toFields = .error .invalidValue ↔
      ∃ value, (event = some value ∨ call = some value) ∧
        ∃ c ∈ value.toList, Header.Forbidden c := by
  have htaken := s.exists_toFields_iff millis body event call
  simp only [Utf8.all_isValueByte_iff] at htaken
  cases hfields : ((s.signAt millis body).label event call).toFields with
  | ok m =>
    rw [hfields] at htaken
    refine iff_of_false nofun fun ⟨value, hvalue, c, hc, hforbidden⟩ => ?_
    exact htaken.mp ⟨m, rfl⟩ value hvalue c hc hforbidden
  | error fault =>
    rw [fault_eq hfields]
    refine iff_of_true rfl ?_
    by_contra hnone
    push Not at hnone
    obtain ⟨m, hm⟩ := htaken.mpr hnone
    rw [hfields] at hm
    cases hm

/-- What is found in the list is of ASCII if it is no label. -/
theorem ascii_or_label {s : Signer} {millis : Int} {body : String} {event call : Option String}
    {name value : String}
    (hfound : ((s.signAt millis body).label event call).toHeaders.get? name = some value) :
    Header.Ascii value ∨ event = some value ∨ call = some value := by
  obtain ⟨p, hp, -, rfl⟩ := get?_toHeaders_iff.mp hfound
  rw [pairs_label, List.mem_cons, List.mem_cons] at hp
  rcases hp with rfl | rfl | hp
  · exact .inl (Signature.printing_compute _ _ _).ascii
  · exact .inl (Timestamp.printing_write _).ascii
  · exact .inr (mem_labelPairs hp)

/-- **Two shapes.** A message refuses signed headers exactly if the type of the event or the
identifier of the delivery has a control character other than the tab, and then for its value.
If it takes them, then whatever name is looked up, in whatever case, what is found in the
fields is what is found in the list if that is of ASCII, and nothing otherwise; and only the
type and the identifier can have letters of other sorts. -/
theorem renderings_agree (s : Signer) (millis : Int) (body : String)
    (event call : Option String) :
    let h := (s.signAt millis body).label event call
    (h.toFields = .error .invalidValue ↔ ∃ value, (event = some value ∨ call = some value) ∧
      ∃ c ∈ value.toList, Header.Forbidden c) ∧
    (∀ fault, h.toFields = .error fault → fault = .invalidValue) ∧
    (∀ m, h.toFields = .ok m → ∀ name value, (Headers.fields m).get? name = some value ↔
      h.toHeaders.get? name = some value ∧ Header.Ascii value) ∧
    ∀ name value, h.toHeaders.get? name = some value →
      Header.Ascii value ∨ event = some value ∨ call = some value :=
  ⟨toFields_error_iff s millis body event call, fun _ => fault_eq,
    fun _ hm _ _ => get?_fields_iff hm, fun _ _ => ascii_or_label⟩

/-- The type of an event with a letter outside ASCII is carried by a message and cannot be
found in it. -/
theorem get?_fields_accented :
    let h := ((Signer.mk "whsec_test").signAt 42 "\x7b\x7d").label (some "é") none
    ∃ m, h.toFields = .ok m ∧ (Headers.fields m).get? "X-UseSend-Event" = none ∧
      h.toHeaders.get? "X-UseSend-Event" = some "é" := by
  intro h
  have hlegal : ∀ value, some "é" = some value ∨ none = some value →
      (Utf8.encode value).all Fields.isValueByte = true := by
    rintro value (heq | heq)
    · cases heq
      decide
    · cases heq
  have hlisted : h.toHeaders.get? "X-UseSend-Event" = some "é" :=
    get?_toHeaders_iff.mpr
      ⟨(Header.event, "é"), by simp [h, pairs, label, Signer.signAt], rfl, rfl⟩
  obtain ⟨m, hm⟩ := ((Signer.mk "whsec_test").exists_toFields_iff 42 "\x7b\x7d" _ _).mpr hlegal
  refine ⟨m, hm, ?_, hlisted⟩
  -- whatever is found would be the label, which is not of ASCII
  rw [Option.eq_none_iff_forall_ne_some]
  intro value hvalue
  obtain ⟨hfound, hascii⟩ := (get?_fields_iff hm).mp hvalue
  cases hlisted.symm.trans hfound
  exact absurd hascii (by decide)

end SignedHeaders
end SignedHooks
