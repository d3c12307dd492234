/-
# What signed headers say when they arrive

Signed headers travel as a list of pairs or as the fields of an HTTP message
(`SignedHeaders.Carried`). A message takes a header if its name is a token and
its value of legal bytes (`Fields.appendAll_ok_iff`), and hands out as text
what consists of printing ASCII (`Header.Printing.visible?_encode`). A signature
and a timestamp do (`Signature.printing_compute`, `Timestamp.printing_write`), so
they never keep headers out of a message (`Signer.exists_toFields_iff`), and they
are found again in either shape (`SignedHeaders.Carried.get?_signature`,
`SignedHeaders.Carried.get?_timestamp`).

Key definitions: `Header.Printing`, `SignedHeaders.Carried`, `Signer.Signed`.
Key theorems: `Fields.appendAll_ok_iff`, `Signer.exists_toFields_iff`,
`SignedHeaders.Carried.get?_signature`, `SignedHeaders.Carried.get?_timestamp`.
-/
import SignedHooks.Proofs.Signature
import SignedHooks.Proofs.Timestamp
import SignedHooks.Signer

namespace SignedHooks

/-! ### Printing characters -/

/-- All characters of the text are printing ASCII. -/
def Header.Printing (s : String) : Prop :=
  ∀ c ∈ s.toList, 32 ≤ c.toNat ∧ c.toNat < 127

instance (s : String) : Decidable (Header.Printing s) :=
  decidable_of_iff (s.toList.all fun c => 32 ≤ c.toNat && c.toNat < 127)
    (by simp [Header.Printing])

namespace Header.Printing

theorem append {s t : String} (hs : Printing s) (ht : Printing t) : Printing (s ++ t) := by
  intro c hc
  rw [String.toList_append, List.mem_append] at hc
  rcases hc with hc | hc
  · exact hs c hc
  · exact ht c hc

/-- Such a text has one byte for each character. -/
theorem encode_eq {s : String} (h : Printing s) :
    Utf8.encode s = s.toList.map fun c => UInt8.ofNat c.toNat := by
  rw [Utf8.encode, Utf8.encodeList, List.map_eq_flatMap]
  refine List.flatMap_congr fun c hc => Utf8.encodeChar_one ?_
  have := (h c hc).2
  omega

theorem mem_encode {s : String} (h : Printing s) {b : UInt8} (hb : b ∈ Utf8.encode s) :
    32 ≤ b.toNat ∧ b.toNat < 127 := by
  rw [h.encode_eq] at hb
  obtain ⟨c, hc, rfl⟩ := List.mem_map.mp hb
  have hrange := h c hc
  rwa [Utf8.toNat_byte (by omega)]

/-- A message takes it as a value. -/
theorem all_isValueByte {s : String} (h : Printing s) :
    (Utf8.encode s).all Fields.isValueByte = true := by
  rw [List.all_eq_true]
  intro b hb
  obtain ⟨h1, h2⟩ := h.mem_encode hb
  have hne : b ≠ 127 := by
    rintro rfl
    exact absurd h2 (by decide)
  simp [Fields.isValueByte, UInt8.le_iff_toNat_le, h1, hne]

/-- A message hands it out again. -/
theorem visible?_encode {s : String} (h : Printing s) :
    Fields.visible? (Utf8.encode s) = some s := by
  have hall : (Utf8.encode s).all Fields.isVisible = true := by
    rw [List.all_eq_true]
    intro b hb
    obtain ⟨h1, h2⟩ := h.mem_encode hb
    simp [Fields.isVisible, UInt8.le_iff_toNat_le, UInt8.lt_iff_toNat_lt, h1, h2]
  have hchars : (Utf8.encode s).map (fun b => Char.ofNat b.toNat) = s.toList := by
    rw [h.encode_eq, List.map_map]
    refine (List.map_congr_left fun c hc => ?_).trans (List.map_id _)
    have hrange := h c hc
    rw [Function.comp_apply, Utf8.toNat_byte (by omega), Char.ofNat_toNat, id]
  rw [Fields.visible?, if_pos hall, hchars, String.ofList_toList]

end Header.Printing

theorem Hex.exists_digit_of_mem {c : Char} : ∀ {bytes : List UInt8}, c ∈ encodeList bytes →
    ∃ n : Fin 16, c = digit n
  | b :: rest, h => by
    have hb : b.toNat < 256 := b.toNat_lt
    rcases List.mem_cons.mp h with rfl | h
    · exact ⟨⟨b.toNat / 16, by omega⟩, rfl⟩
    rcases List.mem_cons.mp h with rfl | h
    · exact ⟨⟨b.toNat % 16, by omega⟩, rfl⟩
    · exact exists_digit_of_mem h

theorem Hex.printing_encode (bytes : List UInt8) : Header.Printing (Hex.encode bytes) := by
  have hdigit : ∀ n : Fin 16, 32 ≤ (digit n).toNat ∧ (digit n).toNat < 127 := by decide
  intro c hc
  rw [Hex.encode, String.toList_ofList] at hc
  obtain ⟨n, rfl⟩ := exists_digit_of_mem hc
  exact hdigit n

theorem Signature.printing_compute (secret timestamp body : String) :
    Header.Printing (compute secret timestamp body) := by
  have hmarker : Header.Printing marker := by decide
  rw [compute_eq]
  exact hmarker.append (Hex.printing_encode _)

theorem Timestamp.printing_write (millis : Int) : Header.Printing (write millis) := by
  intro c hc
  rcases (spells_write millis).digit_or_sign hc with h | rfl | rfl
  · simp only [Char.isDigit, Bool.and_eq_true, decide_eq_true_eq, ge_iff_le] at h
    have h0 : 48 ≤ c.toNat := h.1
    have h9 : c.toNat ≤ 57 := h.2
    omega
  · decide
  · decide

/-! ### The fields of a message -/

namespace Fields

/-- A message takes headers in order exactly if each of them is legal. -/
theorem appendAll_ok_iff {m m' : Fields} {entries : List (String × List UInt8)} :
    m.appendAll entries = .ok m' ↔
      (∀ e ∈ entries, Header.isToken e.1 = true ∧ e.2.all isValueByte = true) ∧
        m' = ⟨m.entries ++ entries.map fun e => (Header.lower e.1, e.2)⟩ := by
  induction entries generalizing m with
  | nil =>
    simp only [appendAll, List.not_mem_nil, false_implies, implies_true, true_and, List.map_nil,
      List.append_nil]
    exact ⟨fun h => (Except.ok.inj h).symm, fun h => by rw [h]⟩
  | cons e rest ih =>
    obtain ⟨name, value⟩ := e
    rw [appendAll, append]
    by_cases hname : Header.isToken name = true
    · by_cases hvalue : value.all isValueByte = true
      · simp only [hname, hvalue, Bool.not_true, Bool.false_eq_true, ↓reduceIte, bind, Except.bind,
          ih, List.forall_mem_cons, true_and, List.map_cons, List.append_assoc,
          List.singleton_append, and_self]
      · rw [Bool.not_eq_true] at hvalue
        simp only [hname, hvalue, Bool.not_true, Bool.not_false, Bool.false_eq_true, ↓reduceIte,
          bind, Except.bind, reduceCtorEq, List.forall_mem_cons, and_false, false_and]
    · rw [Bool.not_eq_true] at hname
      simp only [hname, Bool.not_false, ↓reduceIte, bind, Except.bind, reduceCtorEq,
        List.forall_mem_cons, Bool.false_eq_true, false_and]

end Fields

/-! ### Signed headers -/

namespace SignedHeaders

/-- The shapes in which signed headers come to a verifier. -/
inductive Carried (h : SignedHeaders) : Headers → Prop where
  /-- As a list of pairs. -/
  | pairs : Carried h h.toHeaders
  /-- As the fields of a message that takes them. -/
  | fields {m : Fields} : h.toFields = .ok m → Carried h (.fields m)

theorem isToken_of_mem_pairs {h : SignedHeaders} {p : String × String} (hp : p ∈ h.pairs) :
    Header.isToken p.1 = true := by
  have hnames : p.1 = Header.signature ∨ p.1 = Header.timestamp ∨ p.1 = Header.event ∨
      p.1 = Header.call := by
    simp only [pairs, List.mem_append, List.mem_cons, List.not_mem_nil, or_false,
      Option.mem_toList, Option.map_eq_some_iff] at hp
    rcases hp with ((rfl | rfl) | ⟨_, _, rfl⟩) | ⟨_, _, rfl⟩ <;> simp
  rcases hnames with h | h | h | h <;> rw [h] <;> decide

/-- A message takes signed headers exactly if all their values are legal. -/
theorem toFields_ok_iff {h : SignedHeaders} {m : Fields} : h.toFields = .ok m ↔
    (∀ p ∈ h.pairs, (Utf8.encode p.2).all Fields.isValueByte = true) ∧
      m = ⟨h.pairs.map fun p => (Header.lower p.1, Utf8.encode p.2)⟩ := by
  rw [toFields, Fields.appendAll_ok_iff, List.forall_mem_map, List.map_map, Fields.empty,
    List.nil_append]
  refine and_congr_left fun _ => forall₂_congr fun p hp => ?_
  rw [isToken_of_mem_pairs hp]
  exact and_iff_right rfl

/-- The signature is found again, in whatever shape the headers come. -/
theorem Carried.get?_signature {h : SignedHeaders} {headers : Headers} (hc : h.Carried headers)
    (hprint : Header.Printing h.signature) : headers.get? Header.signature = some h.signature := by
  cases hc with
  | pairs =>
    simp [toHeaders, Headers.ofTexts, Headers.get?, Headers.pairValue?, SignedHeaders.pairs,
      HeaderValue.first]
  | fields hm =>
    obtain ⟨-, rfl⟩ := toFields_ok_iff.mp hm
    have htoken : Header.isToken Header.signature = true := by decide
    simp [Headers.get?, Fields.get?, htoken, SignedHeaders.pairs, hprint.visible?_encode]

/-- The timestamp is found again, in whatever shape the headers come. -/
theorem Carried.get?_timestamp {h : SignedHeaders} {headers : Headers} (hc : h.Carried headers)
    (hprint : Header.Printing h.timestamp) : headers.get? Header.timestamp = some h.timestamp := by
  have hne : Header.signature ≠ Header.timestamp := by decide
  have hne' : Header.lower Header.signature ≠ Header.lower Header.timestamp := by decide
  cases hc with
  | pairs =>
    simp [toHeaders, Headers.ofTexts, Headers.get?, Headers.pairValue?, SignedHeaders.pairs,
      HeaderValue.first, hne]
  | fields hm =>
    obtain ⟨-, rfl⟩ := toFields_ok_iff.mp hm
    have htoken : Header.isToken Header.timestamp = true := by decide
    simp [Headers.get?, Fields.get?, htoken, SignedHeaders.pairs, hprint.visible?_encode, hne']

end SignedHeaders

namespace Signer

/-- The ways in which a signer signs a body. -/
inductive Signed (s : Signer) (body : String) : Int → SignedHeaders → Prop where
  /-- At a given millisecond. -/
  | given {millis : Int} : Signed64.Fits millis → Signed s body millis (s.signAt millis body)
  /-- At the time that a clock says. -/
  | read (now : Instant) : Signed s body now.millis (s.sign now body)

/-- However a body is signed, it is as at some millisecond of the range. -/
theorem Signed.eq_signAt {s : Signer} {body : String} {millis : Int} {h : SignedHeaders}
    (hs : s.Signed body millis h) : Signed64.Fits millis ∧ h = s.signAt millis body := by
  cases hs with
  | given hfits => exact ⟨hfits, rfl⟩
  | read now => exact ⟨now.fits_millis, rfl⟩

/-- Only a type or an identifier keeps signed headers out of a message. -/
theorem exists_toFields_iff (s : Signer) (millis : Int) (body : String)
    (eventType callId : Option String) :
    (∃ m, ((s.signAt millis body).label eventType callId).toFields = .ok m) ↔
      ∀ value, eventType = some value ∨ callId = some value →
        (Utf8.encode value).all Fields.isValueByte = true := by
  have hsig := (Signature.printing_compute s.secret (Timestamp.write millis) body).all_isValueByte
  have hts := (Timestamp.printing_write millis).all_isValueByte
  simp only [SignedHeaders.toFields_ok_iff, exists_and_left, exists_eq, and_true]
  constructor
  · rintro hall value (rfl | rfl)
    · exact hall (Header.event, value) (by simp [SignedHeaders.pairs, SignedHeaders.label])
    · exact hall (Header.call, value) (by simp [SignedHeaders.pairs, SignedHeaders.label])
  · intro hall p hp
    simp only [SignedHeaders.pairs, SignedHeaders.label, signAt, List.mem_append, List.mem_cons,
      List.not_mem_nil, or_false, Option.mem_toList, Option.map_eq_some_iff, Option.or_none] at hp
    rcases hp with ((rfl | rfl) | ⟨value, hv, rfl⟩) | ⟨value, hv, rfl⟩
    · exact hsig
    · exact hts
    · exact hall value (.inl hv)
    · exact hall value (.inr hv)

end Signer
end SignedHooks
