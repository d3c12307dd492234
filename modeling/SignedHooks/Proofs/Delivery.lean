/-
# Signed deliveries

What a signer signs a verifier with the same secret accepts, as long as the
time of signing is near enough to its clock (`Verifier.verify_signed`). And a
delivery that carries the signature of some body and time is accepted only if
it has this body and this time (`Verifier.unaltered_of_accepted`). The message
that is signed does not tell where the timestamp ends, so this rests on what a
verifier takes for a timestamp: were the dot and a piece of the body moved into
it, it would be no number.

Of the code of a message nothing is assumed but that it tells the two messages
apart, the one that was signed and the one that came
(`Signature.TellsApart`).

Key definitions: `Signature.TellsApart`.
Key theorems: `Verifier.Call.verify_of_compute`, `Verifier.verify_signed`,
`Verifier.unaltered_of_accepted`.
-/
import SignedHooks.Proofs.Headers
import SignedHooks.Proofs.Verdict

namespace SignedHooks

/-- If the two messages differ, then so do their codes under the secret. -/
def Signature.TellsApart (secret : String) (m₁ m₂ : List UInt8) : Prop :=
  m₁ ≠ m₂ → Hmac.digest (Utf8.encode secret) m₁ ≠ Hmac.digest (Utf8.encode secret) m₂

/-! ### Signatures and timestamps are there -/

theorem Signature.marked_compute (secret timestamp body : String) :
    Marked (compute secret timestamp body) :=
  ⟨_, compute_eq secret timestamp body⟩

theorem Signature.Marked.ne_empty {s : String} (h : Marked s) : s ≠ "" := by
  obtain ⟨rest, rfl⟩ := h
  intro hempty
  have hlist := congrArg String.toList hempty
  rw [String.toList_append] at hlist
  exact absurd (List.append_eq_nil_iff.mp hlist).1 (by decide)

theorem Timestamp.write_ne_empty (millis : Int) : write millis ≠ "" := by
  intro hempty
  exact (spells_write millis).ne_nil (by rw [hempty]; rfl)

namespace Verifier

/-! ### What is signed is accepted -/

/-- A delivery with the signature of its own timestamp and body is judged by its
time alone. -/
theorem Call.verify_of_compute {c : Call} {millis : Int} {body : String}
    (hfits : Signed64.Fits millis)
    (hsig : c.headers.get? Header.signature =
      some (Signature.compute c.secret (Timestamp.write millis) body))
    (hts : c.headers.get? Header.timestamp = some (Timestamp.write millis))
    (hbody : c.body.raw = Utf8.encode body) : c.verify =
      if Near c.tolerance c.now.millis millis then .ok () else .error .timestampOutOfRange := by
  have hmarked := Signature.marked_compute c.secret (Timestamp.write millis) body
  have hhead : Headed c.headers _ _ :=
    ⟨⟨hsig, hmarked.ne_empty⟩, ⟨hts, Timestamp.write_ne_empty millis⟩, hmarked⟩
  rw [Call.verify_of_read hhead (Timestamp.read_write hfits),
    checkSignature_compute (Body.decode_eq_ok_iff.mpr hbody)]
  rfl

/-- **Signing and verifying.** What a signer signs, at any time of the range and
under any labels, is accepted if the time is near and refused as out of range
otherwise, in every shape in which it comes; and a message takes the headers
unless a label is illegal. -/
theorem verify_signed {s : Signer} {body : String} {millis : Int} {h : SignedHeaders}
    {eventType callId : Option String} {c : Call} (hsigned : s.Signed body millis h)
    (hsecret : c.secret = s.secret) (hbody : c.body.raw = Utf8.encode body)
    (hcarried : (h.label eventType callId).Carried c.headers) :
    (c.verify =
      if Near c.tolerance c.now.millis millis then .ok () else .error .timestampOutOfRange) ∧
    ((∃ m, (h.label eventType callId).toFields = .ok m) ↔
      ∀ value, eventType = some value ∨ callId = some value →
        (Utf8.encode value).all Fields.isValueByte = true) := by
  obtain ⟨hfits, rfl⟩ := hsigned.eq_signAt
  refine ⟨?_, s.exists_toFields_iff millis body eventType callId⟩
  have hsig := hcarried.get?_signature (Signature.printing_compute _ _ _)
  have hts := hcarried.get?_timestamp (Timestamp.printing_write millis)
  refine Call.verify_of_compute hfits ?_ hts hbody
  rw [hsecret]
  exact hsig

/-- A delivery signed five minutes before the epoch, at the epoch. -/
theorem verify_signed_five_minutes_ago :
    (Call.mk (ofSecret "whsec") ⟨false, 0, 0⟩ (.bytes (Utf8.encode "{}"))
      (((Signer.mk "whsec").signAt (-300000) "{}").label (some "test") none).toHeaders
      .none).verify = .ok () :=
  (verify_signed (.given (by decide)) rfl rfl .pairs).1.trans (if_pos (by decide))

/-! ### What is accepted was signed -/

/-- **No alteration.** A delivery that carries the signature of a body at a time,
and that a verifier with the same secret accepts, whatever its clock and its
tolerance, has the timestamp and the bytes that were signed. -/
theorem unaltered_of_accepted {s : Signer} {millis : Int} {body timestamp : String} {c : Call}
    (hfits : Signed64.Fits millis) (hsecret : c.secret = s.secret)
    (hsig : c.headers.get? Header.signature = some (s.signAt millis body).signature)
    (hts : c.headers.get? Header.timestamp = some timestamp)
    (hapart : Signature.TellsApart s.secret
      (Signature.message (s.signAt millis body).timestamp (Utf8.encode body))
      (Signature.message timestamp c.body.raw))
    (hok : c.verify = .ok ()) :
    timestamp = Timestamp.write millis ∧ c.body.raw = Utf8.encode body := by
  obtain ⟨sig, ts, b, htimely, hdecode, rfl⟩ := c.exists_of_verify_ok hok
  obtain rfl : timestamp = ts := Option.some.inj (hts.symm.trans htimely.timestamp.1)
  have hraw : c.body.raw = Utf8.encode b := Body.decode_eq_ok_iff.mp hdecode
  -- the two signatures are the same, so the two messages are
  have hcompute : Signature.compute s.secret (Timestamp.write millis) body =
      Signature.compute s.secret timestamp b := by
    have hsame := htimely.signature.1.symm.trans hsig
    rw [hsecret] at hsame
    exact (Option.some.inj hsame).symm
  have hmessage : Signature.message (Timestamp.write millis) (Utf8.encode body) =
      Signature.message timestamp (Utf8.encode b) := by
    by_contra hne
    rw [hraw] at hapart
    exact hapart hne (Signature.digest_eq_of_compute_eq hcompute)
  have hdot := Timestamp.dot_not_mem_of_spells (Timestamp.spells_write millis)
  rcases Signature.message_eq_cases hdot hmessage with ⟨rfl, rfl⟩ | ⟨rest, hlonger⟩
  · exact ⟨rfl, hraw⟩
  · obtain ⟨t, hread, -⟩ := htimely.read_near
    rw [Timestamp.read_write_dot hfits hlonger] at hread
    cases hread

/-- A text with a dot and digits in it, signed before the epoch and delivered as
bytes to a verifier that does not check the time. -/
theorem unaltered_of_accepted_bytes : "-7" = Timestamp.write (-7) ∧
    (Body.bytes [0x31, 0x2e, 0x32]).raw = Utf8.encode "1.2" := by
  have hsig := SignedHeaders.Carried.pairs.get?_signature (h := (Signer.mk "whsec").signAt (-7) "1.2")
    (Signature.printing_compute _ _ _)
  have hts := SignedHeaders.Carried.pairs.get?_timestamp (h := (Signer.mk "whsec").signAt (-7) "1.2")
    (Timestamp.printing_write (-7))
  have hbody : (Body.bytes [0x31, 0x2e, 0x32]).raw = Utf8.encode "1.2" := rfl
  refine unaltered_of_accepted (s := ⟨"whsec"⟩)
    (c := ⟨⟨"whsec", -1⟩, ⟨false, 0, 0⟩, .bytes [0x31, 0x2e, 0x32], _, .none⟩)
    (by decide) rfl hsig hts (fun hne => absurd rfl hne) ?_
  rw [Call.verify_of_compute (by decide) hsig hts hbody]
  exact if_pos (.inl (by decide))

end Verifier
end SignedHooks
