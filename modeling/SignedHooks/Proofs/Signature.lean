/-
# What a signature binds

A signature is the marker and the digits of the code of one message: the
bytes of the timestamp, a dot and the bytes of the body
(`Signature.compute_eq`). Two signatures under one secret are therefore the
same only if the codes of their messages are (`Signature.digest_eq_of_compute_eq`).
The message itself has no frame, and a body may hold dots and digits; but its
timestamp ends at its first dot if it holds none, so the message of a timestamp
without a dot and a body is the message of another pair only if the other
timestamp goes on with a dot (`Signature.message_eq_cases`).

Key definitions: `Signature.message`.
Key theorems: `Signature.compute_eq`, `Signature.digest_eq_of_compute_eq`,
`Signature.message_eq_cases`, `Signature.agree_iff`.
-/
import SignedHooks.Proofs.Digest
import SignedHooks.Proofs.Utf8
import SignedHooks.Signature

namespace SignedHooks

namespace Hex

/-- No two byte strings have the same digits. -/
theorem encode_injective {a b : List UInt8} (h : encode a = encode b) : a = b := by
  have hlist : encodeList a = encodeList b := String.ofList_injective h
  have ha := decodeList_encodeList a
  rw [hlist, decodeList_encodeList] at ha
  exact (Option.some.inj ha).symm

end Hex

namespace Signature

/-- The message that is signed: the timestamp as it is sent, a dot, and the bytes
of the body. -/
def message (timestamp : String) (body : List UInt8) : List UInt8 :=
  Utf8.encode timestamp ++ separator :: body

/-- A signature is the marker and the digits of the code of the message. -/
theorem compute_eq (secret timestamp body : String) : compute secret timestamp body =
    marker ++ Hex.encode
      (Hmac.digest (Utf8.encode secret) (message timestamp (Utf8.encode body))) := by
  have h := (((Hmac.Stream.holds_ofKey (Utf8.encode secret)).absorb
    (Utf8.encode timestamp)).absorb [separator]).absorb (Utf8.encode body)
  have hm : [] ++ Utf8.encode timestamp ++ [separator] ++ Utf8.encode body =
      message timestamp (Utf8.encode body) := by
    rw [List.nil_append, List.append_assoc, List.singleton_append, message]
  rw [hm] at h
  rw [compute, h.finish]

/-- The same signature is the same code. -/
theorem digest_eq_of_compute_eq {secret t₁ b₁ t₂ b₂ : String}
    (h : compute secret t₁ b₁ = compute secret t₂ b₂) :
    Hmac.digest (Utf8.encode secret) (message t₁ (Utf8.encode b₁)) =
      Hmac.digest (Utf8.encode secret) (message t₂ (Utf8.encode b₂)) := by
  rw [compute_eq, compute_eq] at h
  exact Hex.encode_injective (String.append_right_inj marker |>.mp h)

/-- Agreeing is being the same text. -/
theorem agree_iff (expected received : String) :
    agree expected received = true ↔ received = expected := by
  rw [agree, beq_iff_eq]
  exact ⟨fun h => (Utf8.encode_injective h).symm, fun h => by rw [h]⟩

theorem message_eq_encode (timestamp body : String) : message timestamp (Utf8.encode body) =
    Utf8.encode (String.ofList (timestamp.toList ++ '.' :: body.toList)) := by
  rw [message, Utf8.encode, Utf8.encode, Utf8.encode, String.toList_ofList,
    Utf8.encodeList_append, Utf8.encodeList_cons]
  rfl

/-- A message whose timestamp holds no dot is that of no other timestamp, unless
the other one goes on behind it with a dot. -/
theorem message_eq_cases {t₁ b₁ t₂ b₂ : String} (hdot : '.' ∉ t₁.toList)
    (h : message t₁ (Utf8.encode b₁) = message t₂ (Utf8.encode b₂)) :
    (t₂ = t₁ ∧ b₂ = b₁) ∨ ∃ rest, t₂.toList = t₁.toList ++ '.' :: rest := by
  rw [message_eq_encode, message_eq_encode] at h
  have hlist := String.ofList_injective (Utf8.encode_injective h)
  rcases List.append_eq_append_iff.mp hlist with ⟨more, ht, hb⟩ | ⟨more, ht, hb⟩
  · cases more with
    | nil =>
      rw [List.append_nil] at ht
      rw [List.nil_append] at hb
      exact .inl ⟨String.toList_inj.mp ht, (String.toList_inj.mp (List.cons.inj hb).2).symm⟩
    | cons c more =>
      obtain ⟨rfl, -⟩ := List.cons.inj hb
      exact .inr ⟨more, ht⟩
  · cases more with
    | nil =>
      rw [List.append_nil] at ht
      rw [List.nil_append] at hb
      exact .inl ⟨(String.toList_inj.mp ht).symm, String.toList_inj.mp (List.cons.inj hb).2⟩
    | cons c more =>
      obtain ⟨rfl, -⟩ := List.cons.inj hb
      exact absurd (ht ▸ List.mem_append_right _ (List.mem_cons_self ..)) hdot

end Signature
end SignedHooks
