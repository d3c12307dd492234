/-
# The bytes of a body

A body that comes as text and one that comes as bytes are the same for all that
follows: what is read of either is the text whose bytes it has
(`Body.decode_eq_ok_iff`), and there is only one reason why nothing is read
(`Body.decode_error`).

Key definitions: `Body.raw`.
Key theorems: `Body.decode_eq_ok_iff`, `Body.decode_error`.
-/
import SignedHooks.Body
import SignedHooks.Proofs.Utf8

namespace SignedHooks
namespace Body

/-- The bytes of a body, those of its text if it comes as one. -/
def raw : Body → List UInt8
  | .text s => Utf8.encode s
  | .bytes bs => bs

/-- A text is read of a body exactly if the body has its bytes. -/
theorem decode_eq_ok_iff {s : String} : ∀ {body : Body},
    body.decode = .ok s ↔ body.raw = Utf8.encode s
  | .text x => by
    rw [decode_text, raw]
    exact ⟨fun h => by rw [Except.ok.inj h], fun h => by rw [Utf8.encode_injective h]⟩
  | .bytes bs => by
    rw [decode, raw]
    constructor
    · intro h
      cases hd : Utf8.decode bs with
      | error fault =>
        rw [hd] at h
        cases h
      | ok x =>
        rw [hd] at h
        cases h
        exact (Utf8.encode_of_decode hd).symm
    · rintro rfl
      rw [Utf8.decode_encode]
      rfl

/-- A body is refused only as one that is no text. -/
theorem decode_error {refusal : Refusal} : ∀ {body : Body}, body.decode = .error refusal →
    ∃ fault, refusal = .invalidBody fault
  | .text s, h => by cases h
  | .bytes bs, h => by
    rw [decode] at h
    cases hd : Utf8.decode bs with
    | error fault =>
      rw [hd] at h
      exact ⟨fault, (Except.error.inj h).symm⟩
    | ok s =>
      rw [hd] at h
      cases h

end Body
end SignedHooks
