/-
# Bodies

The body of a delivery comes as text or as the bytes that were sent. What is
signed is the text; bytes that are no text have none.

Key definitions: `Body`, `Body.decode`.
Key theorems: `Body.decode_text`.
-/
import SignedHooks.Refusal

namespace SignedHooks

/-- The body of a delivery. -/
inductive Body where
  /-- A text. -/
  | text (s : String)
  /-- The bytes that were sent. -/
  | bytes (bs : List UInt8)
  deriving DecidableEq, Repr

/-- The text of a body. -/
def Body.decode : Body → Except Refusal String
  | .text s => .ok s
  | .bytes bs => (Utf8.decode bs).mapError .invalidBody

@[simp] theorem Body.decode_text (s : String) : (Body.text s).decode = .ok s := rfl

end SignedHooks
