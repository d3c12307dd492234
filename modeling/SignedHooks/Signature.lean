/-
# Signatures

What a signature is: the scheme's marker, then the HMAC-SHA256 of the
timestamp, a dot and the body, under the secret, in hexadecimal. The
timestamp is signed as it is sent.

Key definitions: `Signature.marker`, `Signature.compute`, `Signature.agree`.
Key theorems: `Signature.agree_self`.
-/
import SignedHooks.Digest.Hex
import SignedHooks.Digest.Hmac
import SignedHooks.Text.Utf8

namespace SignedHooks
namespace Signature

/-- How a signature of this scheme begins. -/
def marker : String := "v1="

/-- The byte between the timestamp and the body. -/
def separator : UInt8 := 0x2e

/-- The signature of a body sent with a timestamp. -/
def compute (secret timestamp body : String) : String :=
  let code := (Hmac.Stream.ofKey (Utf8.encode secret)).absorb (Utf8.encode timestamp)
    |>.absorb [separator]
    |>.absorb (Utf8.encode body)
  marker ++ Hex.encode code.finish

/-- A received signature agrees with the expected one if it has the same bytes. -/
def agree (expected received : String) : Bool :=
  Utf8.encode expected == Utf8.encode received

@[simp] theorem agree_self (s : String) : agree s s = true := by
  simp [agree]

end Signature
end SignedHooks
