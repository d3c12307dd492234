/-
# Refusals

Why a delivery is not accepted. A refusal names its cause; the code of the
cause is stable, for programs, and its message is for people. Some causes
have a cause of their own, found in the timestamp or in the body.

Key definitions: `Refusal`, `Refusal.Code`, `Refusal.code`, `Refusal.message`,
`Refusal.cause?`, `Refusal.report`.
Key theorems: `Refusal.Code.text_injective`.
-/
import SignedHooks.Header.Name
import SignedHooks.Json.Fault
import SignedHooks.Signature
import SignedHooks.Text.Utf8
import SignedHooks.Timestamp

namespace SignedHooks

/-- Why a delivery is not accepted. -/
inductive Refusal where
  /-- There is no signature. -/
  | missingSignature
  /-- There is no timestamp. -/
  | missingTimestamp
  /-- The signature does not begin with the marker of the scheme. -/
  | invalidSignatureFormat
  /-- The timestamp is no integer. -/
  | invalidTimestamp (fault : Timestamp.Fault)
  /-- The timestamp is too far from now. -/
  | timestampOutOfRange
  /-- The body is no text. -/
  | invalidBody (fault : Utf8.Fault)
  /-- The signature is not that of the body. -/
  | signatureMismatch
  /-- The body is no event. -/
  | invalidJson (error : Json.Error)
  deriving DecidableEq, Repr

namespace Refusal

/-- The causes without their details. -/
inductive Code where
  /-- There is no signature. -/
  | missingSignature
  /-- There is no timestamp. -/
  | missingTimestamp
  /-- The signature does not begin with the marker of the scheme. -/
  | invalidSignatureFormat
  /-- The timestamp is no integer. -/
  | invalidTimestamp
  /-- The timestamp is too far from now. -/
  | timestampOutOfRange
  /-- The body is no text. -/
  | invalidBody
  /-- The signature is not that of the body. -/
  | signatureMismatch
  /-- The body is no event. -/
  | invalidJson
  deriving DecidableEq, Repr

/-- The stable text of a code. -/
def Code.text : Code → String
  | .missingSignature => "MISSING_SIGNATURE"
  | .missingTimestamp => "MISSING_TIMESTAMP"
  | .invalidSignatureFormat => "INVALID_SIGNATURE_FORMAT"
  | .invalidTimestamp => "INVALID_TIMESTAMP"
  | .timestampOutOfRange => "TIMESTAMP_OUT_OF_RANGE"
  | .invalidBody => "INVALID_BODY"
  | .signatureMismatch => "SIGNATURE_MISMATCH"
  | .invalidJson => "INVALID_JSON"

/-- A message in front of which stands the code. -/
def Code.report (code : Code) (message : String) : String :=
  "[" ++ code.text ++ "] " ++ message

/-- No two codes have the same text. -/
theorem Code.text_injective {a b : Code} (h : a.text = b.text) : a = b := by
  cases a <;> cases b <;> first | rfl | exact absurd h (by decide)

/-- The code of a refusal. -/
def code : Refusal → Code
  | .missingSignature => .missingSignature
  | .missingTimestamp => .missingTimestamp
  | .invalidSignatureFormat => .invalidSignatureFormat
  | .invalidTimestamp _ => .invalidTimestamp
  | .timestampOutOfRange => .timestampOutOfRange
  | .invalidBody _ => .invalidBody
  | .signatureMismatch => .signatureMismatch
  | .invalidJson _ => .invalidJson

/-- That a header is missing. -/
def missing (header : String) : String :=
  "Missing " ++ header ++ " header"

/-- The message of a refusal. -/
def message : Refusal → String
  | .missingSignature => missing Header.signature
  | .missingTimestamp => missing Header.timestamp
  | .invalidSignatureFormat => "Signature header must start with " ++ Signature.marker
  | .invalidTimestamp _ => "Timestamp header must be a number (milliseconds since epoch)"
  | .timestampOutOfRange => "Webhook timestamp is outside the allowed tolerance"
  | .invalidBody _ => "Webhook body must be valid UTF-8."
  | .signatureMismatch => "Webhook signature does not match"
  | .invalidJson error => "Webhook payload is not valid JSON: " ++ error.message

/-- The message of the cause behind a refusal, if there is one. -/
def cause? : Refusal → Option String
  | .invalidTimestamp fault => some fault.message
  | .invalidBody fault => some fault.message
  | .invalidJson error => some error.message
  | _ => none

/-- A refusal on one line. -/
def report (r : Refusal) : String :=
  r.code.report r.message

end Refusal
end SignedHooks
