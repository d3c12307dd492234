/-
# Verifiers

A verifier knows a secret and how far the time of a delivery may be from its
clock. It judges a delivery in a fixed order: the two headers are there, the
signature has the marker, the timestamp is a number and near enough, the body
is a text, and the signature is that of the timestamp and the body. The first
condition that does not hold is the refusal. Only then is the body read as an
event.

A single call may use another secret or another tolerance.

Key definitions: `Verifier`, `Verifier.Overrides`, `Verifier.judge`, `Verifier.verify`,
`Verifier.accepts`, `Verifier.event`, `Verifier.receive`.
-/
import SignedHooks.Body
import SignedHooks.Event
import SignedHooks.Header.Collection
import SignedHooks.Instant
import SignedHooks.Log.Record

namespace SignedHooks

/-- A secret, and how many milliseconds a delivery may be away from now; a
negative number stands for any. -/
structure Verifier where
  /-- The secret. -/
  secret : String
  /-- The tolerance. -/
  tolerance : Int
  deriving DecidableEq, Repr

namespace Verifier

/-- Five minutes, in milliseconds. -/
def defaultTolerance : Int := 300000

/-- A verifier with the default tolerance. -/
def ofSecret (secret : String) : Verifier :=
  ⟨secret, defaultTolerance⟩

/-- What one call uses instead of what the verifier has. -/
structure Overrides where
  /-- Another secret, which may be empty. -/
  secret : Option String
  /-- Another tolerance. -/
  tolerance : Option Int
  deriving DecidableEq, Repr

namespace Overrides

/-- Nothing else than what the verifier has. -/
def none : Overrides := ⟨.none, .none⟩

/-- The same with another secret. -/
def withSecret (o : Overrides) (secret : String) : Overrides :=
  { o with secret := some secret }

/-- The same with another tolerance. -/
def withTolerance (o : Overrides) (tolerance : Int) : Overrides :=
  { o with tolerance := some tolerance }

/-- The same without a check of the time. -/
def withoutTolerance (o : Overrides) : Overrides :=
  o.withTolerance (-1)

end Overrides

/-- What a call uses. -/
def override (v : Verifier) (o : Overrides) : Verifier :=
  ⟨o.secret.getD v.secret, o.tolerance.getD v.tolerance⟩

/-- The value of a header, if there is one that is not empty. -/
def filled? (headers : Headers) (name : String) : Option String :=
  (headers.get? name).filter fun value => !value.isEmpty

/-- The signature has the marker of the scheme in front. -/
def isMarked (signature : String) : Bool :=
  Signature.marker.toList.isPrefixOf signature.toList

/-- The time `stamp` is near enough to `now`; with a negative tolerance any
time is. -/
def inTime (tolerance now stamp : Int) : Bool :=
  tolerance < 0 || Signed64.gap now stamp ≤ tolerance.toNat

/-- The time that a header says, if it is near enough to `now`. -/
def checkTime (tolerance now : Int) (timestamp : String) : Except Refusal Unit :=
  match Timestamp.read timestamp with
  | .error fault => .error (.invalidTimestamp fault)
  | .ok stamp => if inTime tolerance now stamp then .ok () else .error .timestampOutOfRange

/-- The text of a body whose signature is the given one. -/
def checkSignature (secret signature timestamp : String) (body : Body) : Except Refusal String := do
  let text ← body.decode
  if Signature.agree (Signature.compute secret timestamp text) signature then .ok text
  else .error .signatureMismatch

/-- The text of a delivery that a verifier accepts at a time. -/
def judge (v : Verifier) (now : Int) (body : Body) (headers : Headers) : Except Refusal String :=
  match filled? headers Header.signature with
  | none => .error .missingSignature
  | some signature =>
    match filled? headers Header.timestamp with
    | none => .error .missingTimestamp
    | some timestamp =>
      if isMarked signature then do
        checkTime v.tolerance now timestamp
        checkSignature v.secret signature timestamp body
      else .error .invalidSignatureFormat

/-- Nothing if the delivery is accepted at the instant, or the refusal. -/
def verify (v : Verifier) (now : Instant) (body : Body) (headers : Headers) (o : Overrides) :
    Except Refusal Unit :=
  ((v.override o).judge now.millis body headers).map fun _ => ()

/-- The delivery is accepted at the instant; a refusal leaves a record. -/
def accepts (v : Verifier) (now : Instant) (body : Body) (headers : Headers) (o : Overrides) :
    Logged Bool :=
  match v.verify now body headers o with
  | .ok _ => ⟨true, []⟩
  | .error refusal =>
    ⟨false, [⟨.debug, Log.verification, "Webhook verification failed",
      [("code", refusal.code.text)]⟩]⟩

/-- The event of a delivery that is accepted at the instant. -/
def event (v : Verifier) (now : Instant) (body : Body) (headers : Headers) (o : Overrides) :
    Except Refusal Event := do
  let text ← (v.override o).judge now.millis body headers
  (Event.read text).mapError .invalidJson

/-- The event of a delivery that is accepted at the instant; an event leaves a
record. -/
def receive (v : Verifier) (now : Instant) (body : Body) (headers : Headers) (o : Overrides) :
    Logged (Except Refusal Event) :=
  match v.event now body headers o with
  | .ok e =>
    ⟨.ok e, [⟨.trace, Log.verification, "Webhook event constructed",
      [("event_type", Text.quote (e.tag?.getD ""))]⟩]⟩
  | .error refusal => ⟨.error refusal, []⟩

/-- What stands for a secret where it must not be shown. -/
def hidden : String := Text.quote "<redacted>"

/-- A value that may be absent, in a summary. -/
def summarise (value : Option String) : String :=
  match value with
  | none => "None"
  | some text => "Some(" ++ text ++ ")"

/-- A verifier in one line, without its secret. -/
def summary (v : Verifier) : String :=
  "Webhooks \x7b secret: " ++ hidden ++ ", tolerance_ms: " ++ toString v.tolerance ++ ", .. \x7d"

/-- The overrides in one line, without the secret. -/
def Overrides.summary (o : Overrides) : String :=
  "VerifyOptions \x7b secret: " ++ summarise (o.secret.map fun _ => hidden) ++
    ", tolerance_ms: " ++ summarise (o.tolerance.map toString) ++ " \x7d"

end Verifier
end SignedHooks
