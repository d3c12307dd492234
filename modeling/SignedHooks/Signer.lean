/-
# Signers

A signer makes the headers that a delivery carries: the signature, the time of
signing, and, if they are given, the type of the event and an identifier of
the delivery. The last two are for information and are not signed.

Key definitions: `Signer.signAt`, `Signer.sign`, `SignedHeaders`, `SignedHeaders.pairs`,
`SignedHeaders.toFields`, `SignedHeaders.lines`.
-/
import SignedHooks.Header.Collection
import SignedHooks.Header.Line
import SignedHooks.Instant
import SignedHooks.Signature
import SignedHooks.Timestamp
import SignedHooks.Verifier

namespace SignedHooks

/-- The headers of a signed delivery. -/
structure SignedHeaders where
  /-- The time of signing. -/
  timestamp : String
  /-- The signature. -/
  signature : String
  /-- The type of the event. -/
  eventType : Option String
  /-- The identifier of the delivery. -/
  callId : Option String
  deriving DecidableEq, Repr

namespace SignedHeaders

/-- The same with another type and another identifier, where they are given. -/
def label (h : SignedHeaders) (eventType callId : Option String) : SignedHeaders :=
  { h with eventType := eventType.or h.eventType, callId := callId.or h.callId }

/-- The headers, in the order in which they are sent. -/
def pairs (h : SignedHeaders) : List (String × String) :=
  [(Header.signature, h.signature), (Header.timestamp, h.timestamp)] ++
    (h.eventType.map fun value => (Header.event, value)).toList ++
    (h.callId.map fun value => (Header.call, value)).toList

/-- The headers as a list of pairs. -/
def toHeaders (h : SignedHeaders) : Headers :=
  .ofTexts h.pairs

/-- The headers as the fields of an HTTP message. -/
def toFields (h : SignedHeaders) : Except Fields.Fault Fields :=
  Fields.empty.appendAll (h.pairs.map fun p => (p.1, Utf8.encode p.2))

/-- The headers, each on a line. -/
def lines (h : SignedHeaders) : String :=
  String.join (h.pairs.map fun p => HeaderLine.write p.1 p.2)

end SignedHeaders

/-- A secret to sign with. -/
structure Signer where
  /-- The secret. -/
  secret : String
  deriving DecidableEq, Repr

namespace Signer

/-- The headers of a body that is sent at some millisecond. -/
def signAt (s : Signer) (millis : Int) (body : String) : SignedHeaders :=
  let timestamp := Timestamp.write millis
  ⟨timestamp, Signature.compute s.secret timestamp body, none, none⟩

/-- The headers of a body that is sent at an instant. -/
def sign (s : Signer) (now : Instant) (body : String) : SignedHeaders :=
  s.signAt now.millis body

/-- A signer in one line, without its secret. -/
def summary (_ : Signer) : String :=
  "WebhookSigner \x7b secret: " ++ Verifier.hidden ++ ", .. \x7d"

end Signer
end SignedHooks
