/-
# Events

The body of a delivery is an event: an object of which nothing is required.
A tag under `type` says what it reports, and `data` holds the details, which
are read only when they are asked for, as the tag implies. A tag outside the
catalogue leaves them as they are.

Key definitions: `Event`, `Event.read`, `Event.Payload`, `Event.payload`,
`Event.Payload.toValue`.
Key theorems: `Event.payload_of_no_tag`.
-/
import SignedHooks.Event.Audience
import SignedHooks.Event.Email
import SignedHooks.Event.Kind
import SignedHooks.Json.Printer

namespace SignedHooks

open Json (Value Object)

/-- An event, as the object that it is. -/
structure Event where
  /-- The members of the object. -/
  members : Object

namespace Event

/-- The event that a text says. -/
def read (text : String) : Except Json.Error Event :=
  (Json.readObject text).map Event.mk

/-- The text of an event. -/
def render (e : Event) : String :=
  (Value.object e.members).render

/-- The value of a key, or nothing. -/
def get (e : Event) (key : String) : Value :=
  (e.members.get? key).getD .null

/-- The text under a key. -/
def text? (e : Event) (key : String) : Option String :=
  (e.members.get? key).bind Value.text?

/-- The tag. -/
def tag? (e : Event) : Option String :=
  e.text? "type"

/-- The kind that the tag says. -/
def kind? (e : Event) : Option Kind :=
  e.tag?.map Kind.ofTag

/-- The identifier of the event. -/
def id? (e : Event) : Option String :=
  e.text? "id"

/-- When the event was created. -/
def createdAt? (e : Event) : Option String :=
  e.text? "createdAt"

/-- The details. -/
def data? (e : Event) : Option Value :=
  e.members.get? "data"

/-- The details of an event as its tag implies. -/
inductive Payload where
  /-- An email event without a section of its own. -/
  | email (kind : Kind) (data : EmailData)
  /-- An email bounced. -/
  | emailBounced (data : Sectioned Bounce)
  /-- An email could not be sent. -/
  | emailFailed (data : Sectioned Failure)
  /-- An email was suppressed. -/
  | emailSuppressed (data : Sectioned Suppression)
  /-- An email was opened. -/
  | emailOpened (data : Sectioned Engagement)
  /-- A link in an email was clicked. -/
  | emailClicked (data : Sectioned Click)
  /-- A contact was created, changed or deleted. -/
  | contact (kind : Kind) (data : ContactData)
  /-- A domain was created, verified, changed or deleted. -/
  | domain (kind : Kind) (data : DomainData)
  /-- A test delivery. -/
  | test (data : TestData)
  /-- A tag outside the catalogue. -/
  | unknown (tag : String) (data : Value)

/-- The details of an event of some kind. -/
def narrow (kind : Kind) (data : Value) : Except Mismatch Payload :=
  match kind with
  | .emailBounced =>
    (Sectioned.read "EmailBouncedData" bounceField data).map .emailBounced
  | .emailFailed =>
    (Sectioned.read "EmailFailedData" failedField data).map .emailFailed
  | .emailSuppressed =>
    (Sectioned.read "EmailSuppressedData" suppressionField data).map .emailSuppressed
  | .emailOpened =>
    (Sectioned.read "EmailOpenedData" openField data).map .emailOpened
  | .emailClicked =>
    (Sectioned.read "EmailClickedData" clickField data).map .emailClicked
  | .contactCreated | .contactUpdated | .contactDeleted =>
    (ContactData.record.read data).map (.contact kind)
  | .domainCreated | .domainVerified | .domainUpdated | .domainDeleted =>
    (DomainData.record.read data).map (.domain kind)
  | .test => (TestData.record.read data).map .test
  | .other tag => .ok (.unknown tag data)
  | .emailQueued | .emailSent | .emailDeliveryDelayed | .emailDelivered | .emailRejected
  | .emailRenderingFailure | .emailComplained | .emailCancelled =>
    ((EmailData.record "EmailEventData").readObject data).map (.email kind)

/-- The details of an event. -/
def payload (e : Event) : Except Mismatch Payload :=
  match e.kind? with
  | none => .error (.missingField "type")
  | some kind => narrow kind (e.data?.getD .null)

/-- The details as they are written. -/
def Payload.toValue : Payload → Value
  | .email _ d => .object d.toMembers
  | .emailBounced d => .object (d.toMembers bounceField.name Bounce.toMembers)
  | .emailFailed d => .object (d.toMembers failedField.name Failure.toMembers)
  | .emailSuppressed d => .object (d.toMembers suppressionField.name Suppression.toMembers)
  | .emailOpened d => .object (d.toMembers openField.name Engagement.toMembers)
  | .emailClicked d => .object (d.toMembers clickField.name Click.toMembers)
  | .contact _ d => .object d.toMembers
  | .domain _ d => .object d.toMembers
  | .test d => .object d.toMembers
  | .unknown _ v => v

/-- An event without a tag has no payload. -/
theorem payload_of_no_tag {e : Event} (h : e.tag? = none) :
    e.payload = .error (.missingField "type") := by
  simp [payload, kind?, h]

end Event
end SignedHooks
