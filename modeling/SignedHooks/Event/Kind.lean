/-
# Kinds of events

The tag of an event says what happened. The catalogue has twenty-one tags;
any other tag is kept as it is.

Key definitions: `Event.Kind`, `Event.Kind.tag`, `Event.Kind.ofTag`,
`Event.Kind.isBasicEmail`.
Key theorems: `Event.Kind.tag_ofTag`.
-/

namespace SignedHooks
namespace Event

/-- What an event reports. -/
inductive Kind where
  /-- An email waits to be sent. -/
  | emailQueued
  /-- An email was sent. -/
  | emailSent
  /-- The delivery of an email is delayed. -/
  | emailDeliveryDelayed
  /-- An email was delivered. -/
  | emailDelivered
  /-- An email bounced. -/
  | emailBounced
  /-- An email was rejected. -/
  | emailRejected
  /-- An email could not be rendered. -/
  | emailRenderingFailure
  /-- The recipient of an email complained. -/
  | emailComplained
  /-- An email could not be sent. -/
  | emailFailed
  /-- An email was cancelled. -/
  | emailCancelled
  /-- An email was not sent because its recipient is suppressed. -/
  | emailSuppressed
  /-- An email was opened. -/
  | emailOpened
  /-- A link in an email was clicked. -/
  | emailClicked
  /-- A contact was created. -/
  | contactCreated
  /-- A contact was updated. -/
  | contactUpdated
  /-- A contact was deleted. -/
  | contactDeleted
  /-- A domain was created. -/
  | domainCreated
  /-- A domain was verified. -/
  | domainVerified
  /-- A domain was updated. -/
  | domainUpdated
  /-- A domain was deleted. -/
  | domainDeleted
  /-- A test delivery. -/
  | test
  /-- A tag that is not in the catalogue. -/
  | other (tag : String)
  deriving DecidableEq, Repr

namespace Kind

/-- The tag of a kind. -/
def tag : Kind → String
  | .emailQueued => "email.queued"
  | .emailSent => "email.sent"
  | .emailDeliveryDelayed => "email.delivery_delayed"
  | .emailDelivered => "email.delivered"
  | .emailBounced => "email.bounced"
  | .emailRejected => "email.rejected"
  | .emailRenderingFailure => "email.rendering_failure"
  | .emailComplained => "email.complained"
  | .emailFailed => "email.failed"
  | .emailCancelled => "email.cancelled"
  | .emailSuppressed => "email.suppressed"
  | .emailOpened => "email.opened"
  | .emailClicked => "email.clicked"
  | .contactCreated => "contact.created"
  | .contactUpdated => "contact.updated"
  | .contactDeleted => "contact.deleted"
  | .domainCreated => "domain.created"
  | .domainVerified => "domain.verified"
  | .domainUpdated => "domain.updated"
  | .domainDeleted => "domain.deleted"
  | .test => "test"
  | .other tag => tag

/-- The kinds of the catalogue. -/
def catalogue : List Kind :=
  [.emailQueued, .emailSent, .emailDeliveryDelayed, .emailDelivered, .emailBounced,
   .emailRejected, .emailRenderingFailure, .emailComplained, .emailFailed, .emailCancelled,
   .emailSuppressed, .emailOpened, .emailClicked, .contactCreated, .contactUpdated,
   .contactDeleted, .domainCreated, .domainVerified, .domainUpdated, .domainDeleted, .test]

/-- The kind of a tag. -/
def ofTag : String → Kind
  | "email.queued" => .emailQueued
  | "email.sent" => .emailSent
  | "email.delivery_delayed" => .emailDeliveryDelayed
  | "email.delivered" => .emailDelivered
  | "email.bounced" => .emailBounced
  | "email.rejected" => .emailRejected
  | "email.rendering_failure" => .emailRenderingFailure
  | "email.complained" => .emailComplained
  | "email.failed" => .emailFailed
  | "email.cancelled" => .emailCancelled
  | "email.suppressed" => .emailSuppressed
  | "email.opened" => .emailOpened
  | "email.clicked" => .emailClicked
  | "contact.created" => .contactCreated
  | "contact.updated" => .contactUpdated
  | "contact.deleted" => .contactDeleted
  | "domain.created" => .domainCreated
  | "domain.verified" => .domainVerified
  | "domain.updated" => .domainUpdated
  | "domain.deleted" => .domainDeleted
  | "test" => .test
  | tag => .other tag

/-- An email event whose data has no section of its own. -/
def isBasicEmail : Kind → Bool
  | .emailQueued | .emailSent | .emailDeliveryDelayed | .emailDelivered | .emailRejected
  | .emailRenderingFailure | .emailComplained | .emailCancelled => true
  | _ => false

/-- The kind of a tag has that tag. -/
@[simp] theorem tag_ofTag (tag : String) : (ofTag tag).tag = tag := by
  unfold ofTag
  split <;> rfl

end Kind
end Event
end SignedHooks
