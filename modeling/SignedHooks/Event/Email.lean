/-
# Data of email events

Every email event tells of one email. Its data has the fields below, and any
others are kept as they are. Five kinds of events add a section of their own:
why the email bounced, failed or was suppressed, or how it was opened or
clicked. Such data is the email with the section beside it.

Key definitions: `Event.EmailData`, `Event.Bounce`, `Event.Failure`,
`Event.Suppression`, `Event.Engagement`, `Event.Click`, `Event.Sectioned`.
-/
import SignedHooks.Event.Record

namespace SignedHooks
namespace Event

open Json (Value Object)

/-- What every email event tells. -/
structure EmailData where
  /-- The email. -/
  id : String
  /-- Its status. -/
  status : String
  /-- Its sender. -/
  sender : String
  /-- Its recipients. -/
  recipients : List String
  /-- When it happened. -/
  occurredAt : String
  /-- The subject. -/
  subject : Option String
  /-- The campaign that the email belongs to. -/
  campaignId : Option String
  /-- The contact that it went to. -/
  contactId : Option String
  /-- The domain that it was sent from. -/
  domainId : Option Int
  /-- The template that it was made from. -/
  templateId : Option String
  /-- What the sender attached to it. -/
  metadata : Option Value
  /-- The members of other names. -/
  other : Object

namespace EmailData

/-- The field `id`. -/
def idField : Field String := ⟨"id", readText⟩

/-- The field `status`. -/
def statusField : Field String := ⟨"status", readText⟩

/-- The field `from`. -/
def senderField : Field String := ⟨"from", readText⟩

/-- The field `to`. -/
def recipientsField : Field (List String) := ⟨"to", readTexts⟩

/-- The field `occurredAt`. -/
def occurredAtField : Field String := ⟨"occurredAt", readText⟩

/-- The field `subject`. -/
def subjectField : Field String := ⟨"subject", readText⟩

/-- The field `campaignId`. -/
def campaignIdField : Field String := ⟨"campaignId", readText⟩

/-- The field `contactId`. -/
def contactIdField : Field String := ⟨"contactId", readText⟩

/-- The field `domainId`. -/
def domainIdField : Field Int := ⟨"domainId", readInteger⟩

/-- The field `templateId`. -/
def templateIdField : Field String := ⟨"templateId", readText⟩

/-- The field `metadata`. -/
def metadataField : Field Value := ⟨"metadata", readAny⟩

/-- The checks of the fields. -/
def checks : List Check :=
  [idField.must, statusField.must, senderField.must, recipientsField.must, occurredAtField.must,
   subjectField.may, campaignIdField.may, contactIdField.may, domainIdField.may,
   templateIdField.may, metadataField.may]

/-- A name that is none of the fields. -/
def isOther (name : String) : Bool :=
  !checks.any fun c => c.name == name

/-- The data whose fields the members say. -/
def build (m : Object) : Except Mismatch EmailData := do
  let id ← idField.required m
  let status ← statusField.required m
  let sender ← senderField.required m
  let recipients ← recipientsField.required m
  let occurredAt ← occurredAtField.required m
  let subject ← subjectField.optional m
  let campaignId ← campaignIdField.optional m
  let contactId ← contactIdField.optional m
  let domainId ← domainIdField.optional m
  let templateId ← templateIdField.optional m
  let metadata ← metadataField.optional m
  return {
    id, status, sender, recipients, occurredAt, subject, campaignId, contactId, domainId,
    templateId, metadata, other := m.filter fun e => isOther e.1 }

/-- The record, under the name that messages give it. -/
def record (title : String) : Record EmailData :=
  ⟨title, checks, 5, build⟩

/-- The members that say the data, the fields first. -/
def toMembers (d : EmailData) : Object :=
  member "id" (.text d.id) ++ member "status" (.text d.status) ++
    member "from" (.text d.sender) ++ member "to" (.array (d.recipients.map .text)) ++
    member "occurredAt" (.text d.occurredAt) ++ member? "subject" (d.subject.map .text) ++
    member? "campaignId" (d.campaignId.map .text) ++
    member? "contactId" (d.contactId.map .text) ++ member? "domainId" (d.domainId.map ofInteger) ++
    member? "templateId" (d.templateId.map .text) ++ member? "metadata" d.metadata ++ d.other

end EmailData

/-- Why an email bounced. -/
structure Bounce where
  /-- Whether the bounce is permanent. -/
  type : String
  /-- The cause in more detail. -/
  subType : Option String
  /-- What the receiving server said. -/
  message : Option String
  deriving DecidableEq, Repr

namespace Bounce

/-- The field `type`. -/
def typeField : Field String := ⟨"type", readText⟩

/-- The field `subType`. -/
def subTypeField : Field String := ⟨"subType", readText⟩

/-- The field `message`. -/
def messageField : Field String := ⟨"message", readText⟩

/-- The record. -/
def record : Record Bounce where
  title := "BounceDetails"
  checks := [typeField.must, subTypeField.may, messageField.may]
  mandatory := 1
  build := fun m => do
    let type ← typeField.required m
    let subType ← subTypeField.optional m
    let message ← messageField.optional m
    return ⟨type, subType, message⟩

/-- The members that say the details. -/
def toMembers (b : Bounce) : Object :=
  member "type" (.text b.type) ++ member? "subType" (b.subType.map .text) ++
    member? "message" (b.message.map .text)

end Bounce

/-- Why an email could not be sent. -/
structure Failure where
  /-- The reason. -/
  reason : String
  deriving DecidableEq, Repr

namespace Failure

/-- The field `reason`. -/
def reasonField : Field String := ⟨"reason", readText⟩

/-- The record. -/
def record : Record Failure where
  title := "FailureDetails"
  checks := [reasonField.must]
  mandatory := 1
  build := fun m => do
    let reason ← reasonField.required m
    return ⟨reason⟩

/-- The members that say the details. -/
def toMembers (f : Failure) : Object :=
  member "reason" (.text f.reason)

end Failure

/-- Why the recipient of an email is suppressed. -/
structure Suppression where
  /-- The sort of suppression. -/
  type : String
  /-- The reason. -/
  reason : Option String
  deriving DecidableEq, Repr

namespace Suppression

/-- The field `type`. -/
def typeField : Field String := ⟨"type", readText⟩

/-- The field `reason`. -/
def reasonField : Field String := ⟨"reason", readText⟩

/-- The record. -/
def record : Record Suppression where
  title := "SuppressionDetails"
  checks := [typeField.must, reasonField.may]
  mandatory := 1
  build := fun m => do
    let type ← typeField.required m
    let reason ← reasonField.optional m
    return ⟨type, reason⟩

/-- The members that say the details. -/
def toMembers (s : Suppression) : Object :=
  member "type" (.text s.type) ++ member? "reason" (s.reason.map .text)

end Suppression

/-- With what an email was opened or a link clicked. -/
structure Engagement where
  /-- When. -/
  timestamp : Option String
  /-- The user agent. -/
  userAgent : Option String
  /-- The address of the client. -/
  ip : Option String
  /-- The platform of the client. -/
  platform : Option String
  deriving DecidableEq, Repr

namespace Engagement

/-- The field `timestamp`. -/
def timestampField : Field String := ⟨"timestamp", readText⟩

/-- The field `userAgent`. -/
def userAgentField : Field String := ⟨"userAgent", readText⟩

/-- The field `ip`. -/
def ipField : Field String := ⟨"ip", readText⟩

/-- The field `platform`. -/
def platformField : Field String := ⟨"platform", readText⟩

/-- The record. -/
def record : Record Engagement where
  title := "EngagementDetails"
  checks := [timestampField.may, userAgentField.may, ipField.may, platformField.may]
  mandatory := 0
  build := fun m => do
    let timestamp ← timestampField.optional m
    let userAgent ← userAgentField.optional m
    let ip ← ipField.optional m
    let platform ← platformField.optional m
    return ⟨timestamp, userAgent, ip, platform⟩

/-- The members that say the details. -/
def toMembers (e : Engagement) : Object :=
  member? "timestamp" (e.timestamp.map .text) ++ member? "userAgent" (e.userAgent.map .text) ++
    member? "ip" (e.ip.map .text) ++ member? "platform" (e.platform.map .text)

end Engagement

/-- Which link was clicked, and with what. -/
structure Click where
  /-- The link. -/
  url : String
  /-- The client. -/
  client : Engagement
  deriving DecidableEq, Repr

namespace Click

/-- The name of the record in messages. -/
def title : String := "ClickDetails"

/-- The field `url`. -/
def urlField : Field String := ⟨"url", readText⟩

/-- The click that a value says; the link is read before the client. -/
def read : Value → Except Mismatch Click
  | .object m => do
    let url ← urlField.required m
    let client ← Engagement.record.ofObject (Object.without m urlField.name)
    return ⟨url, client⟩
  | v => .error (wrongType v (recordNamed title))

/-- The members that say the details. -/
def toMembers (c : Click) : Object :=
  member "url" (.text c.url) ++ c.client.toMembers

end Click

/-- The data of an email event with a section of its own. -/
structure Sectioned (σ : Type) where
  /-- The email. -/
  email : EmailData
  /-- The section. -/
  details : σ

namespace Sectioned

variable {σ : Type}

/-- The data that a value says; the section is read before the email. -/
def read (title : String) (section_ : Field σ) : Value → Except Mismatch (Sectioned σ)
  | .object m => do
    let details ← section_.required m
    let email ← (EmailData.record title).ofObject (Object.without m section_.name)
    return ⟨email, details⟩
  | v => .error (wrongType v (recordNamed title))

/-- The members that say the data, the section last. -/
def toMembers (section_ : String) (write : σ → Object) (d : Sectioned σ) : Object :=
  d.email.toMembers ++ member section_ (.object (write d.details))

end Sectioned

/-- The section of a bounced email. -/
def bounceField : Field Bounce := ⟨"bounce", Bounce.record.read⟩

/-- The section of a failed email. -/
def failedField : Field Failure := ⟨"failed", Failure.record.read⟩

/-- The section of a suppressed email. -/
def suppressionField : Field Suppression := ⟨"suppression", Suppression.record.read⟩

/-- The section of an opened email. -/
def openField : Field Engagement := ⟨"open", Engagement.record.read⟩

/-- The section of a clicked email. -/
def clickField : Field Click := ⟨"click", Click.read⟩

end Event
end SignedHooks
