/-
# What the data of email events is read from

The members of an object describe an email if its fields stand under their names, where an
optional one may be null or absent, and it keeps all members of other names
(`Event.EmailData.Describes`). They describe one exactly if those under the names of the
fields have the right types (`Event.EmailData.Typed`,
`Event.EmailData.exists_describes_iff`), and it is the one that is read
(`Event.EmailData.ofObject_eq_ok_iff_describes`).

For the events that tell of an email and nothing else this is the payload
(`Event.payload_basicEmail`), if no key stands twice in the data; and none does if the event
was read (`Event.distinct_data_of_read`).

Key definitions: `Event.EmailData.Describes`, `Event.EmailData.Typed`.
Key theorems: `Event.EmailData.describes_congr`,
`Event.EmailData.ofObject_eq_ok_iff_describes`, `Event.EmailData.exists_describes_iff`,
`Event.payload_basicEmail`.
-/
import SignedHooks.Proofs.JsonWriting
import SignedHooks.Proofs.PayloadWriting
import SignedHooks.Proofs.RecordReading

namespace SignedHooks
namespace Event

open Json (Value Object)

namespace EmailData

/-! ### Emails and the members that describe them -/

/-- The members describe the email: its fields stand under their names, where null is as good as
none for the optional ones, and the members of other names than those `taken` are kept, in
their order. -/
structure Describes (taken : List String) (m : Object) (d : EmailData) : Prop where
  id : m.get? "id" = some (.text d.id)
  status : m.get? "status" = some (.text d.status)
  sender : m.get? "from" = some (.text d.sender)
  recipients : m.get? "to" = some (.array (d.recipients.map .text))
  occurredAt : m.get? "occurredAt" = some (.text d.occurredAt)
  subject : m.given? "subject" = d.subject.map .text
  campaignId : m.given? "campaignId" = d.campaignId.map .text
  contactId : m.given? "contactId" = d.contactId.map .text
  domainId : m.given? "domainId" = d.domainId.map ofInteger
  /-- The number of the domain has 64 bits. -/
  domainFits : ∀ n, d.domainId = some n → Signed64.Fits n
  templateId : m.given? "templateId" = d.templateId.map .text
  metadata : m.given? "metadata" = d.metadata
  other : d.other = m.filter fun e => e.1 ∉ taken

variable {taken taken' : List String} {m m' : Object} {d : EmailData}

/-- Nothing counts but the values under the names of the fields, and the members that are
kept. -/
theorem describes_congr (h : Describes taken m d)
    (hsame : ∀ name ∈ names, m'.get? name = m.get? name)
    (hother : (m'.filter fun e => e.1 ∉ taken') = m.filter fun e => e.1 ∉ taken) :
    Describes taken' m' d where
  id := (hsame _ (by decide)).trans h.id
  status := (hsame _ (by decide)).trans h.status
  sender := (hsame _ (by decide)).trans h.sender
  recipients := (hsame _ (by decide)).trans h.recipients
  occurredAt := (hsame _ (by decide)).trans h.occurredAt
  subject := (Object.given?_of_get? (hsame _ (by decide))).trans h.subject
  campaignId := (Object.given?_of_get? (hsame _ (by decide))).trans h.campaignId
  contactId := (Object.given?_of_get? (hsame _ (by decide))).trans h.contactId
  domainId := (Object.given?_of_get? (hsame _ (by decide))).trans h.domainId
  domainFits := h.domainFits
  templateId := (Object.given?_of_get? (hsame _ (by decide))).trans h.templateId
  metadata := (Object.given?_of_get? (hsame _ (by decide))).trans h.metadata
  other := h.other.trans hother.symm

theorem others_eq_filter (m : Object) : others m = m.filter fun e => e.1 ∉ names := by
  unfold others
  refine List.filter_congr fun e _ => ?_
  rw [Bool.eq_iff_iff, isOther_iff, decide_eq_true_iff]

/-- The email that is built of an object is the one that its members describe. -/
theorem build_eq_ok_iff_describes : build m = .ok d ↔ Describes names m d := by
  simp only [build, idField, statusField, senderField, recipientsField, occurredAtField,
    subjectField, campaignIdField, contactIdField, domainIdField, templateIdField, metadataField,
    Json.bind_eq_ok_iff, Field.required_text, Field.required_texts, Field.optional_text,
    Field.optional_integer, Field.optional_any]
  constructor
  · rintro ⟨_, hid, _, hstatus, _, hsender, _, hrecipients, _, hoccurredAt, _, hsubject, _,
      hcampaignId, _, hcontactId, _, ⟨hfits, hdomainId⟩, _, htemplateId, _, hmetadata, ⟨⟩⟩
    exact ⟨hid, hstatus, hsender, hrecipients, hoccurredAt, hsubject, hcampaignId, hcontactId,
      hdomainId, hfits, htemplateId, hmetadata, others_eq_filter m⟩
  · intro h
    refine ⟨_, h.id, _, h.status, _, h.sender, _, h.recipients, _, h.occurredAt, _, h.subject, _,
      h.campaignId, _, h.contactId, _, ⟨h.domainFits, h.domainId⟩, _, h.templateId, _,
      h.metadata, ?_⟩
    have hother : (m.filter fun e => isOther e.1) = d.other :=
      (others_eq_filter m).trans h.other.symm
    rw [hother]
    rfl

theorem guarded : Guarded checks build :=
  .required idField fun _ =>
  .required statusField fun _ =>
  .required senderField fun _ =>
  .required recipientsField fun _ =>
  .required occurredAtField fun _ =>
  .optional subjectField fun _ =>
  .optional campaignIdField fun _ =>
  .optional contactIdField fun _ =>
  .optional domainIdField fun _ =>
  .optional templateIdField fun _ =>
  .optional metadataField fun _ =>
  .done

/-- The email that is read from an object is the one that its members describe. -/
theorem ofObject_eq_ok_iff_describes {title : String} (hm : m.Distinct) :
    (record title).ofObject m = .ok d ↔ Describes names m d :=
  (Record.ofObject_eq_ok_iff_build guarded hm).trans build_eq_ok_iff_describes

/-! ### Objects that describe an email -/

/-- The members under the names of the fields have the right types. -/
structure Typed (m : Object) : Prop where
  id : ∃ s, m.get? "id" = some (.text s)
  status : ∃ s, m.get? "status" = some (.text s)
  sender : ∃ s, m.get? "from" = some (.text s)
  recipients : ∃ texts : List String, m.get? "to" = some (.array (texts.map .text))
  occurredAt : ∃ s, m.get? "occurredAt" = some (.text s)
  subject : ∀ v, m.get? "subject" = some v → v = .null ∨ ∃ s, v = .text s
  campaignId : ∀ v, m.get? "campaignId" = some v → v = .null ∨ ∃ s, v = .text s
  contactId : ∀ v, m.get? "contactId" = some v → v = .null ∨ ∃ s, v = .text s
  domainId : ∀ v, m.get? "domainId" = some v →
    v = .null ∨ ∃ n, Signed64.Fits n ∧ v = .number (.integer n)
  templateId : ∀ v, m.get? "templateId" = some v → v = .null ∨ ∃ s, v = .text s

theorem exists_given_text_iff {key : String} :
    (∃ o : Option String, m.given? key = o.map .text) ↔
      ∀ v, m.get? key = some v → v = .null ∨ ∃ s, v = .text s := by
  have h : (∃ o : Option String, (∀ s, o = some s → Unbounded s) ∧ m.given? key = o.map .text) ↔
      ∀ v, m.get? key = some v → v = .null ∨ ∃ s, Unbounded s ∧ v = .text s := exists_given_iff
  simpa [Unbounded] using h

theorem Describes.typed (h : Describes taken m d) : Typed m where
  id := ⟨_, h.id⟩
  status := ⟨_, h.status⟩
  sender := ⟨_, h.sender⟩
  recipients := ⟨_, h.recipients⟩
  occurredAt := ⟨_, h.occurredAt⟩
  subject := exists_given_text_iff.mp ⟨_, h.subject⟩
  campaignId := exists_given_text_iff.mp ⟨_, h.campaignId⟩
  contactId := exists_given_text_iff.mp ⟨_, h.contactId⟩
  domainId := exists_given_iff.mp ⟨_, h.domainFits, h.domainId⟩
  templateId := exists_given_text_iff.mp ⟨_, h.templateId⟩

/-- The members describe an email exactly if they have the right types. -/
theorem exists_describes_iff : (∃ d, Describes taken m d) ↔ Typed m := by
  constructor
  · rintro ⟨d, h⟩
    exact h.typed
  · intro h
    obtain ⟨id, hid⟩ := h.id
    obtain ⟨status, hstatus⟩ := h.status
    obtain ⟨sender, hsender⟩ := h.sender
    obtain ⟨recipients, hrecipients⟩ := h.recipients
    obtain ⟨occurredAt, hoccurredAt⟩ := h.occurredAt
    obtain ⟨subject, hsubject⟩ := exists_given_text_iff.mpr h.subject
    obtain ⟨campaignId, hcampaignId⟩ := exists_given_text_iff.mpr h.campaignId
    obtain ⟨contactId, hcontactId⟩ := exists_given_text_iff.mpr h.contactId
    obtain ⟨domainId, hfits, hdomainId⟩ := exists_given_iff.mpr h.domainId
    obtain ⟨templateId, htemplateId⟩ := exists_given_text_iff.mpr h.templateId
    exact ⟨⟨id, status, sender, recipients, occurredAt, subject, campaignId, contactId, domainId,
        templateId, m.given? "metadata", m.filter fun e => e.1 ∉ taken⟩,
      hid, hstatus, hsender, hrecipients, hoccurredAt, hsubject, hcampaignId, hcontactId,
      hdomainId, hfits, htemplateId, rfl, rfl⟩

end EmailData

/-! ### Payloads -/

theorem Kind.ofTag_tag {k : Kind} (hk : k ∈ catalogue) : ofTag k.tag = k := by
  revert k
  decide

theorem Kind.mem_catalogue_of_isBasicEmail {k : Kind} (hk : k.isBasicEmail = true) :
    k ∈ catalogue := by
  cases k <;> first | decide | cases hk

/-- An event with the tag of a kind of the catalogue tells what its data says for that kind. -/
theorem payload_of_tag {e : Event} {k : Kind} (hk : k ∈ Kind.catalogue)
    (htag : e.tag? = some k.tag) : e.payload = narrow k (e.data?.getD .null) := by
  have hkind : e.kind? = some k := by
    rw [kind?, htag, Option.map_some, Kind.ofTag_tag hk]
  rw [payload, hkind]

theorem data_eq_object_iff {e : Event} {m : Object} :
    e.data?.getD .null = .object m ↔ e.data? = some (.object m) := by
  cases e.data? with
  | none => exact ⟨nofun, nofun⟩
  | some v => exact (Option.some_inj).symm

/-- In the data of an event that is read no key stands twice. -/
theorem distinct_data_of_read {text : String} {e : Event} (h : read text = .ok e) {m : Object}
    (hm : e.data? = some (.object m)) : m.Distinct := by
  have hdata := sorted_data (ordered_of_read h)
  rw [hm] at hdata
  exact Object.Sorted.distinct (Value.all_object_iff.mp hdata).1

theorem narrow_basicEmail {k : Kind} (hk : k.isBasicEmail = true) (v : Value) :
    narrow k v = ((EmailData.record "EmailEventData").readObject v).map (.email k) := by
  cases k <;> first | rfl | cases hk

/-- The payload of an event that tells of an email and nothing else is the email that is read
from its data. -/
theorem payload_basicEmail_eq_ok_iff {e : Event} {k : Kind} (hk : k.isBasicEmail = true)
    (htag : e.tag? = some k.tag) {p : Payload} : e.payload = .ok p ↔
      ∃ m d, e.data? = some (.object m) ∧ (EmailData.record "EmailEventData").ofObject m = .ok d ∧
        p = .email k d := by
  rw [payload_of_tag (Kind.mem_catalogue_of_isBasicEmail hk) htag, narrow_basicEmail hk,
    Json.map_eq_ok_iff]
  constructor
  · rintro ⟨d, hread, rfl⟩
    obtain ⟨m, hm, hd⟩ := Record.readObject_eq_ok_iff.mp hread
    exact ⟨m, d, data_eq_object_iff.mp hm, hd, rfl⟩
  · rintro ⟨m, d, hdata, hd, rfl⟩
    rw [data_eq_object_iff.mpr hdata]
    exact ⟨d, hd, rfl⟩

/-- **Email payloads.** An event whose tag is one of those that tell of an email and nothing
else has a payload exactly if its data is an object of which the members under the names of
the fields have the right types. It is the email that the members describe: each field is
what stands under its name, an optional one is none if that is null or absent, and the
members of all other names are kept as they are. No key may stand twice in the data, and none
does if the event was read (`distinct_data_of_read`). -/
theorem payload_basicEmail {e : Event} {k : Kind} (hk : k.isBasicEmail = true)
    (htag : e.tag? = some k.tag) (hdata : ∀ m, e.data? = some (.object m) → Object.Distinct m) :
    ((∃ p, e.payload = .ok p) ↔ ∃ m, e.data? = some (.object m) ∧ EmailData.Typed m) ∧
    ∀ p, e.payload = .ok p ↔ ∃ m d, e.data? = some (.object m) ∧
      EmailData.Describes EmailData.names m d ∧ p = .email k d := by
  have hpayload : ∀ p, e.payload = .ok p ↔ ∃ m d, e.data? = some (.object m) ∧
      EmailData.Describes EmailData.names m d ∧ p = .email k d := by
    intro p
    rw [payload_basicEmail_eq_ok_iff hk htag]
    constructor
    · rintro ⟨m, d, hm, hd, rfl⟩
      exact ⟨m, d, hm, (EmailData.ofObject_eq_ok_iff_describes (hdata m hm)).mp hd, rfl⟩
    · rintro ⟨m, d, hm, hd, rfl⟩
      exact ⟨m, d, hm, (EmailData.ofObject_eq_ok_iff_describes (hdata m hm)).mpr hd, rfl⟩
  refine ⟨?_, hpayload⟩
  constructor
  · rintro ⟨p, hp⟩
    obtain ⟨m, d, hm, hd, -⟩ := (hpayload p).mp hp
    exact ⟨m, hm, hd.typed⟩
  · rintro ⟨m, hm, htyped⟩
    obtain ⟨d, hd⟩ := EmailData.exists_describes_iff.mpr htyped
    exact ⟨.email k d, (hpayload _).mpr ⟨m, d, hm, hd, rfl⟩⟩

/-- The tags of these events. -/
example : (Kind.catalogue.filter Kind.isBasicEmail).map Kind.tag =
    ["email.queued", "email.sent", "email.delivery_delayed", "email.delivered",
      "email.rejected", "email.rendering_failure", "email.complained", "email.cancelled"] := rfl

/-- An email with a number of its domain, a subject that is null, and two members of other
names, one of them like a field in another case. -/
def sentMembers : Object :=
  [("ID", .null), ("domainId", .number (.integer (-7))), ("from", .text "a@example.com"),
    ("id", .text "e1"), ("note", .array [.null]), ("occurredAt", .text "2026-02-08"),
    ("status", .text "SENT"), ("subject", .null), ("to", .array [.text "b@example.com"])]

/-- The event that the email was sent. -/
def sentEvent : Event :=
  ⟨[("data", .object sentMembers), ("type", .text "email.sent")]⟩

/-- What the event tells. -/
def sentEmail : EmailData :=
  ⟨"e1", "SENT", "a@example.com", ["b@example.com"], "2026-02-08", none, none, none, some (-7),
    none, none, [("ID", .null), ("note", .array [.null])]⟩

theorem payload_sentEvent : EmailData.Describes EmailData.names sentMembers sentEmail ∧
    sentEvent.payload = .ok (.email .emailSent sentEmail) := by
  have hdescribes : EmailData.Describes EmailData.names sentMembers sentEmail :=
    { id := rfl, status := rfl, sender := rfl, recipients := rfl, occurredAt := rfl,
      subject := rfl, campaignId := rfl, contactId := rfl, domainId := rfl,
      domainFits := by
        rintro n ⟨⟩
        decide
      templateId := rfl, metadata := rfl, other := rfl }
  have hdistinct : ∀ m, sentEvent.data? = some (.object m) → Object.Distinct m := by
    rintro m ⟨⟩
    unfold Object.Distinct
    decide
  refine ⟨hdescribes, ?_⟩
  exact ((payload_basicEmail rfl rfl hdistinct).2 _).mpr
    ⟨sentMembers, sentEmail, rfl, hdescribes, rfl⟩

end Event
end SignedHooks
