/-
# What a payload says about the tag

An event is dispatched by its tag through four tables: the kind of a tag, the tag of a kind,
the kinds that tell of an email and nothing else, and the reader of the details of each
kind. They agree. The tag of the kind of a tag is this tag, whatever text it is, so no two
tags have one kind (`Event.Kind.ofTag_injective`); and the tags of the catalogue have the
kinds of the catalogue (`Event.Kind.ofTag_mem_iff`), all others none of them
(`Event.Kind.ofTag_of_not_mem`).

The details of an event of some kind have the shape that belongs to the kind
(`Event.Suits`, `Event.suits_of_narrow`), so the tag can be told from the payload
(`Event.Payload.kind`), and the shape from the tag (`Event.payload_kind`).

Key definitions: `Event.Payload.kind`, `Event.Suits`.
Key theorems: `Event.Kind.ofTag_injective`, `Event.Kind.ofTag_mem_iff`,
`Event.suits_of_narrow`, `Event.payload_kind`.
-/
import SignedHooks.Proofs.EmailReading

namespace SignedHooks
namespace Event

open Json (Value Object)

/-! ### Tags and kinds -/

namespace Kind

/-- No two tags have one kind. -/
theorem ofTag_injective : Function.Injective ofTag := by
  intro g g' h
  rw [← tag_ofTag g, h, tag_ofTag]

/-- The tags of some kinds of the catalogue are the tags that have these kinds. -/
theorem ofTag_mem_iff {ks : List Kind} (hks : ks ⊆ catalogue) {g : String} :
    ofTag g ∈ ks ↔ g ∈ ks.map tag := by
  rw [List.mem_map]
  constructor
  · intro h
    exact ⟨ofTag g, h, tag_ofTag g⟩
  · rintro ⟨k, hk, rfl⟩
    rwa [ofTag_tag (hks hk)]

theorem mem_catalogue_or_other (k : Kind) : k ∈ catalogue ∨ ∃ tag, k = .other tag := by
  cases k with
  | other tag => exact .inr ⟨tag, rfl⟩
  | _ => exact .inl (by decide)

theorem other_not_mem_catalogue (tag : String) : Kind.other tag ∉ catalogue := by
  simp [catalogue]

/-- A tag outside the catalogue is kept as it is. -/
theorem ofTag_of_not_mem {g : String} (h : g ∉ catalogue.map tag) : ofTag g = .other g := by
  rcases mem_catalogue_or_other (ofTag g) with hk | ⟨tag', htag⟩
  · exact absurd ((ofTag_mem_iff (List.Subset.refl _)).mp hk) h
  · have hsame := tag_ofTag g
    rw [htag] at hsame ⊢
    exact congrArg Kind.other hsame

/-- The kinds of events that tell of a contact. -/
def contacts : List Kind :=
  [.contactCreated, .contactUpdated, .contactDeleted]

/-- The kinds of events that tell of a domain. -/
def domains : List Kind :=
  [.domainCreated, .domainVerified, .domainUpdated, .domainDeleted]

theorem not_basicEmail_of_contacts {k : Kind} (h : k ∈ contacts) : ¬ k.isBasicEmail = true := by
  revert k
  decide

theorem not_basicEmail_of_domains {k : Kind} (h : k ∈ domains) : ¬ k.isBasicEmail = true := by
  revert k
  decide

theorem not_domains_of_contacts {k : Kind} (h : k ∈ contacts) : k ∉ domains := by
  revert k
  decide

end Kind

/-! ### Payloads and kinds -/

/-- The kind that a payload carries, or that it implies. -/
def Payload.kind : Payload → Kind
  | .email k _ | .contact k _ | .domain k _ => k
  | .emailBounced _ => .emailBounced
  | .emailFailed _ => .emailFailed
  | .emailSuppressed _ => .emailSuppressed
  | .emailOpened _ => .emailOpened
  | .emailClicked _ => .emailClicked
  | .test _ => .test
  | .unknown tag _ => .other tag

/-- The payload has the shape that belongs to the kind. -/
inductive Suits : Kind → Payload → Prop where
  | email {k : Kind} {d : EmailData} : k.isBasicEmail = true → Suits k (.email k d)
  | bounced {d : Sectioned Bounce} : Suits .emailBounced (.emailBounced d)
  | failed {d : Sectioned Failure} : Suits .emailFailed (.emailFailed d)
  | suppressed {d : Sectioned Suppression} : Suits .emailSuppressed (.emailSuppressed d)
  | opened {d : Sectioned Engagement} : Suits .emailOpened (.emailOpened d)
  | clicked {d : Sectioned Click} : Suits .emailClicked (.emailClicked d)
  | contact {k : Kind} {d : ContactData} : k ∈ Kind.contacts → Suits k (.contact k d)
  | domain {k : Kind} {d : DomainData} : k ∈ Kind.domains → Suits k (.domain k d)
  | test {d : TestData} : Suits .test (.test d)
  | unknown {tag : String} {v : Value} : Suits (.other tag) (.unknown tag v)

/-- The details of an event of some kind have the shape that belongs to it. -/
theorem suits_of_narrow {k : Kind} {v : Value} {p : Payload} (h : narrow k v = .ok p) :
    Suits k p := by
  cases k with
  | emailBounced =>
    obtain ⟨d, -, rfl⟩ := Json.map_eq_ok_iff.mp h
    exact .bounced
  | emailFailed =>
    obtain ⟨d, -, rfl⟩ := Json.map_eq_ok_iff.mp h
    exact .failed
  | emailSuppressed =>
    obtain ⟨d, -, rfl⟩ := Json.map_eq_ok_iff.mp h
    exact .suppressed
  | emailOpened =>
    obtain ⟨d, -, rfl⟩ := Json.map_eq_ok_iff.mp h
    exact .opened
  | emailClicked =>
    obtain ⟨d, -, rfl⟩ := Json.map_eq_ok_iff.mp h
    exact .clicked
  | contactCreated | contactUpdated | contactDeleted =>
    obtain ⟨d, -, rfl⟩ := Json.map_eq_ok_iff.mp h
    exact .contact (by decide)
  | domainCreated | domainVerified | domainUpdated | domainDeleted =>
    obtain ⟨d, -, rfl⟩ := Json.map_eq_ok_iff.mp h
    exact .domain (by decide)
  | test =>
    obtain ⟨d, -, rfl⟩ := Json.map_eq_ok_iff.mp h
    exact .test
  | other tag =>
    cases h
    exact .unknown
  | emailQueued | emailSent | emailDeliveryDelayed | emailDelivered | emailRejected
  | emailRenderingFailure | emailComplained | emailCancelled =>
    obtain ⟨d, -, rfl⟩ := Json.map_eq_ok_iff.mp h
    exact .email rfl

namespace Suits

variable {k : Kind} {p : Payload}

theorem kind_eq (h : Suits k p) : p.kind = k := by
  cases h <;> rfl

theorem email_iff (h : Suits k p) : (∃ k' d, p = .email k' d) ↔ k.isBasicEmail = true := by
  constructor
  · rintro ⟨k', d, rfl⟩
    cases h with
    | email hk => exact hk
  · intro hk
    cases h with
    | email => exact ⟨_, _, rfl⟩
    | contact hc => exact absurd hk (Kind.not_basicEmail_of_contacts hc)
    | domain hd => exact absurd hk (Kind.not_basicEmail_of_domains hd)
    | _ => cases hk

theorem contact_iff (h : Suits k p) : (∃ k' d, p = .contact k' d) ↔ k ∈ Kind.contacts := by
  constructor
  · rintro ⟨k', d, rfl⟩
    cases h with
    | contact hc => exact hc
  · intro hc
    cases h with
    | contact => exact ⟨_, _, rfl⟩
    | email hk => exact absurd hk (Kind.not_basicEmail_of_contacts hc)
    | domain hd => exact absurd hd (Kind.not_domains_of_contacts hc)
    | _ => simp [Kind.contacts] at hc

theorem domain_iff (h : Suits k p) : (∃ k' d, p = .domain k' d) ↔ k ∈ Kind.domains := by
  constructor
  · rintro ⟨k', d, rfl⟩
    cases h with
    | domain hd => exact hd
  · intro hd
    cases h with
    | domain => exact ⟨_, _, rfl⟩
    | email hk => exact absurd hk (Kind.not_basicEmail_of_domains hd)
    | contact hc => exact absurd hd (Kind.not_domains_of_contacts hc)
    | _ => simp [Kind.domains] at hd

theorem unknown_iff (h : Suits k p) : (∃ tag v, p = .unknown tag v) ↔ k ∉ Kind.catalogue := by
  constructor
  · rintro ⟨tag, v, rfl⟩
    cases h with
    | unknown => exact Kind.other_not_mem_catalogue tag
  · intro hk
    obtain ⟨tag, rfl⟩ := (Kind.mem_catalogue_or_other k).resolve_left hk
    cases h with
    | unknown => exact ⟨_, _, rfl⟩
    | email hk => cases hk
    | contact hc => simp [Kind.contacts] at hc
    | domain hd => simp [Kind.domains] at hd

end Suits

/-! ### Events -/

theorem tag?_eq_some_iff {e : Event} {g : String} :
    e.tag? = some g ↔ e.members.get? "type" = some (.text g) := by
  unfold tag? text?
  rw [Option.bind_eq_some_iff]
  constructor
  · rintro ⟨v, hv, htext⟩
    cases v with
    | text s =>
      obtain rfl : s = g := Option.some.inj htext
      exact hv
    | _ => cases htext
  · intro h
    exact ⟨_, h, rfl⟩

theorem suits_of_payload {e : Event} {g : String} (htag : e.tag? = some g) {p : Payload}
    (h : e.payload = .ok p) : Suits (Kind.ofTag g) p := by
  obtain ⟨k, hk, hnarrow⟩ := payload_eq_ok_iff.mp h
  rw [kind?, htag] at hk
  obtain rfl : Kind.ofTag g = k := Option.some.inj hk
  exact suits_of_narrow hnarrow

/-- An event with a tag outside the catalogue has its data as it is for a payload. -/
theorem payload_of_not_mem {e : Event} {g : String} (htag : e.tag? = some g)
    (hg : g ∉ Kind.catalogue.map Kind.tag) :
    e.payload = .ok (.unknown g ((e.members.get? "data").getD .null)) := by
  refine payload_eq_ok_iff.mpr ⟨.other g, ?_, rfl⟩
  rw [kind?, htag, Option.map_some, Kind.ofTag_of_not_mem hg]

/-- **Tags are kept.** An event without a tag, or with one that is no text, has no payload. Of
any other event the tag is that of its kind, and a payload carries or implies this kind and so
the tag. It is that of an email exactly if the kind tells of an email and nothing else, of a
contact or a domain exactly for their tags in the catalogue, and unknown exactly if the tag is
none of the catalogue; and then there is always a payload, with the data unchanged. No two
tags have one kind. -/
theorem payload_kind (e : Event) :
    ((∀ g, e.members.get? "type" ≠ some (.text g)) → e.payload = .error (.missingField "type")) ∧
    (∀ g, e.members.get? "type" = some (.text g) →
      (Kind.ofTag g).tag = g ∧
      (∀ p, e.payload = .ok p → p.kind = Kind.ofTag g ∧ p.kind.tag = g ∧
        ((∃ k d, p = .email k d) ↔ (Kind.ofTag g).isBasicEmail = true) ∧
        ((∃ k d, p = .contact k d) ↔
          g ∈ ["contact.created", "contact.updated", "contact.deleted"]) ∧
        ((∃ k d, p = .domain k d) ↔
          g ∈ ["domain.created", "domain.verified", "domain.updated", "domain.deleted"]) ∧
        ((∃ tag v, p = .unknown tag v) ↔ g ∉ Kind.catalogue.map Kind.tag)) ∧
      (g ∉ Kind.catalogue.map Kind.tag →
        e.payload = .ok (.unknown g ((e.members.get? "data").getD .null)))) ∧
    Function.Injective Kind.ofTag := by
  refine ⟨fun hnone => payload_of_no_tag ?_, fun g hg => ?_, Kind.ofTag_injective⟩
  · rw [Option.eq_none_iff_forall_ne_some]
    exact fun g hg => hnone g (tag?_eq_some_iff.mp hg)
  have htag : e.tag? = some g := tag?_eq_some_iff.mpr hg
  refine ⟨Kind.tag_ofTag g, fun p hp => ?_, payload_of_not_mem htag⟩
  have hsuits := suits_of_payload htag hp
  have hcontact : Kind.ofTag g ∈ Kind.contacts ↔ g ∈ Kind.contacts.map Kind.tag :=
    Kind.ofTag_mem_iff (by decide)
  have hdomain : Kind.ofTag g ∈ Kind.domains ↔ g ∈ Kind.domains.map Kind.tag :=
    Kind.ofTag_mem_iff (by decide)
  have hknown : Kind.ofTag g ∈ Kind.catalogue ↔ g ∈ Kind.catalogue.map Kind.tag :=
    Kind.ofTag_mem_iff (List.Subset.refl _)
  refine ⟨hsuits.kind_eq, ?_, hsuits.email_iff, ?_, ?_, ?_⟩
  · rw [hsuits.kind_eq, Kind.tag_ofTag]
  · exact hsuits.contact_iff.trans hcontact
  · exact hsuits.domain_iff.trans hdomain
  · exact hsuits.unknown_iff.trans (not_congr hknown)

/-- The tags of the catalogue. -/
example : Kind.catalogue.map Kind.tag =
    ["email.queued", "email.sent", "email.delivery_delayed", "email.delivered", "email.bounced",
      "email.rejected", "email.rendering_failure", "email.complained", "email.failed",
      "email.cancelled", "email.suppressed", "email.opened", "email.clicked", "contact.created",
      "contact.updated", "contact.deleted", "domain.created", "domain.verified", "domain.updated",
      "domain.deleted", "test"] := rfl

end Event
end SignedHooks
