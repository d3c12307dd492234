/-
# What email events with a section are read from

Five kinds of events tell of an email and have a section beside it (`Event.Family`). Their
payload is put together from two parts that do not get in each other's way: the section is
read from the value under its name, and the email is what an event without a section tells
of the members that are left without it (`Event.Tells`). The name of a section is none of
the fields, so nothing of the email changes when the section is taken away, but that the
section is not among the members that are kept (`Event.EmailData.describes_without_iff`). Both
are put together in `Event.payload_section`. A click is divided in the same way, into its
link and its client.

Key definitions: `Event.Family`, `Event.Tells`.
Key theorems: `Event.Family.narrow_eq`, `Event.EmailData.describes_without_iff`,
`Event.payload_section`.
-/
import SignedHooks.Proofs.EmailReading

namespace SignedHooks
namespace Event

open Json (Value Object)

/-! ### Emails without a section -/

/-- An event that tells of an email and nothing else, with these members for its data, tells
this email. -/
def Tells (m : Object) (d : EmailData) : Prop :=
  ∀ (k : Kind) (e : Event), k.isBasicEmail = true → e.tag? = some k.tag →
    e.data? = some (.object m) → e.payload = .ok (.email k d)

variable {m : Object} {d : EmailData}

theorem tells_iff : Tells m d ↔ (EmailData.record "EmailEventData").ofObject m = .ok d := by
  constructor
  · intro h
    have hsent : Event.payload ⟨[("data", .object m), ("type", .text "email.sent")]⟩ =
        .ok (.email .emailSent d) := h .emailSent _ rfl rfl rfl
    obtain ⟨m', d', hm, hd, hpayload⟩ :=
      (payload_basicEmail_eq_ok_iff (k := .emailSent) rfl rfl).mp hsent
    cases hm
    cases hpayload
    exact hd
  · intro h k e hk htag hdata
    exact (payload_basicEmail_eq_ok_iff hk htag).mpr ⟨m, d, hdata, h, rfl⟩

/-- The members describe the email that is told of them. -/
theorem Tells.describes (h : Tells m d) : EmailData.Describes EmailData.names m d :=
  EmailData.build_eq_ok_iff_describes.mp (Record.ofObject_eq_ok_iff.mp (tells_iff.mp h)).2

theorem tells_iff_describes (hm : m.Distinct) :
    Tells m d ↔ EmailData.Describes EmailData.names m d :=
  tells_iff.trans (EmailData.ofObject_eq_ok_iff_describes hm)

/-- A key that is the name of no field may be taken away: what is left describes the emails
that the whole describes if the key is not kept. -/
theorem EmailData.describes_without_iff {key : String} (hkey : key ∉ names) :
    Describes names (m.without key) d ↔ Describes (key :: names) m d := by
  have hsame : ∀ name ∈ names, (m.without key).get? name = m.get? name := by
    intro name hname
    refine Object.get?_without m ?_
    rintro rfl
    exact hkey hname
  have hother : ((m.without key).filter fun e => e.1 ∉ names) =
      m.filter fun e => e.1 ∉ key :: names := by
    unfold Object.without
    rw [List.filter_filter]
    refine List.filter_congr fun e _ => ?_
    rw [Bool.eq_iff_iff]
    simp [and_comm]
  constructor
  · intro h
    exact describes_congr h (fun name hname => (hsame name hname).symm) hother.symm
  · intro h
    exact describes_congr h hsame hother

/-! ### Families -/

/-- The kinds of events that tell of an email with a section: the kind, the section, and the
payload that is made of both. -/
inductive Family : {σ : Type} → Kind → Field σ → (Sectioned σ → Payload) → Prop where
  | bounced : Family .emailBounced bounceField .emailBounced
  | failed : Family .emailFailed failedField .emailFailed
  | suppressed : Family .emailSuppressed suppressionField .emailSuppressed
  | opened : Family .emailOpened openField .emailOpened
  | clicked : Family .emailClicked clickField .emailClicked

section

variable {σ : Type} {k : Kind} {f : Field σ} {wrap : Sectioned σ → Payload}

theorem Family.mem_catalogue (h : Family k f wrap) : k ∈ Kind.catalogue := by
  cases h <;> decide

/-- The name of a section is none of the fields. -/
theorem Family.name_not_mem (h : Family k f wrap) : f.name ∉ EmailData.names := by
  cases h <;> decide

theorem Family.wrap_injective (h : Family k f wrap) : Function.Injective wrap := by
  intro s s' heq
  cases h <;> (cases heq; rfl)

theorem Family.narrow_eq (h : Family k f wrap) :
    ∃ title, ∀ v, narrow k v = (Sectioned.read title f v).map wrap := by
  cases h <;> exact ⟨_, fun _ => rfl⟩

/-- The section is read from the value under its name, and the email from the members that
are left without it. -/
theorem payload_section_eq_ok_iff (hfamily : Family k f wrap) {e : Event}
    (htag : e.tag? = some k.tag) (p : Payload) : e.payload = .ok p ↔
      ∃ (m : Object) (w : Value) (s : Sectioned σ), e.data? = some (.object m) ∧
        m.get? f.name = some w ∧ f.read w = .ok s.details ∧
        Tells (m.without f.name) s.email ∧ p = wrap s := by
  obtain ⟨title, hnarrow⟩ := hfamily.narrow_eq
  rw [payload_of_tag hfamily.mem_catalogue htag, hnarrow, Json.map_eq_ok_iff]
  constructor
  · rintro ⟨s, hread, rfl⟩
    obtain ⟨m, hm⟩ := Sectioned.exists_object_of_read hread
    rw [hm] at hread
    obtain ⟨hdetails, hemail⟩ := Sectioned.read_object_eq_ok_iff.mp hread
    obtain ⟨w, hw, hvalue⟩ := Field.required_eq_ok_iff_get.mp hdetails
    exact ⟨m, w, s, data_eq_object_iff.mp hm, hw, hvalue, tells_iff.mpr hemail, rfl⟩
  · rintro ⟨m, w, s, hdata, hw, hvalue, hemail, rfl⟩
    refine ⟨s, ?_, rfl⟩
    rw [data_eq_object_iff.mpr hdata]
    exact Sectioned.read_object_eq_ok_iff.mpr
      ⟨Field.required_eq_ok_iff_get.mpr ⟨w, hw, hvalue⟩, tells_iff.mp hemail⟩

/-- A click is a link and the client that the members without the link say. -/
theorem Click.read_eq_ok_iff {v : Value} {c : Click} : Click.read v = .ok c ↔
    ∃ m : Object, v = .object m ∧ m.get? "url" = some (.text c.url) ∧
      Engagement.record.read (.object (m.without "url")) = .ok c.client := by
  constructor
  · intro h
    cases v with
    | object m =>
      obtain ⟨hurl, hclient⟩ := read_object_eq_ok_iff.mp h
      exact ⟨m, rfl, Field.required_text.mp hurl, hclient⟩
    | _ => cases h
  · rintro ⟨m, rfl, hurl, hclient⟩
    exact read_object_eq_ok_iff.mpr ⟨Field.required_text.mpr hurl, hclient⟩

/-- **Payloads with a section.** An event whose tag is one of the five families has a payload
exactly if its data is an object, its section is there and can be read, and an event that
tells of an email and nothing else has a payload with the members that are left without the
section; and it is made of the two. The section is never among the members of the email that
are kept. Nothing else of the email changes when the section is taken away: its fields are
what stands under their names in the whole object, and the members of all names but theirs
and that of the section are kept. A click is a link beside a client in the same way. -/
theorem payload_section (hfamily : Family k f wrap) {e : Event} (htag : e.tag? = some k.tag) :
    (∀ p, e.payload = .ok p ↔ ∃ (m : Object) (w : Value) (s : Sectioned σ),
      e.data? = some (.object m) ∧ m.get? f.name = some w ∧ f.read w = .ok s.details ∧
      Tells (m.without f.name) s.email ∧ p = wrap s) ∧
    (∀ s, e.payload = .ok (wrap s) → ∀ g ∈ s.email.other, g.1 ≠ f.name) ∧
    (∀ (m : Object) (s : Sectioned σ), e.data? = some (.object m) → m.Distinct →
      (e.payload = .ok (wrap s) ↔ (∃ w, m.get? f.name = some w ∧ f.read w = .ok s.details) ∧
        EmailData.Describes (f.name :: EmailData.names) m s.email)) ∧
    ∀ v c, clickField.read v = .ok c ↔ ∃ m : Object, v = .object m ∧
      m.get? "url" = some (.text c.url) ∧
      Engagement.record.read (.object (m.without "url")) = .ok c.client := by
  have hparts := payload_section_eq_ok_iff hfamily htag
  have hapart : ∀ s, e.payload = .ok (wrap s) → ∀ g ∈ s.email.other, g.1 ≠ f.name := by
    intro s hpayload g hg hname
    obtain ⟨m, w, s', -, -, -, hemail, hwrap⟩ := (hparts _).mp hpayload
    obtain rfl : s = s' := hfamily.wrap_injective hwrap
    rw [hemail.describes.other] at hg
    have hrest := (List.mem_filter.mp (List.mem_filter.mp hg).1).2
    simp [hname] at hrest
  have hwhole : ∀ (m : Object) (s : Sectioned σ), e.data? = some (.object m) → m.Distinct →
      (e.payload = .ok (wrap s) ↔ (∃ w, m.get? f.name = some w ∧ f.read w = .ok s.details) ∧
        EmailData.Describes (f.name :: EmailData.names) m s.email) := by
    intro m s hm hdistinct
    have hrest : (m.without f.name).Distinct := hdistinct.sublist List.filter_sublist
    rw [hparts, ← EmailData.describes_without_iff hfamily.name_not_mem, ← tells_iff_describes hrest]
    constructor
    · rintro ⟨m', w, s', hm', hw, hread, hemail, hwrap⟩
      obtain rfl : s = s' := hfamily.wrap_injective hwrap
      rw [hm] at hm'
      cases hm'
      exact ⟨⟨w, hw, hread⟩, hemail⟩
    · rintro ⟨⟨w, hw, hread⟩, hemail⟩
      exact ⟨m, w, s, hm, hw, hread, hemail, rfl⟩
  exact ⟨hparts, hapart, hwhole, fun _ _ => Click.read_eq_ok_iff⟩

end

/-- The click on a link in an email, with an address that is null and a member of another name
in the section, and another one beside it. -/
def linkMembers : Object :=
  [("click", .object [("ip", .null), ("page", .boolean true), ("url", .text "https://a.example")]),
    ("from", .text "a@example.com"), ("id", .text "e1"), ("note", .array [.null]),
    ("occurredAt", .text "2026-02-08"), ("status", .text "CLICKED"),
    ("to", .array [.text "b@example.com"])]

/-- What the members tell. -/
def linkClick : Sectioned Click :=
  ⟨⟨"e1", "CLICKED", "a@example.com", ["b@example.com"], "2026-02-08", none, none, none, none,
    none, none, [("note", .array [.null])]⟩, ⟨"https://a.example", ⟨none, none, none, none⟩⟩⟩

theorem payload_section_link :
    Event.payload ⟨[("data", .object linkMembers), ("type", .text "email.clicked")]⟩ =
      .ok (.emailClicked linkClick) := by
  have hsection : clickField.read (.object [("ip", .null), ("page", .boolean true),
      ("url", .text "https://a.example")]) = .ok linkClick.details := rfl
  have hemail : Tells (linkMembers.without clickField.name) linkClick.email := tells_iff.mpr rfl
  exact ((payload_section .clicked rfl).1 _).mpr
    ⟨linkMembers, _, linkClick, rfl, rfl, hsection, hemail, rfl⟩

end Event
end SignedHooks
