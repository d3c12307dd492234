/-
# Payloads that are written and narrowed again

What an event of some kind tells is written as an object, and an event of the same kind
with this object for its data tells the same (`Event.Restates`). This is so of each of the
readers that a kind may have, of the records, of an email, of an email with a section and
of data outside the catalogue, and so of every kind (`Event.restates_narrow`).

In the object that is written no key stands twice, on any level, and of an email event it
holds every member of the data as it was, but for optional fields that were null and the
section (`Event.payload_stable`). Of a section that is an object the fields that are known
and not null are kept; one that is a list comes back as the object that names its
elements, so that it does not have the value that it had
(`Event.payload_listedBounce`).

Key definitions: `Event.Kind.section?`, `Event.Kind.isEmail`, `Event.Restates`.
Key theorems: `Event.restates_record`, `Event.restates_section`, `Event.restates_narrow`,
`Event.narrow_kept`, `Event.payload_stable`.
-/
import SignedHooks.Proofs.EmailWriting

namespace SignedHooks
namespace Event

open Json (Value Object)

/-! ### Kinds -/

/-- The section of an email event of some kind: its name, and the names of its fields. -/
def Kind.section? : Kind → Option (String × List String)
  | .emailBounced => some (bounceField.name, Bounce.record.names)
  | .emailFailed => some (failedField.name, Failure.record.names)
  | .emailSuppressed => some (suppressionField.name, Suppression.record.names)
  | .emailOpened => some (openField.name, Engagement.record.names)
  | .emailClicked => some (clickField.name, Click.names)
  | _ => none

/-- A kind of email event. -/
def Kind.isEmail (k : Kind) : Bool :=
  k.isBasicEmail || k.section?.isSome

/-! ### Reading again what is written -/

/-- What is written for the payload of some data says the payload again, and no key stands
twice in it. -/
def Restates (read : Value → Except Mismatch Payload) : Prop :=
  ∀ {v p}, v.Sorted → read v = .ok p → read p.toValue.sorted = .ok p ∧ p.toValue.Distinct

theorem restates_record {α : Type} {r : Record α} {write : α → Object} {wrap : α → Payload}
    (hkeeps : r.Keeps nothing write) (hwrap : ∀ a, (wrap a).toValue = .object (write a)) :
    Restates fun v => (r.read v).map wrap := by
  intro v p hv h
  obtain ⟨a, hread, rfl⟩ := Json.map_eq_ok_iff.mp h
  have ha := Record.ofObject_entries hread
  have hpicked : write a = (entries r.names v).picked r.names := hkeeps.written_alone ha
  have hvalues : ∀ e ∈ write a, e.2.Sorted := by
    intro e he
    rw [hpicked] at he
    exact forall_entries hv r.names e (Object.mem_of_mem_picked he)
  have hdistinct : (write a).Distinct := by
    rw [hpicked]
    exact Object.distinct_picked _ hkeeps.nodup
  rw [hwrap, Value.sorted_object_of_forall hvalues]
  refine ⟨Json.map_eq_ok_iff.mpr ⟨a, hkeeps.ofObject_written ha, rfl⟩, ?_⟩
  exact .object hdistinct fun e he => (hvalues e he).distinct

theorem restates_email (title : String) (k : Kind) :
    Restates fun v => ((EmailData.record title).readObject v).map (.email k) := by
  intro v p hv h
  obtain ⟨d, hread, rfl⟩ := Json.map_eq_ok_iff.mp h
  obtain ⟨m, rfl, hd⟩ := Record.readObject_eq_ok_iff.mp hread
  obtain ⟨hm, hmembers⟩ := Value.all_object_iff.mp hv
  have hkeys := Object.Sorted.distinct hm
  have hvalues : ∀ e ∈ d.toMembers, e.2.Sorted := fun e he =>
    hmembers e ((EmailData.mem_toMembers_iff hkeys hd).mp he).1
  have hdistinct : d.toMembers.Distinct := EmailData.distinct_toMembers hkeys hd
  have hwritten : (Payload.email k d).toValue.sorted = .object (Object.ofMembers d.toMembers) :=
    Value.sorted_object_of_forall hvalues
  have hagain : (EmailData.record title).ofObject (Object.ofMembers d.toMembers) = .ok d :=
    EmailData.ofObject_of_mem_iff hm (Object.sorted_ofMembers _) hd
      fun _ => Object.mem_ofMembers hdistinct
  rw [hwritten]
  refine ⟨Json.map_eq_ok_iff.mpr ⟨d, hagain, rfl⟩, ?_⟩
  exact .object hdistinct fun e he => (hvalues e he).distinct

theorem restates_section {σ : Type} {f : Field σ} {names : List String} {write : σ → Object}
    {wrap : Sectioned σ → Payload} (title : String) (hkeeps : f.KeepsSection names write)
    (hwrap : ∀ d, (wrap d).toValue = .object (d.toMembers f.name write)) :
    Restates fun v => (Sectioned.read title f v).map wrap := by
  intro v p hv h
  obtain ⟨d, hd, rfl⟩ := Json.map_eq_ok_iff.mp h
  obtain ⟨m, rfl⟩ := Sectioned.exists_object_of_read hd
  obtain ⟨hm, hmembers⟩ := Value.all_object_iff.mp hv
  have hemail : ∀ e ∈ d.email.toMembers, e.2.Sorted := fun e he =>
    hmembers e (Sectioned.mem_of_mem_email hm hd he).1
  have hdetails : ∀ e ∈ write d.details, e.2.Sorted := Sectioned.forall_details hkeeps hv hd
  have hwritten : (wrap d).toValue.sorted = .object (Object.ofMembers (d.email.toMembers ++
      member f.name (.object (Object.ofMembers (write d.details))))) := by
    rw [hwrap, Value.sorted_object, Sectioned.toMembers, List.map_append,
      Json.map_sorted_eq_self fun e he => (hemail e he).sorted_eq,
      ← Value.sorted_object_of_forall hdetails]
    rfl
  have hdistinct : (wrap d).toValue.Distinct := by
    rw [hwrap]
    refine .object (Sectioned.distinct_written hm hd _) fun e he => ?_
    rcases List.mem_append.mp he with he | he
    · exact (hemail e he).distinct
    · rw [List.mem_singleton.mp he]
      exact .object (Sectioned.distinct_details hkeeps hd) fun e he => (hdetails e he).distinct
  rw [hwritten]
  exact ⟨Json.map_eq_ok_iff.mpr ⟨d, Sectioned.read_written hkeeps hm hd, rfl⟩, hdistinct⟩

theorem restates_unknown (tag : String) : Restates fun v => .ok (.unknown tag v) := by
  intro v p hv h
  cases h
  have hsorted : v.sorted = v := hv.sorted_eq
  exact ⟨congrArg (fun w => Except.ok (Payload.unknown tag w)) hsorted, hv.distinct⟩

/-- What is told of an event of any kind is written so that it is told again. -/
theorem restates_narrow : ∀ k : Kind, Restates (narrow k)
  | .emailBounced => restates_section _ bounceField_keepsSection fun _ => rfl
  | .emailFailed => restates_section _ failedField_keepsSection fun _ => rfl
  | .emailSuppressed => restates_section _ suppressionField_keepsSection fun _ => rfl
  | .emailOpened => restates_section _ openField_keepsSection fun _ => rfl
  | .emailClicked => restates_section _ Click.keepsSection fun _ => rfl
  | .contactCreated | .contactUpdated | .contactDeleted =>
    restates_record ContactData.keeps fun _ => rfl
  | .domainCreated | .domainVerified | .domainUpdated | .domainDeleted =>
    restates_record DomainData.keeps fun _ => rfl
  | .test => restates_record TestData.keeps fun _ => rfl
  | .other tag => restates_unknown tag
  | .emailQueued | .emailSent | .emailDeliveryDelayed | .emailDelivered | .emailRejected
  | .emailRenderingFailure | .emailComplained | .emailCancelled => restates_email _ _

/-! ### What is kept of the data of an email event -/

theorem kept_email {title : String} {k : Kind} {v : Value} {p : Payload} (hv : v.Sorted)
    (h : ((EmailData.record title).readObject v).map (Payload.email k) = .ok p)
    (section? : Option (String × List String)) :
    ∃ m written, v = .object m ∧ p.toValue = .object written ∧
      ∀ e ∈ m, Kept section? written e := by
  obtain ⟨d, hread, rfl⟩ := Json.map_eq_ok_iff.mp h
  obtain ⟨m, rfl, hd⟩ := Record.readObject_eq_ok_iff.mp hread
  obtain ⟨hm, _⟩ := Value.all_object_iff.mp hv.distinct
  refine ⟨m, d.toMembers, rfl, rfl, fun e he => ?_⟩
  exact EmailData.kept hm hd (fun _ => id) section? he

theorem kept_section {σ : Type} {f : Field σ} {names : List String} {write : σ → Object}
    {wrap : Sectioned σ → Payload} {title : String} {v : Value} {p : Payload}
    (hkeeps : f.KeepsSection names write)
    (hwrap : ∀ d, (wrap d).toValue = .object (d.toMembers f.name write)) (hv : v.Sorted)
    (h : (Sectioned.read title f v).map wrap = .ok p) :
    ∃ m written, v = .object m ∧ p.toValue = .object written ∧
      ∀ e ∈ m, Kept (some (f.name, names)) written e := by
  obtain ⟨d, hd, rfl⟩ := Json.map_eq_ok_iff.mp h
  obtain ⟨m, rfl⟩ := Sectioned.exists_object_of_read hd
  obtain ⟨hm, _⟩ := Value.all_object_iff.mp hv
  exact ⟨m, _, rfl, hwrap d, fun e he => Sectioned.kept hkeeps hm hd he⟩

/-- What is written for an email event keeps every member of the data but for optional
fields that were null, and the known fields of its section. -/
theorem narrow_kept {v : Value} {p : Payload} (hv : v.Sorted) : ∀ {k : Kind}, k.isEmail = true →
    narrow k v = .ok p → ∃ m written, v = .object m ∧ p.toValue = .object written ∧
      ∀ e ∈ m, Kept k.section? written e
  | .emailBounced, _, h => kept_section bounceField_keepsSection (fun _ => rfl) hv h
  | .emailFailed, _, h => kept_section failedField_keepsSection (fun _ => rfl) hv h
  | .emailSuppressed, _, h => kept_section suppressionField_keepsSection (fun _ => rfl) hv h
  | .emailOpened, _, h => kept_section openField_keepsSection (fun _ => rfl) hv h
  | .emailClicked, _, h => kept_section Click.keepsSection (fun _ => rfl) hv h
  | .emailQueued, _, h | .emailSent, _, h | .emailDeliveryDelayed, _, h | .emailDelivered, _, h
  | .emailRejected, _, h | .emailRenderingFailure, _, h | .emailComplained, _, h
  | .emailCancelled, _, h => kept_email hv h _

/-! ### Payloads -/

theorem payload_eq_ok_iff {e : Event} {p : Payload} : e.payload = .ok p ↔
    ∃ k, e.kind? = some k ∧ narrow k (e.data?.getD .null) = .ok p := by
  unfold payload
  cases e.kind? with
  | none => simp
  | some k => simp

/-- The data of an event whose keys are in order has its keys in order. -/
theorem sorted_data {e : Event} (he : (Value.object e.members).Sorted) :
    (e.data?.getD .null).Sorted := by
  unfold data?
  cases hdata : e.members.get? "data" with
  | none => exact .null
  | some v => exact (Value.all_object_iff.mp he).2 _ (Object.mem_of_get? hdata)

/-- **Payloads are stable.** If the payload of an event is written as a value, an event with
the same tag and this value for its data has the same payload. No key stands twice in what
is written. Of an email event it keeps every member of the data as it was, but for optional
fields that were null and the section, of which the known fields are kept that are not
null. -/
theorem payload_stable {e : Event} {p : Payload} (he : (Value.object e.members).Sorted)
    (h : e.payload = .ok p) :
    (∀ e' : Event, e'.tag? = e.tag? → e'.data? = some p.toValue.sorted → e'.payload = .ok p) ∧
    p.toValue.Distinct ∧
    ∀ k, e.kind? = some k → k.isEmail = true → ∃ m written, e.data? = some (.object m) ∧
      p.toValue = .object written ∧ ∀ f ∈ m, Kept k.section? written f := by
  obtain ⟨k, hk, hnarrow⟩ := payload_eq_ok_iff.mp h
  have hdata := sorted_data he
  obtain ⟨hagain, hdistinct⟩ := restates_narrow k hdata hnarrow
  refine ⟨fun e' htag hwritten => ?_, hdistinct, ?_⟩
  · have hkind : e'.kind? = some k := by
      rw [← hk, kind?, kind?, htag]
    refine payload_eq_ok_iff.mpr ⟨k, hkind, ?_⟩
    rw [hwritten]
    exact hagain
  · intro k' hk' hemail
    obtain rfl : k = k' := Option.some.inj (hk.symm.trans hk')
    obtain ⟨m, written, hm, hpayload, hkept⟩ := narrow_kept hdata hemail hnarrow
    refine ⟨m, written, ?_, hpayload, hkept⟩
    cases hfound : e.data? with
    | none =>
      rw [hfound] at hm
      cases hm
    | some v =>
      rw [hfound] at hm
      exact congrArg some hm

/-- A click, with a field that is null, a member of another name and, in the section, one of
each. -/
def clickedEvent : Event :=
  ⟨[("data", .object [("click", .object [("ip", .null), ("page", .number (.integer 1)),
      ("url", .text "https://a.example")]), ("from", .text "a@example.com"), ("id", .text "e1"),
      ("metadata", .null), ("note", .array [.null]), ("occurredAt", .text "2026-02-08"),
      ("status", .text "CLICKED"), ("to", .array [.text "b@example.com"])]),
    ("type", .text "email.clicked")]⟩

/-- What the click tells. -/
def clickedPayload : Payload :=
  .emailClicked ⟨⟨"e1", "CLICKED", "a@example.com", ["b@example.com"], "2026-02-08", none, none,
    none, none, none, none, [("note", .array [.null])]⟩,
    ⟨"https://a.example", ⟨none, none, none, none⟩⟩⟩

theorem payload_stable_clickedEvent : clickedEvent.payload = .ok clickedPayload ∧
    Event.payload ⟨[("data", clickedPayload.toValue.sorted), ("type", .text "email.clicked")]⟩ =
      .ok clickedPayload := by
  have hsorted : (Value.object clickedEvent.members).Sorted := by
    simp only [clickedEvent, Value.all_object_iff, Value.all_array_iff, Value.all_number_iff,
      Value.all_text, Value.all_null, List.forall_mem_cons, List.not_mem_nil, false_imp_iff,
      implies_true]
    decide
  have hpayload : clickedEvent.payload = .ok clickedPayload := rfl
  exact ⟨hpayload, (payload_stable hsorted hpayload).1 _ rfl rfl⟩

/-- A bounce whose section is a list. -/
def listedBounce : Event :=
  ⟨[("data", .object [("bounce", .array [.text "Permanent"]), ("from", .text "a@example.com"),
      ("id", .text "e1"), ("occurredAt", .text "2026-02-08"), ("status", .text "BOUNCED"),
      ("to", .array [.text "b@example.com"])]),
    ("type", .text "email.bounced")]⟩

/-- The section of the bounce is written as an object, so not with the value that it had. -/
theorem payload_listedBounce : ∃ p m written, listedBounce.payload = .ok p ∧
    listedBounce.data? = some (.object m) ∧ p.toValue = .object written ∧
    Object.get? m "bounce" = some (.array [.text "Permanent"]) ∧
    Object.get? written "bounce" = some (.object [("type", .text "Permanent")]) :=
  ⟨_, _, _, rfl, rfl, rfl, rfl, rfl⟩

end Event
end SignedHooks
