/-
# Email data that is written and read again

The data of an email event has members of any names beside the fields, and they are
written as they are. So what is written are the members of the object that was read
without the fields that are null (`Event.EmailData.mem_toMembers_iff`), and the members
that are written say the data again (`Event.EmailData.ofObject_of_mem_iff`).

A section is written with its own fields only (`Event.Field.KeepsSection`), and it stands
beside the email, whose members are read without it; so the two do not get in each other's
way (`Event.Sectioned.read_written`). What becomes of each member of the data is
`Event.Kept`: it is written as it is, or it is an optional field that is null, or it is the
section (`Event.EmailData.kept`, `Event.Sectioned.kept`).

Key definitions: `Event.EmailData.names`, `Event.EmailData.optionalNames`,
`Event.Field.KeepsSection`, `Event.Kept`.
Key theorems: `Event.EmailData.mem_toMembers_iff`, `Event.EmailData.ofObject_of_mem_iff`,
`Event.Click.keepsSection`, `Event.Sectioned.read_written`, `Event.Sectioned.kept`.
-/
import SignedHooks.Proofs.RecordWriting

namespace SignedHooks
namespace Event

open Json (Value Object)

/-! ### The email -/

namespace EmailData

/-- The names of the fields that may be absent. -/
def optionalNames : List String :=
  ["subject", "campaignId", "contactId", "domainId", "templateId", "metadata"]

/-- The names of the fields. -/
def names : List String :=
  ["id", "status", "from", "to", "occurredAt"] ++ optionalNames

theorem isOther_iff {name : String} : isOther name = true ↔ name ∉ names := by
  have hnames : names = checks.map (·.name) := rfl
  rw [hnames]
  simp only [isOther, Bool.not_eq_true', List.any_eq_false, beq_iff_eq, List.mem_map, not_exists,
    not_and]

/-- The members of other names. -/
def others (m : Object) : Object :=
  m.filter fun e => isOther e.1

theorem mem_others_iff {m : Object} {e : String × Value} :
    e ∈ others m ↔ e ∈ m ∧ e.1 ∉ names := by
  unfold others
  rw [List.mem_filter, isOther_iff]

theorem nodup_names : names.Nodup := by
  decide

theorem keeps (title : String) : (record title).Keeps others toMembers where
  nodup := nodup_names
  build :=
    .required idField faithful_readText strict_readText fun _ =>
    .required statusField faithful_readText strict_readText fun _ =>
    .required senderField faithful_readText strict_readText fun _ =>
    .required recipientsField faithful_readTexts strict_readTexts fun _ =>
    .required occurredAtField faithful_readText strict_readText fun _ =>
    .optional subjectField faithful_readText fun _ =>
    .optional campaignIdField faithful_readText fun _ =>
    .optional contactIdField faithful_readText fun _ =>
    .optional domainIdField faithful_readInteger fun _ =>
    .optional templateIdField faithful_readText fun _ =>
    .optional metadataField faithful_readAny fun _ =>
    .done (fun _ => by rw [Option.map_id]; rfl) fun _ _ hothers => by
      unfold others at hothers
      rw [hothers]

variable {m m' : Object} {d : EmailData} {title : String}

/-- What is written are the members that were read, but for the fields that are null. -/
theorem mem_toMembers_iff (hm : m.Distinct) (h : (record title).ofObject m = .ok d)
    {e : String × Value} : e ∈ d.toMembers ↔ e ∈ m ∧ (e.2 = .null → e.1 ∉ names) := by
  obtain ⟨name, v⟩ := e
  have hnames : (record title).names = names := rfl
  rw [(keeps title).written_of_ofObject h, hnames, List.mem_append, Object.mem_picked_iff,
    Object.given?_eq_some_iff, Object.get?_eq_some_iff hm, mem_others_iff]
  by_cases hname : name ∈ names <;> simp [hname]

theorem distinct_toMembers (hm : m.Distinct) (h : (record title).ofObject m = .ok d) :
    d.toMembers.Distinct := by
  rw [(keeps title).written_of_ofObject h]
  refine Object.distinct_append (Object.distinct_picked m (keeps title).nodup)
    (hm.sublist List.filter_sublist) ?_
  rintro ⟨name, v⟩ he f hf heq
  have hname : name ∈ names := (Object.mem_picked_iff.mp he).1
  exact (mem_others_iff.mp hf).2 (heq ▸ hname)

/-- The members that are written say the data again. -/
theorem ofObject_of_mem_iff (hm : m.Sorted) (hm' : m'.Sorted)
    (h : (record title).ofObject m = .ok d) (hmem : ∀ e, e ∈ m' ↔ e ∈ d.toMembers) :
    (record title).ofObject m' = .ok d := by
  have hdistinct := Object.Sorted.distinct hm
  have hkept : ∀ e, e ∈ m' ↔ e ∈ m ∧ (e.2 = .null → e.1 ∉ names) := fun e =>
    (hmem e).trans (mem_toMembers_iff hdistinct h)
  apply (keeps title).ofObject_of_subset h
  · intro e he
    exact ((hkept e).mp he).1
  · intro name hname
    have hfield : name ∈ names := hname
    refine Option.ext fun v => ?_
    rw [Object.given?_eq_some_iff, Object.given?_eq_some_iff, Object.get?_eq_some_iff hdistinct,
      Object.get?_eq_some_iff (Object.Sorted.distinct hm'), hkept]
    simp only [hfield, not_true_eq_false, imp_false]
    tauto
  · refine Object.Sorted.eq_of_mem_iff (hm'.filter _) (hm.filter _) fun e => ?_
    rw [mem_others_iff, mem_others_iff, hkept]
    tauto

/-- The fields that must be there are not null. -/
theorem mem_optionalNames_of_null (hm : m.Distinct) (h : (record title).ofObject m = .ok d)
    {name : String} (hmem : (name, Value.null) ∈ m) (hname : name ∈ names) :
    name ∈ optionalNames := by
  have hnone : m.given? name = none := by
    unfold Object.given?
    rw [(Object.get?_eq_some_iff hm).mpr hmem]
  rcases List.mem_append.mp hname with hmandatory | hoptional
  · obtain ⟨v, hv⟩ := (keeps title).build.given (Record.ofObject_eq_ok_iff.mp h).2 name hmandatory
    rw [hnone] at hv
    cases hv
  · exact hoptional

end EmailData

/-! ### Sections -/

/-- The section is written with its own fields only, and what is written says it again. -/
structure Field.KeepsSection {σ : Type} (f : Field σ) (names : List String)
    (write : σ → Object) : Prop where
  /-- No two fields of the section have one name. -/
  nodup : names.Nodup
  /-- The members under the names of the fields are written. -/
  written : ∀ {v s}, f.read v = .ok s → write s = (entries names v).picked names
  /-- The members that are written say the section again. -/
  reread : ∀ {v s}, f.read v = .ok s → f.read (.object (Object.ofMembers (write s))) = .ok s

theorem Record.Keeps.keepsSection {σ : Type} {r : Record σ} {write : σ → Object}
    (hkeeps : r.Keeps nothing write) (name : String) :
    (Field.mk name r.read).KeepsSection r.names write where
  nodup := hkeeps.nodup
  written h := hkeeps.written_alone (Record.ofObject_entries h)
  reread h := hkeeps.ofObject_written (Record.ofObject_entries h)

theorem bounceField_keepsSection :
    bounceField.KeepsSection Bounce.record.names Bounce.toMembers :=
  Bounce.keeps.keepsSection _

theorem failedField_keepsSection :
    failedField.KeepsSection Failure.record.names Failure.toMembers :=
  Failure.keeps.keepsSection _

theorem suppressionField_keepsSection :
    suppressionField.KeepsSection Suppression.record.names Suppression.toMembers :=
  Suppression.keeps.keepsSection _

theorem openField_keepsSection :
    openField.KeepsSection Engagement.record.names Engagement.toMembers :=
  Engagement.keeps.keepsSection _

namespace Click

/-- The names of the fields, the link first. -/
def names : List String :=
  urlField.name :: Engagement.record.names

theorem read_object_eq_ok_iff {m : Object} {c : Click} : read (.object m) = .ok c ↔
    urlField.required m = .ok c.url ∧
      Engagement.record.ofObject (m.without urlField.name) = .ok c.client := by
  simp only [read, Json.bind_eq_ok_iff]
  constructor
  · rintro ⟨_, hurl, _, hclient, ⟨⟩⟩
    exact ⟨hurl, hclient⟩
  · rintro ⟨hurl, hclient⟩
    exact ⟨_, hurl, _, hclient, rfl⟩

/-- Beside the link the client is read as if the link were not there. -/
theorem given?_without_url {m : Object} {name : String} (h : name ∈ Engagement.record.names) :
    (m.without urlField.name).given? name = m.given? name := by
  have hne : name ≠ urlField.name := fun heq => absurd (heq ▸ h) (by decide)
  exact Object.given?_of_get? (Object.get?_without m hne)

theorem toMembers_eq {m : Object} {c : Click} (h : read (.object m) = .ok c) :
    c.toMembers = m.picked names := by
  obtain ⟨hurl, hclient⟩ := read_object_eq_ok_iff.mp h
  have hlink : member "url" (.text c.url) = m.picked [urlField.name] :=
    Field.member_eq_picked faithful_readText strict_readText hurl
  unfold toMembers
  rw [hlink, Engagement.keeps.written_alone hclient,
    Object.picked_congr fun _ hname => given?_without_url hname, Object.picked_append]
  rfl

theorem keepsSection : clickField.KeepsSection names toMembers where
  nodup := by decide
  written {v c} h := by
    cases v with
    | object m => exact toMembers_eq h
    | _ => cases h
  reread {v c} h := by
    cases v with
    | object m =>
      obtain ⟨hurl, hclient⟩ := read_object_eq_ok_iff.mp h
      have hnodup : names.Nodup := by decide
      rw [toMembers_eq h]
      refine read_object_eq_ok_iff.mpr ⟨?_, ?_⟩
      · exact Field.required_congr strict_readText
          (Object.given?_ofMembers_picked hnodup List.mem_cons_self) hurl
      · refine Engagement.keeps.ofObject_of_subset hclient (fun e he => ?_)
          (fun name hname => ?_) rfl
        · obtain ⟨hmem, hne⟩ := List.mem_filter.mp he
          exact List.mem_filter.mpr ⟨Object.mem_of_mem_ofMembers_picked hnodup hmem, hne⟩
        · rw [given?_without_url hname, given?_without_url hname,
            Object.given?_ofMembers_picked hnodup (List.mem_cons_of_mem _ hname)]
    | _ => cases h

end Click

/-! ### An email with a section -/

namespace Sectioned

variable {σ : Type} {f : Field σ} {names : List String} {write : σ → Object} {title : String}
  {m : Object} {d : Sectioned σ}

theorem read_object_eq_ok_iff : read title f (.object m) = .ok d ↔
    f.required m = .ok d.details ∧
      (EmailData.record title).ofObject (m.without f.name) = .ok d.email := by
  simp only [read, Json.bind_eq_ok_iff]
  constructor
  · rintro ⟨_, hdetails, _, hemail, ⟨⟩⟩
    exact ⟨hdetails, hemail⟩
  · rintro ⟨hdetails, hemail⟩
    exact ⟨_, hdetails, _, hemail, rfl⟩

theorem exists_object_of_read {v : Value} (h : read title f v = .ok d) :
    ∃ m, v = .object m := by
  cases v with
  | object m => exact ⟨m, rfl⟩
  | _ => cases h

/-- The members of the email were there, and none has the name of the section. -/
theorem mem_of_mem_email (hm : m.Sorted) (h : read title f (.object m) = .ok d)
    {e : String × Value} (he : e ∈ d.email.toMembers) : e ∈ m ∧ e.1 ≠ f.name := by
  obtain ⟨_, hemail⟩ := read_object_eq_ok_iff.mp h
  have hrest : Object.Distinct (m.without f.name) := Object.Sorted.distinct (hm.filter _)
  have hmem := ((EmailData.mem_toMembers_iff hrest hemail).mp he).1
  simpa [Object.without] using hmem

/-- What the members that are written for the section hold the object held. -/
theorem forall_details {N : Json.Number → Prop} {O : Object → Prop}
    (hkeeps : f.KeepsSection names write) (hm : (Value.object m).All N O)
    (h : read title f (.object m) = .ok d) : ∀ e ∈ write d.details, e.2.All N O := by
  obtain ⟨hdetails, _⟩ := read_object_eq_ok_iff.mp h
  obtain ⟨w, hw, hread⟩ := Field.required_eq_ok_iff_get.mp hdetails
  rw [hkeeps.written hread]
  intro e he
  have hsection := (Value.all_object_iff.mp hm).2 _ (Object.mem_of_get? hw)
  exact forall_entries hsection names e (Object.mem_of_mem_picked he)

theorem distinct_details (hkeeps : f.KeepsSection names write)
    (h : read title f (.object m) = .ok d) : (write d.details).Distinct := by
  obtain ⟨hdetails, _⟩ := read_object_eq_ok_iff.mp h
  obtain ⟨w, _, hread⟩ := Field.required_eq_ok_iff_get.mp hdetails
  rw [hkeeps.written hread]
  exact Object.distinct_picked _ hkeeps.nodup

theorem distinct_written (hm : m.Sorted) (h : read title f (.object m) = .ok d) (v : Value) :
    Object.Distinct (d.email.toMembers ++ member f.name v) := by
  obtain ⟨_, hemail⟩ := read_object_eq_ok_iff.mp h
  have hrest : Object.Distinct (m.without f.name) := Object.Sorted.distinct (hm.filter _)
  refine Object.distinct_append (EmailData.distinct_toMembers hrest hemail)
    (List.nodup_singleton _) fun e he g hg => ?_
  rw [List.mem_singleton.mp hg]
  exact (mem_of_mem_email hm h he).2

/-- The members that are written for an email with a section say it again, in the order of
their keys and the section as well. -/
theorem read_written (hkeeps : f.KeepsSection names write) (hm : m.Sorted)
    (h : read title f (.object m) = .ok d) :
    read title f (.object (Object.ofMembers (d.email.toMembers ++
      member f.name (.object (Object.ofMembers (write d.details)))))) = .ok d := by
  generalize hsection : Value.object (Object.ofMembers (write d.details)) = v
  have hdistinct := distinct_written hm h v
  obtain ⟨hdetails, hemail⟩ := read_object_eq_ok_iff.mp h
  refine read_object_eq_ok_iff.mpr ⟨?_, ?_⟩
  · have hget : Object.get? (Object.ofMembers (d.email.toMembers ++ member f.name v)) f.name =
        some v := by
      rw [Object.get?_ofMembers hdistinct, Object.get?_eq_some_iff hdistinct]
      exact List.mem_append_right _ List.mem_cons_self
    obtain ⟨w, _, hread⟩ := Field.required_eq_ok_iff_get.mp hdetails
    exact Field.required_eq_ok_iff_get.mpr ⟨v, hget, hsection ▸ hkeeps.reread hread⟩
  · apply EmailData.ofObject_of_mem_iff (hm.filter _) ((Object.sorted_ofMembers _).filter _) hemail
    intro e
    rw [List.mem_filter, Object.mem_ofMembers hdistinct, List.mem_append]
    constructor
    · rintro ⟨he | he, hname⟩
      · exact he
      · rw [List.mem_singleton.mp he] at hname
        simp at hname
    · intro he
      exact ⟨.inl he, by simpa using (mem_of_mem_email hm h he).2⟩

end Sectioned

/-! ### What becomes of each member -/

/-- What becomes of a member of the data of an email event when the data is written: it is
written as it is, it is an optional field that is null, or it is the section, of which the
fields that are not null are written. -/
inductive Kept (section? : Option (String × List String)) (written : Object) :
    String × Value → Prop where
  /-- The member is written as it is. -/
  | same {e : String × Value} : e ∈ written → Kept section? written e
  /-- The field may be absent, and it is null. -/
  | null {name : String} : name ∈ EmailData.optionalNames → Kept section? written (name, .null)
  /-- The member is the section. -/
  | trimmed {name : String} {names : List String} {v : Value} : section? = some (name, names) →
      (name, .object ((entries names v).picked names)) ∈ written →
      Kept section? written (name, v)

/-- Every member of the data is written but for optional fields that are null. -/
theorem EmailData.kept {title : String} {m written : Object} {d : EmailData} (hm : m.Distinct)
    (h : (record title).ofObject m = .ok d) (hsub : ∀ e ∈ d.toMembers, e ∈ written)
    (section? : Option (String × List String)) {e : String × Value} (he : e ∈ m) :
    Kept section? written e := by
  obtain ⟨name, v⟩ := e
  by_cases hwritten : v = .null → name ∉ names
  · exact .same (hsub _ ((mem_toMembers_iff hm h).mpr ⟨he, hwritten⟩))
  · obtain ⟨rfl, hname⟩ := Classical.not_imp.mp hwritten
    exact .null (mem_optionalNames_of_null hm h he (Classical.not_not.mp hname))

/-- Of an email with a section every member is written but for optional fields that are
null, and the section with its own fields. -/
theorem Sectioned.kept {σ : Type} {f : Field σ} {names : List String} {write : σ → Object}
    {title : String} {m : Object} {d : Sectioned σ} (hkeeps : f.KeepsSection names write)
    (hm : m.Sorted) (h : read title f (.object m) = .ok d) {e : String × Value} (he : e ∈ m) :
    Kept (some (f.name, names)) (d.toMembers f.name write) e := by
  obtain ⟨hdetails, hemail⟩ := read_object_eq_ok_iff.mp h
  by_cases hname : e.1 = f.name
  · obtain ⟨name, v⟩ := e
    obtain rfl : name = f.name := hname
    have hget : m.get? f.name = some v :=
      (Object.get?_eq_some_iff (Object.Sorted.distinct hm)).mpr he
    obtain ⟨w, hw, hread⟩ := Field.required_eq_ok_iff_get.mp hdetails
    obtain rfl : v = w := Option.some.inj (hget.symm.trans hw)
    refine .trimmed rfl (List.mem_append_right _ ?_)
    rw [hkeeps.written hread]
    exact List.mem_cons_self
  · have hrest : e ∈ m.without f.name := List.mem_filter.mpr ⟨he, by simpa using hname⟩
    exact EmailData.kept (Object.Sorted.distinct (hm.filter _)) hemail
      (fun _ => List.mem_append_left _) _ hrest

end Event
end SignedHooks
