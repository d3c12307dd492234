/-
# Records from objects and from lists

Seven of the records that come with events stand by themselves: no other record is laid into
them, so they can be read from an object and from a list (`Event.Listable`). Each declares
fields of four types, first those that must be there and then the optional ones
(`Event.Schema`), and its reader takes the fields in this order (`Event.Takes`). Along the
fields this shows which objects are read: those in which every field that must be there stands
with its type, and every optional one is absent, null or of its type
(`Event.Takes.exists_iff`); and that nothing else of the object counts (`Event.Takes.congr`).

Of a list the elements are the fields in their order. It is read like the object that gives
them their names, if it is long enough for the fields that must be there and not longer than
all of them (`Event.Record.ofList_eq_ok_iff`). For each of the seven records this is put
together in `Event.read_forms`.

Key definitions: `Event.FieldType`, `Event.Schema`, `Event.Schema.Met`, `Event.Takes`,
`Event.Listable`, `Event.Whole`.
Key theorems: `Event.Takes.exists_iff`, `Event.Takes.congr`, `Event.checkMembers_filter`,
`Event.Record.ofList_eq_ok_iff`, `Event.read_forms`.
-/
import SignedHooks.Proofs.PayloadKinds

namespace SignedHooks

open Json (Value Object)

/-- Under given names nothing changes if the members of all other names are left out. -/
theorem Json.Object.get?_filter {m : Object} {names : List String} {key : String}
    (h : key ∈ names) : Object.get? (m.filter fun e => e.1 ∈ names) key = m.get? key := by
  have hkept : (fun e : String × Value => decide (decide (e.1 ∈ names) = true ∧
      (e.1 == key) = true)) = fun e => e.1 == key := by
    funext e
    by_cases hkey : e.1 = key <;> simp [hkey, h]
  unfold Object.get?
  rw [List.find?_filter, hkept]

namespace Event

/-! ### Fields and their types -/

/-- The types of the fields of these records. -/
inductive FieldType where
  | text
  | flag
  | integer
  | members
  deriving DecidableEq, Repr

/-- The value has the type; an integer has 64 bits. -/
def FieldType.Holds : FieldType → Value → Prop
  | .text, v => ∃ s, v = .text s
  | .flag, v => ∃ b, v = .boolean b
  | .integer, v => ∃ n, Signed64.Fits n ∧ v = .number (.integer n)
  | .members, v => ∃ m, v = .object m

/-- What is read are the values of the type. -/
def ReadsType {α : Type} (read : Value → Except Mismatch α) (t : FieldType) : Prop :=
  ∀ v, (∃ a, read v = .ok a) ↔ t.Holds v

theorem ReadsAs.readsType {α : Type} {read : Value → Except Mismatch α} {fits : α → Prop}
    {write : α → Value} (h : ReadsAs read fits write) {t : FieldType}
    (ht : ∀ v, t.Holds v ↔ ∃ a, fits a ∧ v = write a) : ReadsType read t := by
  intro v
  rw [ht]
  exact exists_congr fun a => h v a

theorem readsType_readText : ReadsType readText .text :=
  readsAs_readText.readsType fun _ => by simp [FieldType.Holds, Unbounded]

theorem readsType_readFlag : ReadsType readFlag .flag :=
  readsAs_readFlag.readsType fun _ => by simp [FieldType.Holds, Unbounded]

theorem readsType_readInteger : ReadsType readInteger .integer :=
  readsAs_readInteger.readsType fun _ => Iff.rfl

theorem readsType_readMembers : ReadsType readMembers .members :=
  readsAs_readMembers.readsType fun _ => by simp [FieldType.Holds, Unbounded]

namespace Field

variable {α : Type} {f : Field α} {t : FieldType} {m m' : Object}

theorem exists_required_iff (ht : ReadsType f.read t) :
    (∃ a, f.required m = .ok a) ↔ ∃ v, m.get? f.name = some v ∧ t.Holds v := by
  constructor
  · rintro ⟨a, ha⟩
    obtain ⟨v, hv, hread⟩ := required_eq_ok_iff_get.mp ha
    exact ⟨v, hv, (ht v).mp ⟨a, hread⟩⟩
  · rintro ⟨v, hv, hholds⟩
    obtain ⟨a, hread⟩ := (ht v).mpr hholds
    exact ⟨a, required_eq_ok_iff_get.mpr ⟨v, hv, hread⟩⟩

theorem exists_optional_iff (ht : ReadsType f.read t) : (∃ o, f.optional m = .ok o) ↔
    ∀ v, m.get? f.name = some v → v = .null ∨ t.Holds v := by
  rw [optional_eq]
  cases hgiven : m.given? f.name with
  | none =>
    refine iff_of_true ⟨none, rfl⟩ fun v hv => .inl ?_
    by_contra hne
    rw [Object.given?_eq_some_iff.mpr ⟨hv, hne⟩] at hgiven
    cases hgiven
  | some v =>
    obtain ⟨hv, hne⟩ := Object.given?_eq_some_iff.mp hgiven
    simp only [Json.map_eq_ok_iff, hv, Option.some.injEq, forall_eq', or_iff_right hne, ← ht v]
    constructor
    · rintro ⟨o, a, ha, -⟩
      exact ⟨a, ha⟩
    · rintro ⟨a, ha⟩
      exact ⟨some a, a, ha, rfl⟩

theorem required_eq_of_get? (h : m'.get? f.name = m.get? f.name) :
    f.required m' = f.required m := by
  rw [required, required, h]

end Field

/-! ### Fields one after another -/

/-- The fields that a record declares, with their types: those that must be there, and behind
them the optional ones. -/
structure Schema where
  /-- The fields that must be there. -/
  required : List (String × FieldType)
  /-- The optional fields. -/
  optional : List (String × FieldType)

/-- The names of the fields, in their order. -/
def Schema.names (s : Schema) : List String :=
  (s.required ++ s.optional).map (·.1)

/-- Every field that must be there stands in the object with its type, and every optional one
is absent, null or of its type. -/
structure Schema.Met (s : Schema) (m : Object) : Prop where
  required : ∀ f ∈ s.required, ∃ v, m.get? f.1 = some v ∧ f.2.Holds v
  optional : ∀ f ∈ s.optional, ∀ v, m.get? f.1 = some v → v = .null ∨ f.2.Holds v

/-- The reader takes the fields of the schema one after another, with these checks, and makes
of them what it reads. -/
inductive Takes {α : Type} : List Check → Schema → (Object → Except Mismatch α) → Prop where
  /-- A field that must be there, and others behind it. -/
  | required {β : Type} {t : FieldType} {checks : List Check} {req opt : List (String × FieldType)}
      {next : β → Object → Except Mismatch α} (f : Field β) (ht : ReadsType f.read t)
      (h : ∀ b, Takes checks ⟨req, opt⟩ (next b)) :
      Takes (f.must :: checks) ⟨(f.name, t) :: req, opt⟩
        fun m => f.required m >>= fun b => next b m
  /-- An optional field, and only such behind it. -/
  | optional {β : Type} {t : FieldType} {checks : List Check} {opt : List (String × FieldType)}
      {next : Option β → Object → Except Mismatch α} (f : Field β) (ht : ReadsType f.read t)
      (h : ∀ o, Takes checks ⟨[], opt⟩ (next o)) :
      Takes (f.may :: checks) ⟨[], (f.name, t) :: opt⟩
        fun m => f.optional m >>= fun o => next o m
  /-- No field is left. -/
  | done {a : α} : Takes [] ⟨[], []⟩ fun _ => pure a

/-- Two steps give a result if the first does and then, whatever it gives, the second. -/
theorem exists_bind_iff {α β : Type} {x : Except Mismatch β} {next : β → Except Mismatch α}
    {P : Prop} (h : ∀ b, (∃ a, next b = .ok a) ↔ P) :
    (∃ a, x >>= next = .ok a) ↔ (∃ b, x = .ok b) ∧ P := by
  simp only [Json.bind_eq_ok_iff]
  constructor
  · rintro ⟨a, b, hb, ha⟩
    exact ⟨⟨b, hb⟩, (h b).mp ⟨a, ha⟩⟩
  · rintro ⟨⟨b, hb⟩, hP⟩
    obtain ⟨a, ha⟩ := (h b).mpr hP
    exact ⟨a, b, hb, ha⟩

namespace Takes

variable {α : Type} {checks : List Check} {s : Schema} {read : Object → Except Mismatch α}

theorem guarded (h : Takes checks s read) : Guarded checks read := by
  induction h with
  | required f _ _ ih => exact .required f ih
  | optional f _ _ ih => exact .optional f ih
  | done => exact .done

/-- What is read are the objects in which the fields have their types. -/
theorem exists_iff (h : Takes checks s read) {m : Object} : (∃ a, read m = .ok a) ↔ s.Met m := by
  induction h with
  | required f ht _ ih =>
    rw [exists_bind_iff ih, Field.exists_required_iff ht]
    constructor
    · rintro ⟨hf, hmet⟩
      exact ⟨List.forall_mem_cons.mpr ⟨hf, hmet.required⟩, hmet.optional⟩
    · intro hmet
      obtain ⟨hf, hreq⟩ := List.forall_mem_cons.mp hmet.required
      exact ⟨hf, hreq, hmet.optional⟩
  | optional f ht _ ih =>
    rw [exists_bind_iff ih, Field.exists_optional_iff ht]
    constructor
    · rintro ⟨hf, hmet⟩
      exact ⟨nofun, List.forall_mem_cons.mpr ⟨hf, hmet.optional⟩⟩
    · intro hmet
      obtain ⟨hf, hopt⟩ := List.forall_mem_cons.mp hmet.optional
      exact ⟨hf, nofun, hopt⟩
  | done => exact iff_of_true ⟨_, rfl⟩ ⟨nofun, nofun⟩

/-- Nothing counts but what stands under the names of the fields. -/
theorem congr (h : Takes checks s read) {m m' : Object}
    (hsame : ∀ name ∈ s.names, m'.get? name = m.get? name) : read m' = read m := by
  induction h with
  | required f _ _ ih =>
    obtain ⟨hname, hrest⟩ := List.forall_mem_cons.mp hsame
    change f.required m' >>= _ = f.required m >>= _
    rw [Field.required_eq_of_get? hname]
    exact congrArg _ (funext fun b => ih b hrest)
  | optional f _ _ ih =>
    obtain ⟨hname, hrest⟩ := List.forall_mem_cons.mp hsame
    change f.optional m' >>= _ = f.optional m >>= _
    rw [Field.optional_congr (Object.given?_of_get? hname)]
    exact congrArg _ (funext fun o => ih o hrest)
  | done => rfl

end Takes

/-! ### Checks and lists -/

/-- Members of names that no check has are not looked at. -/
theorem checkMembers_filter {checks : List Check} : ∀ m : Object,
    checkMembers checks (m.filter fun e => e.1 ∈ checks.map (·.name)) = checkMembers checks m
  | [] => rfl
  | e :: rest => by
    by_cases he : e.1 ∈ checks.map (·.name)
    · rw [List.filter_cons_of_pos (by simpa using he), checkMembers, checkMembers,
        checkMembers_filter rest]
    · have hnone : checks.find? (fun c => c.name == e.1) = none := by
        refine List.find?_eq_none.mpr fun c hc hname => he ?_
        exact List.mem_map.mpr ⟨c, hc, beq_iff_eq.mp hname⟩
      rw [List.filter_cons_of_neg (by simpa using he), checkMembers_filter rest, checkMembers,
        hnone]

namespace Record

variable {α : Type} {r : Record α} {s : Schema} {m m' : Object} {a : α}

/-- The elements of a list have the names of the fields, each once. -/
theorem distinct_named (hnodup : r.names.Nodup) (items : List Value) :
    (r.named items).Distinct := by
  have hfront : (r.named items).map Prod.fst =
      r.names.take (min r.names.length items.length) := by
    unfold named
    rw [List.zip_eq_zip_take_min, List.map_fst_zip (by simp)]
    rfl
  unfold Object.Distinct
  rw [hfront]
  exact hnodup.sublist (List.take_sublist _ _)

/-- Members of other names than the fields have do not count, not even for the fault. -/
theorem ofObject_congr (htakes : Takes r.checks s r.build) (hnames : r.names = s.names)
    (hsame : (m'.filter fun e => e.1 ∈ s.names) = m.filter fun e => e.1 ∈ s.names) :
    r.ofObject m' = r.ofObject m := by
  have hchecks : checkMembers r.checks m' = checkMembers r.checks m := by
    rw [← checkMembers_filter m', ← checkMembers_filter m]
    change checkMembers r.checks (m'.filter fun e => e.1 ∈ r.names) =
      checkMembers r.checks (m.filter fun e => e.1 ∈ r.names)
    rw [hnames, hsame]
  have hbuild : r.build m' = r.build m := by
    refine htakes.congr fun name hname => ?_
    rw [← Object.get?_filter hname, hsame, Object.get?_filter hname]
  rw [ofObject, ofObject, hchecks, hbuild]

/-- A list is read as the object that gives its elements the names of the fields, if it has
an element for each field that must be there and none too many. -/
theorem ofList_eq_ok_iff (htakes : Takes r.checks s r.build) (hnames : r.names = s.names)
    (hnodup : r.names.Nodup) {items : List Value} : r.ofList items = .ok a ↔
      r.mandatory ≤ items.length ∧ items.length ≤ s.names.length ∧
        r.ofObject (Object.ofMembers (s.names.zip items)) = .ok a := by
  have hdistinct := distinct_named hnodup items
  have hnamed : r.named items = s.names.zip items := by
    rw [← hnames]
    rfl
  have hlength : r.checks.length = s.names.length := by
    rw [← hnames, names, List.length_map]
  -- the order of the elements does not count
  have hordered : r.ofObject (Object.ofMembers (r.named items)) = .ok a ↔
      r.ofObject (r.named items) = .ok a := by
    rw [ofObject_eq_ok_iff_build htakes.guarded hdistinct,
      ofObject_eq_ok_iff_build htakes.guarded (Object.sorted_ofMembers _).distinct,
      htakes.congr fun name _ => Object.get?_ofMembers hdistinct name]
  rw [← hnamed, hordered, ofObject_eq_ok_iff, ← hlength, ofList, Json.bind_eq_ok_iff]
  constructor
  · rintro ⟨⟨⟩, hchecks, hbuild⟩
    split_ifs at hbuild with hshort hlong
    exact ⟨Nat.le_of_not_lt hshort, Nat.le_of_not_lt hlong, hchecks, hbuild⟩
  · rintro ⟨hshort, hlong, hchecks, hbuild⟩
    refine ⟨(), hchecks, ?_⟩
    rw [if_neg (Nat.not_lt.mpr hshort), if_neg (Nat.not_lt.mpr hlong)]
    exact hbuild

end Record

/-! ### The seven records -/

/-- The record declares the fields of the schema and is read along them, and it is written as
the members that it was read from. -/
structure Record.Declares {α : Type} (r : Record α) (s : Schema) (write : α → Object) : Prop where
  takes : Takes r.checks s r.build
  names : r.names = s.names
  mandatory : r.mandatory = s.required.length
  keeps : r.Keeps nothing write

/-- The fields of a contact. -/
def ContactData.schema : Schema where
  required := [("id", .text), ("email", .text)]
  optional :=
    [("contactBookId", .text), ("subscribed", .flag), ("firstName", .text), ("lastName", .text),
     ("properties", .members), ("createdAt", .text), ("updatedAt", .text)]

/-- The fields of a domain. -/
def DomainData.schema : Schema where
  required := [("id", .integer), ("name", .text), ("status", .text)]
  optional := [("region", .text), ("createdAt", .text), ("updatedAt", .text)]

/-- The fields of a test delivery. -/
def TestData.schema : Schema where
  required := []
  optional := [("test", .flag), ("webhookId", .text), ("sentAt", .text)]

/-- The fields of the section of a bounce. -/
def Bounce.schema : Schema where
  required := [("type", .text)]
  optional := [("subType", .text), ("message", .text)]

/-- The fields of the section of a failure. -/
def Failure.schema : Schema where
  required := [("reason", .text)]
  optional := []

/-- The fields of the section of a suppression. -/
def Suppression.schema : Schema where
  required := [("type", .text)]
  optional := [("reason", .text)]

/-- The fields of the section of an opened email. -/
def Engagement.schema : Schema where
  required := []
  optional := [("timestamp", .text), ("userAgent", .text), ("ip", .text), ("platform", .text)]

theorem ContactData.declares : record.Declares schema toMembers where
  takes :=
    .required idField readsType_readText fun _ =>
    .required emailField readsType_readText fun _ =>
    .optional contactBookIdField readsType_readText fun _ =>
    .optional subscribedField readsType_readFlag fun _ =>
    .optional firstNameField readsType_readText fun _ =>
    .optional lastNameField readsType_readText fun _ =>
    .optional propertiesField readsType_readMembers fun _ =>
    .optional createdAtField readsType_readText fun _ =>
    .optional updatedAtField readsType_readText fun _ =>
    .done
  names := rfl
  mandatory := rfl
  keeps := ContactData.keeps

theorem DomainData.declares : record.Declares schema toMembers where
  takes :=
    .required idField readsType_readInteger fun _ =>
    .required nameField readsType_readText fun _ =>
    .required statusField readsType_readText fun _ =>
    .optional regionField readsType_readText fun _ =>
    .optional createdAtField readsType_readText fun _ =>
    .optional updatedAtField readsType_readText fun _ =>
    .done
  names := rfl
  mandatory := rfl
  keeps := DomainData.keeps

theorem TestData.declares : record.Declares schema toMembers where
  takes :=
    .optional testField readsType_readFlag fun _ =>
    .optional webhookIdField readsType_readText fun _ =>
    .optional sentAtField readsType_readText fun _ =>
    .done
  names := rfl
  mandatory := rfl
  keeps := TestData.keeps

theorem Bounce.declares : record.Declares schema toMembers where
  takes :=
    .required typeField readsType_readText fun _ =>
    .optional subTypeField readsType_readText fun _ =>
    .optional messageField readsType_readText fun _ =>
    .done
  names := rfl
  mandatory := rfl
  keeps := Bounce.keeps

theorem Failure.declares : record.Declares schema toMembers where
  takes := .required reasonField readsType_readText fun _ => .done
  names := rfl
  mandatory := rfl
  keeps := Failure.keeps

theorem Suppression.declares : record.Declares schema toMembers where
  takes :=
    .required typeField readsType_readText fun _ =>
    .optional reasonField readsType_readText fun _ =>
    .done
  names := rfl
  mandatory := rfl
  keeps := Suppression.keeps

theorem Engagement.declares : record.Declares schema toMembers where
  takes :=
    .optional timestampField readsType_readText fun _ =>
    .optional userAgentField readsType_readText fun _ =>
    .optional ipField readsType_readText fun _ =>
    .optional platformField readsType_readText fun _ =>
    .done
  names := rfl
  mandatory := rfl
  keeps := Engagement.keeps

/-- The readers of the records that stand by themselves: those of the data of contact, domain
and test events, and those of the sections of email events, clicks apart. -/
inductive Listable : {α : Type} → (Value → Except Mismatch α) → Schema → (α → Object) → Prop where
  | contact : Listable ContactData.record.read ContactData.schema ContactData.toMembers
  | domain : Listable DomainData.record.read DomainData.schema DomainData.toMembers
  | test : Listable TestData.record.read TestData.schema TestData.toMembers
  | bounce : Listable bounceField.read Bounce.schema Bounce.toMembers
  | failed : Listable failedField.read Failure.schema Failure.toMembers
  | suppression : Listable suppressionField.read Suppression.schema Suppression.toMembers
  | opened : Listable openField.read Engagement.schema Engagement.toMembers

/-- The kinds of events whose data is such a record and nothing else. -/
inductive Whole : {α : Type} → Kind → (Value → Except Mismatch α) → (α → Payload) → Prop where
  | contact {k : Kind} : k ∈ Kind.contacts → Whole k ContactData.record.read (.contact k)
  | domain {k : Kind} : k ∈ Kind.domains → Whole k DomainData.record.read (.domain k)
  | test : Whole .test TestData.record.read .test

section

variable {α : Type} {read : Value → Except Mismatch α} {s : Schema} {write : α → Object}

theorem Listable.exists_record (h : Listable read s write) :
    ∃ r : Record α, read = r.read ∧ r.Declares s write := by
  cases h with
  | contact => exact ⟨_, rfl, ContactData.declares⟩
  | domain => exact ⟨_, rfl, DomainData.declares⟩
  | test => exact ⟨_, rfl, TestData.declares⟩
  | bounce => exact ⟨_, rfl, Bounce.declares⟩
  | failed => exact ⟨_, rfl, Failure.declares⟩
  | suppression => exact ⟨_, rfl, Suppression.declares⟩
  | opened => exact ⟨_, rfl, Engagement.declares⟩

/-- The payload of such an event is the record that is read from its data. -/
theorem Whole.payload_eq {k : Kind} {wrap : α → Payload} (h : Whole k read wrap) {e : Event}
    (htag : e.tag? = some k.tag) : e.payload = (read (e.data?.getD .null)).map wrap := by
  cases h with
  | contact hk =>
    simp only [Kind.contacts, List.mem_cons, List.not_mem_nil, or_false] at hk
    rcases hk with rfl | rfl | rfl <;> exact payload_of_tag (by decide) htag
  | domain hk =>
    simp only [Kind.domains, List.mem_cons, List.not_mem_nil, or_false] at hk
    rcases hk with rfl | rfl | rfl | rfl <;> exact payload_of_tag (by decide) htag
  | test => exact payload_of_tag (by decide) htag

/-- **Objects and lists.** Each of these records is read from an object exactly if every field
that must be there stands in it with its type and every optional one is absent, null or of its
type. Members of other names do not count, and what is read are the members of the fields that
are not null. From a list it is read exactly if the list has an element for each field that must
be there and none too many, and the object that gives the elements the names of the fields is
read; and the same is read. From any other value nothing is read. An event whose data is such
a record has what is read for its payload. -/
theorem read_forms (hlistable : Listable read s write) :
    (∀ m : Object, m.Distinct → ((∃ a, read (.object m) = .ok a) ↔ s.Met m)) ∧
    (∀ m m' : Object,
      (m'.filter fun e => e.1 ∈ s.names) = (m.filter fun e => e.1 ∈ s.names) →
      read (.object m') = read (.object m)) ∧
    (∀ (m : Object) a, read (.object m) = .ok a → write a = m.picked s.names) ∧
    (∀ (items : List Value) a, read (.array items) = .ok a ↔
      s.required.length ≤ items.length ∧ items.length ≤ s.names.length ∧
        read (.object (Object.ofMembers (s.names.zip items))) = .ok a) ∧
    (∀ v, (∀ m, v ≠ .object m) → (∀ items, v ≠ .array items) → ∃ fault, read v = .error fault) ∧
    ∀ k wrap, Whole k read wrap → ∀ e : Event, e.tag? = some k.tag →
      e.payload = (read (e.data?.getD .null)).map wrap := by
  obtain ⟨r, rfl, hr⟩ := hlistable.exists_record
  refine ⟨fun m hm => ?_, fun m m' hsame => ?_, fun m a h => ?_, fun items a => ?_,
    fun v hobject harray => ?_, fun k wrap hwhole e htag => hwhole.payload_eq htag⟩
  · rw [← hr.takes.exists_iff]
    exact exists_congr fun a => Record.ofObject_eq_ok_iff_build hr.takes.guarded hm
  · exact Record.ofObject_congr hr.takes hr.names hsame
  · rw [← hr.names]
    exact hr.keeps.written_alone h
  · rw [← hr.mandatory]
    exact Record.ofList_eq_ok_iff hr.takes hr.names hr.keeps.nodup
  · cases v with
    | object m => exact absurd rfl (hobject m)
    | array items => exact absurd rfl (harray items)
    | _ => exact ⟨_, rfl⟩

end

/-- A domain as a list without its last two fields, and with one that is null. -/
theorem read_forms_listedDomain :
    DomainData.record.read (.array [.number (.integer 7), .text "a.example", .text "VERIFIED",
      .null]) = .ok ⟨7, "a.example", "VERIFIED", none, none, none⟩ ∧
    DomainData.schema.Met [("id", .number (.integer 7)), ("name", .text "a.example"),
      ("status", .text "VERIFIED"), ("zone", .boolean true)] := by
  refine ⟨((read_forms .domain).2.2.2.1 _ _).mpr ⟨by decide, by decide, rfl⟩, ?_⟩
  refine ((read_forms .domain).1 _ ?_).mp ⟨_, rfl⟩
  unfold Object.Distinct
  decide

end Event
end SignedHooks
