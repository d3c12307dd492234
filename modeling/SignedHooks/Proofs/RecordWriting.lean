/-
# Records that are written and read again

Where a field is optional a member that is null is as good as none
(`Json.Object.given?`). What is written for a record are the members under the names of
its fields that are not null, in the order of the fields (`Json.Object.picked`), whatever
else the object holds; and another object with the same members under these names says
the same record. This is shown along the fields: a reader that does so (`Event.Keeps`)
still does with one more field in front (`Event.Keeps.required`,
`Event.Keeps.optional`), and every record is a chain of such readers.

So the members that are written for a record say it again, in the order of their keys
(`Event.Record.Keeps.ofObject_written`). If the record was read from a list, they are
those that give the names of the fields to its elements (`Event.entries`).

Key definitions: `Json.Object.given?`, `Json.Object.picked`, `Event.Faithful`,
`Event.Strict`, `Event.Keeps`, `Event.entries`, `Event.Record.Keeps`.
Key theorems: `Event.Field.optional_eq`, `Event.checkMembers_of_subset`,
`Event.Keeps.required`, `Event.Keeps.optional`, `Event.Record.ofObject_entries`,
`Event.Record.Keeps.ofObject_written`.
-/
import SignedHooks.Event
import SignedHooks.Proofs.JsonOrder
import SignedHooks.Proofs.JsonParts

namespace SignedHooks

open Json (Value Object)

/-! ### Members that are not null -/

namespace Json.Object

/-- The value of a key, if there is one that is not null. -/
def given? (m : Object) (key : String) : Option Value :=
  match m.get? key with
  | some .null => none
  | found => found

/-- The members under some names that are not null, in the order of the names. -/
def picked (m : Object) (names : List String) : Object :=
  names.filterMap fun name => (m.given? name).map (Prod.mk name)

variable {m m' : Object} {names : List String} {key : String} {value : Value}

theorem given?_eq_some_iff :
    m.given? key = some value ↔ m.get? key = some value ∧ value ≠ .null := by
  unfold given?
  cases m.get? key with
  | none => simp
  | some v =>
    cases v with
    | null => exact ⟨nofun, fun h => absurd (Option.some.inj h.1).symm h.2⟩
    | _ => exact ⟨fun h => ⟨h, Option.some.inj h ▸ nofun⟩, And.left⟩

theorem given?_of_get? (h : m'.get? key = m.get? key) : m'.given? key = m.given? key := by
  unfold given?
  rw [h]

theorem mem_picked_iff : (key, value) ∈ m.picked names ↔
    key ∈ names ∧ m.given? key = some value := by
  unfold picked
  rw [List.mem_filterMap]
  constructor
  · rintro ⟨name, hname, h⟩
    obtain ⟨v, hv, heq⟩ := Option.map_eq_some_iff.mp h
    cases heq
    exact ⟨hname, hv⟩
  · rintro ⟨hname, h⟩
    exact ⟨key, hname, by rw [h]; rfl⟩

/-- What is picked was there. -/
theorem mem_of_mem_picked {e : String × Value} (h : e ∈ m.picked names) : e ∈ m :=
  mem_of_get? (given?_eq_some_iff.mp (mem_picked_iff.mp h).2).1

theorem picked_append (m : Object) (names names' : List String) :
    m.picked names ++ m.picked names' = m.picked (names ++ names') :=
  List.filterMap_append.symm

theorem append_picked_cons (front m : Object) (name : String) (names : List String) :
    front ++ m.picked [name] ++ m.picked names = front ++ m.picked (name :: names) := by
  rw [List.append_assoc, picked_append]
  rfl

theorem picked_congr (h : ∀ name ∈ names, m'.given? name = m.given? name) :
    m'.picked names = m.picked names := by
  unfold picked
  exact List.filterMap_congr fun name hname => by rw [h name hname]

theorem distinct_picked (m : Object) {names : List String} (h : names.Nodup) :
    Distinct (m.picked names) := by
  induction names with
  | nil => exact List.nodup_nil
  | cons name names ih =>
    obtain ⟨hname, hnames⟩ := List.nodup_cons.mp h
    unfold picked
    rw [List.filterMap_cons]
    cases m.given? name with
    | none => exact ih hnames
    | some v =>
      refine distinct_cons_iff.mpr ⟨fun f hf heq => hname ?_, ih hnames⟩
      have hmem := (mem_picked_iff.mp hf).1
      rwa [heq] at hmem

/-- Under the names themselves nothing is lost but what is null. -/
theorem given?_picked (h : names.Nodup) (hkey : key ∈ names) :
    (m.picked names).given? key = m.given? key := by
  refine Option.ext fun v => ?_
  rw [given?_eq_some_iff, get?_eq_some_iff (distinct_picked m h), mem_picked_iff]
  constructor
  · intro hv
    exact hv.1.2
  · intro hv
    exact ⟨⟨hkey, hv⟩, (given?_eq_some_iff.mp hv).2⟩

/-- What is picked may be put in order. -/
theorem given?_ofMembers_picked (h : names.Nodup) (hkey : key ∈ names) :
    (ofMembers (m.picked names)).given? key = m.given? key := by
  rw [given?_of_get? (get?_ofMembers (distinct_picked m h) key), given?_picked h hkey]

theorem mem_of_mem_ofMembers_picked (h : names.Nodup) {e : String × Value}
    (he : e ∈ ofMembers (m.picked names)) : e ∈ m :=
  mem_of_mem_picked ((mem_ofMembers (distinct_picked m h)).mp he)

theorem get?_without (m : Object) {key other : String} (h : key ≠ other) :
    (m.without other).get? key = m.get? key := by
  unfold get? without
  rw [List.find?_filter]
  congr 2
  funext e
  by_cases he : e.1 = key <;> simp [he, h]

end Json.Object

namespace Event

/-! ### Fields -/

/-- What is written for what is read is the value that was read. -/
def Faithful {α : Type} (read : Value → Except Mismatch α) (write : α → Value) : Prop :=
  ∀ v a, read v = .ok a → write a = v

/-- Null is not read. -/
def Strict {α : Type} (read : Value → Except Mismatch α) : Prop :=
  ∀ a, read .null ≠ .ok a

theorem faithful_readText : Faithful readText .text
  | .text _, _, rfl => rfl

theorem faithful_readFlag : Faithful readFlag .boolean
  | .boolean _, _, rfl => rfl

theorem faithful_readInteger : Faithful readInteger ofInteger
  | .number (.integer n), a, h => by
    simp only [readInteger] at h
    split_ifs at h
    cases h
    rfl

theorem faithful_readMembers : Faithful readMembers .object
  | .object _, _, rfl => rfl

theorem faithful_readAny : Faithful readAny id
  | _, _, rfl => rfl

theorem map_text_of_mapM : ∀ {items : List Value} {texts : List String},
    items.mapM readText = .ok texts → texts.map Value.text = items
  | [], texts, h => by
    cases h
    rfl
  | v :: items, texts, h => by
    rw [List.mapM_cons] at h
    obtain ⟨s, hs, h⟩ := Json.bind_eq_ok_iff.mp h
    obtain ⟨rest, hrest, h⟩ := Json.bind_eq_ok_iff.mp h
    cases h
    rw [List.map_cons, faithful_readText v s hs, map_text_of_mapM hrest]

theorem faithful_readTexts : Faithful readTexts fun texts => .array (texts.map .text)
  | .array _, _, h => congrArg Value.array (map_text_of_mapM h)

theorem strict_readText : Strict readText := nofun

theorem strict_readInteger : Strict readInteger := nofun

theorem strict_readTexts : Strict readTexts := nofun

namespace Field

variable {α : Type} {write : α → Value} {m m' : Object}

theorem optional_eq (f : Field α) (m : Object) : f.optional m =
    match m.given? f.name with
    | none => .ok none
    | some v => (f.read v).map some := by
  unfold optional Object.given?
  cases m.get? f.name with
  | none => rfl
  | some v => cases v <;> rfl

theorem optional_congr {f : Field α} (h : m'.given? f.name = m.given? f.name) :
    f.optional m' = f.optional m := by
  rw [optional_eq, optional_eq, h]

theorem required_eq_ok_iff_get {f : Field α} {a : α} :
    f.required m = .ok a ↔ ∃ v, m.get? f.name = some v ∧ f.read v = .ok a := by
  unfold required
  cases m.get? f.name with
  | none => simp
  | some v => simp

/-- A field that must be there is an optional one that is there. -/
theorem required_eq_ok_iff {f : Field α} (hstrict : Strict f.read) {a : α} :
    f.required m = .ok a ↔ f.optional m = .ok (some a) := by
  unfold required optional
  cases m.get? f.name with
  | none => simp
  | some v =>
    cases v with
    | null => simp [hstrict a]
    | _ => simp [Json.map_eq_ok_iff]

/-- A field that must be there is there, and not null. -/
theorem exists_given_of_required {f : Field α} (hstrict : Strict f.read) {a : α}
    (h : f.required m = .ok a) : ∃ v, m.given? f.name = some v := by
  rw [required_eq_ok_iff hstrict, optional_eq] at h
  cases hgiven : m.given? f.name with
  | none =>
    rw [hgiven] at h
    cases h
  | some v => exact ⟨v, rfl⟩

theorem required_congr {f : Field α} (hstrict : Strict f.read)
    (hsame : m'.given? f.name = m.given? f.name) {a : α} (h : f.required m = .ok a) :
    f.required m' = .ok a := by
  rw [required_eq_ok_iff hstrict] at h ⊢
  rw [optional_congr hsame, h]

/-- What is written for an optional field is what the object gives under its name. -/
theorem member?_eq_picked {f : Field α} (hfaithful : Faithful f.read write) {o : Option α}
    (h : f.optional m = .ok o) : member? f.name (o.map write) = m.picked [f.name] := by
  rw [optional_eq] at h
  unfold Object.picked
  rw [List.filterMap_cons, List.filterMap_nil]
  cases hgiven : m.given? f.name with
  | none =>
    simp only [hgiven] at h
    cases h
    rfl
  | some v =>
    simp only [hgiven] at h
    obtain ⟨a, ha, rfl⟩ := Json.map_eq_ok_iff.mp h
    rw [Option.map_some, hfaithful v a ha]
    rfl

/-- What is written for a field that must be there is what the object gives under its
name. -/
theorem member_eq_picked {f : Field α} (hfaithful : Faithful f.read write)
    (hstrict : Strict f.read) {a : α} (h : f.required m = .ok a) :
    member f.name (write a) = m.picked [f.name] :=
  member?_eq_picked hfaithful ((required_eq_ok_iff hstrict).mp h)

end Field

/-! ### Checks -/

theorem checkMembers_eq_ok_iff {checks : List Check} : ∀ {m : Object},
    checkMembers checks m = .ok () ↔ ∀ e ∈ m, ∀ c, (checks.find? fun c => c.name == e.1) = some c →
      c.accept e.2 = .ok ()
  | [] => by simp [checkMembers]
  | e :: rest => by
    rw [List.forall_mem_cons, ← checkMembers_eq_ok_iff, checkMembers]
    cases checks.find? fun c => c.name == e.1 with
    | none => simp
    | some c =>
      simp only [Option.some.injEq, forall_eq', Json.bind_eq_ok_iff]
      exact ⟨fun ⟨(), h⟩ => h, fun h => ⟨(), h⟩⟩

/-- Checks that hold of all members hold of some of them. -/
theorem checkMembers_of_subset {checks : List Check} {m m' : Object}
    (h : checkMembers checks m = .ok ()) (hsub : ∀ e ∈ m', e ∈ m) :
    checkMembers checks m' = .ok () :=
  checkMembers_eq_ok_iff.mpr fun e he => checkMembers_eq_ok_iff.mp h e (hsub e he)

/-! ### Fields one after another -/

/-- A reader of some fields one after another takes the members under their names that are
not null, and what `rest` leaves of the object, and nothing else counts; those that must be
there are given. What is written for what is read is what was written for the fields in
front, and then the members that were taken. -/
structure Keeps {α : Type} (front : Object) (must names : List String) (rest : Object → Object)
    (read : Object → Except Mismatch α) (write : α → Object) : Prop where
  /-- The members that were taken are written. -/
  written : ∀ {m a}, read m = .ok a → write a = front ++ m.picked names ++ rest m
  /-- What must be there is given. -/
  given : ∀ {m a}, read m = .ok a → ∀ name ∈ must, ∃ v, m.given? name = some v
  /-- Nothing but these members counts. -/
  same : ∀ {m m' a}, read m = .ok a → (∀ name ∈ names, m'.given? name = m.given? name) →
    rest m' = rest m → read m' = .ok a

namespace Keeps

variable {α β : Type} {front : Object} {must names : List String} {rest : Object → Object}
  {next : β → Object → Except Mismatch α} {write : α → Object}

theorem required {w : β → Value} (f : Field β) (hfaithful : Faithful f.read w)
    (hstrict : Strict f.read)
    (h : ∀ b, Keeps (front ++ member f.name (w b)) must names rest (next b) write) :
    Keeps front (f.name :: must) (f.name :: names) rest
      (fun m => f.required m >>= fun b => next b m) write where
  written {m a} hread := by
    obtain ⟨b, hb, hnext⟩ := Json.bind_eq_ok_iff.mp hread
    calc write a = front ++ member f.name (w b) ++ m.picked names ++ rest m :=
          (h b).written hnext
      _ = front ++ m.picked [f.name] ++ m.picked names ++ rest m := by
          rw [Field.member_eq_picked hfaithful hstrict hb]
      _ = front ++ m.picked (f.name :: names) ++ rest m := by rw [Object.append_picked_cons]
  given {m a} hread := by
    obtain ⟨b, hb, hnext⟩ := Json.bind_eq_ok_iff.mp hread
    exact List.forall_mem_cons.mpr
      ⟨Field.exists_given_of_required hstrict hb, (h b).given hnext⟩
  same {m m' a} hread hnames hrest := by
    obtain ⟨b, hb, hnext⟩ := Json.bind_eq_ok_iff.mp hread
    obtain ⟨hname, hnames⟩ := List.forall_mem_cons.mp hnames
    exact Json.bind_eq_ok_iff.mpr
      ⟨b, Field.required_congr hstrict hname hb, (h b).same hnext hnames hrest⟩

theorem optional {w : β → Value} {next : Option β → Object → Except Mismatch α} (f : Field β)
    (hfaithful : Faithful f.read w)
    (h : ∀ o, Keeps (front ++ member? f.name (o.map w)) must names rest (next o) write) :
    Keeps front must (f.name :: names) rest
      (fun m => f.optional m >>= fun o => next o m) write where
  written {m a} hread := by
    obtain ⟨o, ho, hnext⟩ := Json.bind_eq_ok_iff.mp hread
    calc write a = front ++ member? f.name (o.map w) ++ m.picked names ++ rest m :=
          (h o).written hnext
      _ = front ++ m.picked [f.name] ++ m.picked names ++ rest m := by
          rw [Field.member?_eq_picked hfaithful ho]
      _ = front ++ m.picked (f.name :: names) ++ rest m := by rw [Object.append_picked_cons]
  given {m a} hread := by
    obtain ⟨o, _, hnext⟩ := Json.bind_eq_ok_iff.mp hread
    exact (h o).given hnext
  same {m m' a} hread hnames hrest := by
    obtain ⟨o, ho, hnext⟩ := Json.bind_eq_ok_iff.mp hread
    obtain ⟨hname, hnames⟩ := List.forall_mem_cons.mp hnames
    exact Json.bind_eq_ok_iff.mpr
      ⟨o, (Field.optional_congr hname).trans ho, (h o).same hnext hnames hrest⟩

/-- Behind the last field there is what is made of the fields and of the rest. -/
theorem done {make : Object → α} (hwrite : ∀ m, write (make m) = front ++ rest m)
    (hmake : ∀ m m', rest m' = rest m → make m' = make m) :
    Keeps front [] [] rest (fun m => pure (make m)) write where
  written {m a} hread := by
    cases hread
    rw [hwrite]
    exact congrArg (· ++ rest m) (List.append_nil front).symm
  given _ := nofun
  same {m m' a} hread _ hrest := by
    cases hread
    exact congrArg Except.ok (hmake m m' hrest)

end Keeps

/-! ### Records -/

/-- Nothing of an object. -/
def nothing (_ : Object) : Object :=
  []

/-- Where nothing is taken but the fields. -/
theorem Keeps.doneAlone {α : Type} {front : Object} {a : α} {write : α → Object}
    (h : write a = front) : Keeps front [] [] nothing (fun _ => pure a) write :=
  done (fun _ => h.trans (List.append_nil front).symm) fun _ _ _ => rfl

/-- The members that a value says for a record with fields of these names. -/
def entries (names : List String) : Value → Object
  | .object m => m
  | .array items => names.zip items
  | _ => []

/-- The members that a value says hold nothing but what the value holds. -/
theorem forall_entries {N : Json.Number → Prop} {O : Object → Prop} {v : Value}
    (h : v.All N O) (names : List String) : ∀ e ∈ entries names v, e.2.All N O := by
  cases h with
  | array hitems =>
    intro e he
    exact hitems e.2 (List.of_mem_zip he).2
  | object _ hmembers => exact hmembers
  | _ => exact nofun

namespace Record

variable {α : Type} {r : Record α} {write : α → Object} {m m' : Object} {a : α}

/-- The names of the fields. -/
def names (r : Record α) : List String :=
  r.checks.map (·.name)

/-- The fields of the record have names of their own, and with `rest` they are what is read
from an object and written for the record. -/
structure Keeps (r : Record α) (rest : Object → Object) (write : α → Object) : Prop where
  /-- No two fields have one name. -/
  nodup : r.names.Nodup
  /-- The fields are read and written one after another. -/
  build : Event.Keeps [] (r.names.take r.mandatory) r.names rest r.build write

theorem ofObject_eq_ok_iff :
    r.ofObject m = .ok a ↔ checkMembers r.checks m = .ok () ∧ r.build m = .ok a := by
  unfold ofObject
  rw [Json.bind_eq_ok_iff]
  exact ⟨fun ⟨(), h⟩ => h, fun h => ⟨(), h⟩⟩

theorem readObject_eq_ok_iff {v : Value} :
    r.readObject v = .ok a ↔ ∃ m, v = .object m ∧ r.ofObject m = .ok a := by
  constructor
  · intro h
    cases v with
    | object m => exact ⟨m, rfl, h⟩
    | _ => cases h
  · rintro ⟨m, rfl, h⟩
    exact h

/-- A record that is read from a value is that of the members that the value says. -/
theorem ofObject_entries {v : Value} (h : r.read v = .ok a) :
    r.ofObject (entries r.names v) = .ok a := by
  cases v with
  | object m => exact h
  | array items =>
    obtain ⟨_, hchecks, h⟩ := Json.bind_eq_ok_iff.mp h
    split_ifs at h
    exact ofObject_eq_ok_iff.mpr ⟨hchecks, h⟩
  | _ => cases h

namespace Keeps

variable {rest : Object → Object}

/-- What is written for a record that was read are the members under the names of its fields
that are not null, and the rest. -/
theorem written_of_ofObject (hkeeps : r.Keeps rest write) (h : r.ofObject m = .ok a) :
    write a = m.picked r.names ++ rest m :=
  hkeeps.build.written (ofObject_eq_ok_iff.mp h).2

theorem written_alone (hkeeps : r.Keeps nothing write) (h : r.ofObject m = .ok a) :
    write a = m.picked r.names :=
  (hkeeps.written_of_ofObject h).trans (List.append_nil _)

/-- Some members of an object say the same record if nothing under the names of its fields
is left out, and nothing of the rest. -/
theorem ofObject_of_subset (hkeeps : r.Keeps rest write) (h : r.ofObject m = .ok a)
    (hsub : ∀ e ∈ m', e ∈ m) (hsame : ∀ name ∈ r.names, m'.given? name = m.given? name)
    (hrest : rest m' = rest m) : r.ofObject m' = .ok a := by
  obtain ⟨hchecks, hbuild⟩ := ofObject_eq_ok_iff.mp h
  exact ofObject_eq_ok_iff.mpr
    ⟨checkMembers_of_subset hchecks hsub, hkeeps.build.same hbuild hsame hrest⟩

/-- The members that are written for a record say it again, in the order of their keys. -/
theorem ofObject_written (hkeeps : r.Keeps nothing write) (h : r.ofObject m = .ok a) :
    r.ofObject (Object.ofMembers (write a)) = .ok a := by
  rw [hkeeps.written_alone h]
  refine hkeeps.ofObject_of_subset h (fun e he => ?_) (fun name hname => ?_) rfl
  · exact Object.mem_of_mem_ofMembers_picked hkeeps.nodup he
  · exact Object.given?_ofMembers_picked hkeeps.nodup hname

end Keeps

end Record

/-! ### The records of the catalogue -/

theorem Bounce.keeps : record.Keeps nothing toMembers where
  nodup := by decide
  build :=
    .required typeField faithful_readText strict_readText fun _ =>
    .optional subTypeField faithful_readText fun _ =>
    .optional messageField faithful_readText fun _ =>
    .doneAlone rfl

theorem Failure.keeps : record.Keeps nothing toMembers where
  nodup := by decide
  build :=
    .required reasonField faithful_readText strict_readText fun _ =>
    .doneAlone rfl

theorem Suppression.keeps : record.Keeps nothing toMembers where
  nodup := by decide
  build :=
    .required typeField faithful_readText strict_readText fun _ =>
    .optional reasonField faithful_readText fun _ =>
    .doneAlone rfl

theorem Engagement.keeps : record.Keeps nothing toMembers where
  nodup := by decide
  build :=
    .optional timestampField faithful_readText fun _ =>
    .optional userAgentField faithful_readText fun _ =>
    .optional ipField faithful_readText fun _ =>
    .optional platformField faithful_readText fun _ =>
    .doneAlone rfl

theorem ContactData.keeps : record.Keeps nothing toMembers where
  nodup := by decide
  build :=
    .required idField faithful_readText strict_readText fun _ =>
    .required emailField faithful_readText strict_readText fun _ =>
    .optional contactBookIdField faithful_readText fun _ =>
    .optional subscribedField faithful_readFlag fun _ =>
    .optional firstNameField faithful_readText fun _ =>
    .optional lastNameField faithful_readText fun _ =>
    .optional propertiesField faithful_readMembers fun _ =>
    .optional createdAtField faithful_readText fun _ =>
    .optional updatedAtField faithful_readText fun _ =>
    .doneAlone rfl

theorem DomainData.keeps : record.Keeps nothing toMembers where
  nodup := by decide
  build :=
    .required idField faithful_readInteger strict_readInteger fun _ =>
    .required nameField faithful_readText strict_readText fun _ =>
    .required statusField faithful_readText strict_readText fun _ =>
    .optional regionField faithful_readText fun _ =>
    .optional createdAtField faithful_readText fun _ =>
    .optional updatedAtField faithful_readText fun _ =>
    .doneAlone rfl

theorem TestData.keeps : record.Keeps nothing toMembers where
  nodup := by decide
  build :=
    .optional testField faithful_readFlag fun _ =>
    .optional webhookIdField faithful_readText fun _ =>
    .optional sentAtField faithful_readText fun _ =>
    .doneAlone rfl

end Event
end SignedHooks
