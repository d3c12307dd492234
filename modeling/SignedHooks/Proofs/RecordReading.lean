/-
# What records are read from

The values that a field is read from are told by what is written for it
(`Event.ReadsAs`). So a field that must be there is read exactly if the value that is
written for it stands under its name, and an optional one exactly if that value or none is
given there, where null is as good as none (`Event.Field.required_eq_ok_iff_value`,
`Event.Field.optional_eq_ok_iff_value`).

The members of an object are checked before a record is built of it, and the checks decide
only which fault is told: they accept whatever a record can be built of
(`Event.Guarded`, `Event.Record.ofObject_eq_ok_iff_build`). As with the written members this
is shown along the fields, with one more in front (`Event.Guarded.required`,
`Event.Guarded.optional`).

Key definitions: `Event.ReadsAs`, `Event.Guarded`.
Key theorems: `Event.Field.required_eq_ok_iff_value`,
`Event.Field.optional_eq_ok_iff_value`, `Event.Record.ofObject_eq_ok_iff_build`.
-/
import SignedHooks.Proofs.RecordWriting

namespace SignedHooks
namespace Event

open Json (Value Object)

/-! ### Values -/

/-- What is read are the values that are written for what fits. -/
def ReadsAs {α : Type} (read : Value → Except Mismatch α) (fits : α → Prop)
    (write : α → Value) : Prop :=
  ∀ v a, read v = .ok a ↔ fits a ∧ v = write a

/-- Everything fits. -/
def Unbounded {α : Type} (_ : α) : Prop :=
  True

theorem readsAs_readText : ReadsAs readText Unbounded .text := by
  intro v s
  constructor
  · intro h
    exact ⟨trivial, (faithful_readText v s h).symm⟩
  · rintro ⟨-, rfl⟩
    rfl

theorem readsAs_readFlag : ReadsAs readFlag Unbounded .boolean := by
  intro v b
  constructor
  · intro h
    exact ⟨trivial, (faithful_readFlag v b h).symm⟩
  · rintro ⟨-, rfl⟩
    rfl

theorem readsAs_readMembers : ReadsAs readMembers Unbounded .object := by
  intro v m
  constructor
  · intro h
    exact ⟨trivial, (faithful_readMembers v m h).symm⟩
  · rintro ⟨-, rfl⟩
    rfl

theorem readsAs_readInteger : ReadsAs readInteger Signed64.Fits ofInteger := by
  intro v n
  constructor
  · intro h
    have hwritten : ofInteger n = v := faithful_readInteger v n h
    subst hwritten
    simp only [ofInteger, readInteger] at h
    split_ifs at h with hfits
    exact ⟨hfits, rfl⟩
  · rintro ⟨hfits, rfl⟩
    exact if_pos hfits

theorem mapM_readText : ∀ texts : List String, (texts.map Value.text).mapM readText = .ok texts
  | [] => rfl
  | s :: texts => by
    rw [List.map_cons, List.mapM_cons]
    refine Json.bind_eq_ok_iff.mpr ⟨s, rfl, ?_⟩
    exact Json.bind_eq_ok_iff.mpr ⟨texts, mapM_readText texts, rfl⟩

theorem readsAs_readTexts :
    ReadsAs readTexts Unbounded fun texts => .array (texts.map .text) := by
  intro v texts
  constructor
  · intro h
    exact ⟨trivial, (faithful_readTexts v texts h).symm⟩
  · rintro ⟨-, rfl⟩
    exact mapM_readText texts

theorem readsAs_readAny : ReadsAs readAny Unbounded id := by
  intro v w
  constructor
  · intro h
    exact ⟨trivial, Except.ok.inj h⟩
  · rintro ⟨-, rfl⟩
    rfl

/-! ### Fields -/

namespace Field

variable {α : Type} {f : Field α} {fits : α → Prop} {write : α → Value} {m : Object}

/-- A field that must be there is read from the value that is written for it. -/
theorem required_eq_ok_iff_value (h : ReadsAs f.read fits write) {a : α} :
    f.required m = .ok a ↔ fits a ∧ m.get? f.name = some (write a) := by
  rw [required_eq_ok_iff_get]
  constructor
  · rintro ⟨v, hv, hread⟩
    obtain ⟨hfits, rfl⟩ := (h v a).mp hread
    exact ⟨hfits, hv⟩
  · rintro ⟨hfits, hv⟩
    exact ⟨_, hv, (h _ a).mpr ⟨hfits, rfl⟩⟩

/-- An optional field is read from the value that is written for it, or from none. -/
theorem optional_eq_ok_iff_value (h : ReadsAs f.read fits write) {o : Option α} :
    f.optional m = .ok o ↔ (∀ a, o = some a → fits a) ∧ m.given? f.name = o.map write := by
  rw [optional_eq]
  cases hgiven : m.given? f.name with
  | none =>
    cases o with
    | none => simp
    | some a => simp
  | some v =>
    simp only [Json.map_eq_ok_iff, h v]
    constructor
    · rintro ⟨a, ⟨hfits, rfl⟩, rfl⟩
      refine ⟨?_, rfl⟩
      rintro _ ⟨⟩
      exact hfits
    · rintro ⟨hfits, hv⟩
      obtain ⟨a, rfl, rfl⟩ := Option.map_eq_some_iff.mp hv.symm
      exact ⟨a, ⟨hfits a rfl, rfl⟩, rfl⟩

/-! The fields of the records are of a few types, for each of which this says: -/

variable {name : String}

theorem required_text {s : String} :
    (Field.mk name readText).required m = .ok s ↔ m.get? name = some (.text s) := by
  rw [required_eq_ok_iff_value readsAs_readText]
  exact ⟨And.right, fun h => ⟨trivial, h⟩⟩

theorem required_texts {texts : List String} : (Field.mk name readTexts).required m = .ok texts ↔
    m.get? name = some (.array (texts.map .text)) := by
  rw [required_eq_ok_iff_value readsAs_readTexts]
  exact ⟨And.right, fun h => ⟨trivial, h⟩⟩

theorem optional_text {o : Option String} :
    (Field.mk name readText).optional m = .ok o ↔ m.given? name = o.map .text := by
  rw [optional_eq_ok_iff_value readsAs_readText]
  exact ⟨And.right, fun h => ⟨fun _ _ => trivial, h⟩⟩

theorem optional_any {o : Option Value} :
    (Field.mk name readAny).optional m = .ok o ↔ m.given? name = o := by
  rw [optional_eq_ok_iff_value readsAs_readAny, Option.map_id]
  exact ⟨And.right, fun h => ⟨fun _ _ => trivial, h⟩⟩

theorem optional_integer {o : Option Int} : (Field.mk name readInteger).optional m = .ok o ↔
    (∀ n, o = some n → Signed64.Fits n) ∧ m.given? name = o.map ofInteger :=
  optional_eq_ok_iff_value readsAs_readInteger

end Field

/-- A value that fits, or none, is what is given under a key exactly if there is nothing
else. -/
theorem exists_given_iff {α : Type} {fits : α → Prop} {write : α → Value} {m : Object}
    {key : String} :
    (∃ o : Option α, (∀ a, o = some a → fits a) ∧ m.given? key = o.map write) ↔
      ∀ v, m.get? key = some v → v = .null ∨ ∃ a, fits a ∧ v = write a := by
  constructor
  · rintro ⟨o, hfits, hgiven⟩ v hv
    by_cases hv' : v = .null
    · exact .inl hv'
    · rw [Object.given?_eq_some_iff.mpr ⟨hv, hv'⟩] at hgiven
      obtain ⟨a, rfl, rfl⟩ := Option.map_eq_some_iff.mp hgiven.symm
      exact .inr ⟨a, hfits a rfl, rfl⟩
  · intro h
    cases hgiven : m.given? key with
    | none => exact ⟨none, nofun, rfl⟩
    | some v =>
      obtain ⟨hv, hne⟩ := Object.given?_eq_some_iff.mp hgiven
      obtain ⟨a, hfits, rfl⟩ := (h v hv).resolve_left hne
      refine ⟨some a, ?_, rfl⟩
      rintro _ ⟨⟩
      exact hfits

/-! ### Checks -/

/-- Where a reader of some fields reads something the checks accept whatever stands under
their names. -/
def Guarded {α : Type} (checks : List Check) (read : Object → Except Mismatch α) : Prop :=
  ∀ m a, read m = .ok a → ∀ c ∈ checks, ∀ v, m.get? c.name = some v → c.accept v = .ok ()

namespace Guarded

variable {α β : Type} {checks : List Check}

theorem required {next : β → Object → Except Mismatch α} (f : Field β)
    (h : ∀ b, Guarded checks (next b)) :
    Guarded (f.must :: checks) fun m => f.required m >>= fun b => next b m := by
  intro m a hread
  obtain ⟨b, hb, hnext⟩ := Json.bind_eq_ok_iff.mp hread
  refine List.forall_mem_cons.mpr ⟨fun v hv => ?_, h b m a hnext⟩
  obtain ⟨w, hw, hvalue⟩ := Field.required_eq_ok_iff_get.mp hb
  obtain rfl : v = w := Option.some.inj (hv.symm.trans hw)
  exact Json.map_eq_ok_iff.mpr ⟨b, hvalue, rfl⟩

theorem optional {next : Option β → Object → Except Mismatch α} (f : Field β)
    (h : ∀ o, Guarded checks (next o)) :
    Guarded (f.may :: checks) fun m => f.optional m >>= fun o => next o m := by
  intro m a hread
  obtain ⟨o, ho, hnext⟩ := Json.bind_eq_ok_iff.mp hread
  refine List.forall_mem_cons.mpr ⟨fun v hv => ?_, h o m a hnext⟩
  have hname : m.get? f.name = some v := hv
  unfold Field.optional at ho
  rw [hname] at ho
  cases v with
  | null => rfl
  | _ =>
    obtain ⟨b, hvalue, -⟩ := Json.map_eq_ok_iff.mp ho
    exact Json.map_eq_ok_iff.mpr ⟨b, hvalue, rfl⟩

theorem done {read : Object → Except Mismatch α} : Guarded [] read :=
  fun _ _ _ => nofun

end Guarded

/-- The checks of a record do not decide whether it is read. -/
theorem Record.ofObject_eq_ok_iff_build {α : Type} {r : Record α} {m : Object} {a : α}
    (hguarded : Guarded r.checks r.build) (hm : m.Distinct) :
    r.ofObject m = .ok a ↔ r.build m = .ok a := by
  rw [ofObject_eq_ok_iff]
  refine ⟨And.right, fun hbuild => ⟨?_, hbuild⟩⟩
  rw [checkMembers_eq_ok_iff]
  intro e he c hc
  have hname : c.name = e.1 := by simpa using List.find?_some hc
  have hvalue : m.get? c.name = some e.2 := by
    rw [hname]
    exact (Object.get?_eq_some_iff hm).mpr he
  exact hguarded m a hbuild c (List.mem_of_find?_eq_some hc) e.2 hvalue

end Event
end SignedHooks
