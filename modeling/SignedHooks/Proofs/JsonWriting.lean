/-
# What is written is read back

The text that is written for a value is one of those that mean it. The characters of
a text stand for themselves or behind a backslash (`Json.spellsText_writeText`), an
integer is written without zeros in front (`Json.spellsNumber_toString`), and between
the parts of a list or an object stands a comma. So by induction on the depth, if all
numbers are integers of 64 bits, the text spells a tree that means the value
(`Json.Value.comp_write`); its members may stand in any order, and what is meant has
them in order. With that an event that is written within the bounds is read back as
it was (`Event.read_render`).

Delivered with the signature of a signer that has the secret of the verifier, it is
what the verifier makes of the delivery (`Verifier.event_of_rendered`).

Key definitions: `Json.IsExact`, `Json.Value.depth`, `Event.Plain`.
Key theorems: `Json.spellsText_writeText`, `Json.spellsNumber_toString`,
`Json.Value.comp_write`, `Event.read_render`, `Event.ordered_of_read`,
`Verifier.event_of_rendered`.
-/
import SignedHooks.Json.Printer
import SignedHooks.Proofs.EventReading
import SignedHooks.Proofs.JsonOrder

namespace SignedHooks
namespace Json

/-! ### Texts -/

theorem isHexDigit_digit (n : Fin 16) : IsHexDigit (Hex.digit n) n :=
  digitValue?_eq_some_iff.mp (Hex.digitValue?_digit n)

/-- The unit of a control character, as it is written. -/
theorem spellsUnit_control {n : Nat} (h : n < 32) :
    SpellsUnit ['0', '0', Hex.digit (n / 16), Hex.digit (n % 16)] n := by
  have hzero : IsHexDigit '0' 0 := isHexDigit_digit 0
  have hhigh := isHexDigit_digit ⟨n / 16, by omega⟩
  have hlow := isHexDigit_digit ⟨n % 16, by omega⟩
  have hvalue : ((0 * 16 + 0) * 16 + n / 16) * 16 + n % 16 = n := by omega
  have hspelled := SpellsUnit.mk hzero hzero hhigh hlow
  rwa [hvalue] at hspelled

/-- What is written for a character between quotes means it. -/
theorem Quoted.writeChar {cs s : List Char} (h : Quoted cs s) (c : Char) :
    Quoted (writeChar c ++ cs) (c :: s) := by
  unfold Json.writeChar
  split_ifs with hquote hslash hb hf hn hr ht hcontrol
  · exact .letter (by rw [hquote]; decide) h
  · exact .letter (by rw [hslash]; decide) h
  · exact .letter (by rw [hb]; decide) h
  · exact .letter (by rw [hf]; decide) h
  · exact .letter (by rw [hn]; decide) h
  · exact .letter (by rw [hr]; decide) h
  · exact .letter (by rw [ht]; decide) h
  · have hlt : c.toNat < 32 := hcontrol
    exact .unit (spellsUnit_control hlt) h
  · exact .plain (not_lt.mp hcontrol) hquote hslash h

theorem quoted_flatMap_writeChar : ∀ s : List Char, Quoted (s.flatMap writeChar) s
  | [] => .nil
  | c :: s => by
    rw [List.flatMap_cons]
    exact (quoted_flatMap_writeChar s).writeChar c

/-- What is written for a text means it. -/
theorem spellsText_writeText (s : String) : SpellsText (writeText s) s :=
  .mk (quoted_flatMap_writeChar s.toList)

/-! ### Numbers -/

/-- The number is an integer of 64 bits, signed or unsigned. -/
def IsExact : Number → Prop
  | .integer n => -2 ^ 63 ≤ n ∧ n < 2 ^ 64
  | .double _ => False

/-- An integer as it is written. -/
def Numeral.ofInt (n : Int) : Numeral :=
  ⟨n < 0, Decimal.digitsOf n.natAbs, none, none⟩

/-- Only the digits of zero begin with a zero. -/
theorem head?_digitsOf {n : Nat} (h : (Decimal.digitsOf n).head? = some '0') : n = 0 := by
  unfold Decimal.digitsOf at h
  induction n using Nat.strong_induction_on with
  | _ n ih =>
    by_cases hlt : n < 10
    · rw [Nat.toDigits_of_lt_base hlt, List.head?_singleton] at h
      exact Nat.digitChar_eq_zero.mp (Option.some.inj h)
    · rw [Nat.toDigits_of_base_le (by decide) (not_lt.mp hlt),
        List.head?_append_of_ne_nil _ Nat.toDigits_ne_nil] at h
      have hzero : n / 10 = 0 := ih (n / 10) (by omega) h
      omega

theorem isWhole_digitsOf (n : Nat) : IsWhole (Decimal.digitsOf n) := by
  refine ⟨Decimal.digits_digitsOf n, fun hhead => ?_⟩
  rw [head?_digitsOf hhead]
  rfl

/-- What is written for an integer spells it. -/
theorem spellsNumber_toString (n : Int) : SpellsNumber (toString n).toList (.ofInt n) := by
  have hchars : (toString n).toList =
      sign (decide (n < 0)) ++ (Decimal.digitsOf n.natAbs ++ ([] ++ [])) := by
    rw [Int.toString_eq_repr, Int.repr_eq_if]
    by_cases hneg : n < 0
    · have habs : (-n).toNat = n.natAbs := by omega
      rw [if_neg (not_le.mpr hneg), habs, String.toList_append, Nat.toList_repr]
      simp [sign, hneg, Decimal.digitsOf]
    · have habs : n.toNat = n.natAbs := by omega
      rw [if_pos (not_lt.mp hneg), habs, Nat.toList_repr]
      simp [sign, hneg, Decimal.digitsOf]
  rw [hchars]
  exact .mk (isWhole_digitsOf _) .none .none

namespace Numeral

theorem integer_ofInt (n : Int) : (ofInt n).integer = n := by
  unfold integer ofInt
  rw [Decimal.ofDigits_digitsOf]
  by_cases hneg : n < 0
  · rw [if_pos (decide_eq_true hneg)]
    omega
  · rw [if_neg (by simpa using hneg)]
    omega

theorem exact_ofInt {n : Int} (hlow : -2 ^ 63 ≤ n) (hhigh : n < 2 ^ 64) : (ofInt n).Exact := by
  refine ⟨rfl, rfl, ?_, ?_, fun ⟨hneg, hzero⟩ => ?_⟩
  · rw [integer_ofInt]
    exact hlow
  · rw [integer_ofInt]
    exact hhigh
  · rw [integer_ofInt] at hzero
    have hlt : n < 0 := of_decide_eq_true hneg
    omega

theorem number?_ofInt {n : Int} (h : (ofInt n).Exact) :
    (ofInt n).number? = some (.integer n) := by
  unfold number?
  rw [if_pos h, integer_ofInt]

end Numeral

/-! ### Lists and objects -/

section

variable {α : Type} {R : List Char → α → Prop}

/-- Parts that are written with a comma between them. -/
theorem listed_writeItems {f : Value → α} : ∀ {v : Value} {rest : List Value},
    (∀ w ∈ v :: rest, R w.write (f w)) → Listed R (writeItems (v :: rest)) ((v :: rest).map f)
  | v, [], h => by
    have hone := Listed.one Blanks.nil (h v List.mem_cons_self) Blanks.nil
    simpa [writeItems] using hone
  | v, w :: rest, h => by
    obtain ⟨hv, hrest⟩ := List.forall_mem_cons.mp h
    have hcons := Listed.cons Blanks.nil hv Blanks.nil (listed_writeItems hrest)
    rw [writeItems_cons_cons]
    simpa using hcons

theorem elements_writeItems {f : Value → α} {items : List Value}
    (h : ∀ v ∈ items, R v.write (f v)) : Elements R (writeItems items) (items.map f) := by
  cases items with
  | nil => exact .nil Blanks.nil
  | cons v rest => exact .listed (listed_writeItems h)

/-- A key and a value that are written with a colon between them. -/
theorem member_writeText (key : String) {cs : List Char} {a : α} (h : R cs a) :
    Member R (writeText key ++ [':'] ++ cs) (key, a) := by
  have hmember := Member.mk (spellsText_writeText key) Blanks.nil Blanks.nil h
  simpa using hmember

theorem listed_writeMembers {f : Value → α} : ∀ {e : String × Value} {rest : List (String × Value)},
    (∀ e' ∈ e :: rest, R e'.2.write (f e'.2)) →
    Listed (Member R) (writeMembers (e :: rest)) ((e :: rest).map fun e => (e.1, f e.2))
  | (k, v), [], h => by
    have hmember := member_writeText k (h (k, v) List.mem_cons_self)
    have hone := Listed.one Blanks.nil hmember Blanks.nil
    simpa [writeMembers] using hone
  | (k, v), e :: rest, h => by
    obtain ⟨hv, hrest⟩ := List.forall_mem_cons.mp h
    have hcons := Listed.cons Blanks.nil (member_writeText k hv) Blanks.nil
      (listed_writeMembers hrest)
    simpa [writeMembers] using hcons

theorem elements_writeMembers {f : Value → α} {members : List (String × Value)}
    (h : ∀ e ∈ members, R e.2.write (f e.2)) :
    Elements (Member R) (writeMembers members) (members.map fun e => (e.1, f e.2)) := by
  cases members with
  | nil => exact .nil Blanks.nil
  | cons e rest => exact .listed (listed_writeMembers h)

end

/-! ### Values -/

mutual

/-- How many lists and objects are open at once. -/
def Value.depth : Value → Nat
  | .array items => depthOfItems items + 1
  | .object members => depthOfMembers members + 1
  | _ => 0

/-- How many are open at once within the items of a list. -/
def depthOfItems : List Value → Nat
  | [] => 0
  | v :: rest => max v.depth (depthOfItems rest)

/-- How many are open at once within the members of an object. -/
def depthOfMembers : List (String × Value) → Nat
  | [] => 0
  | (_, v) :: rest => max v.depth (depthOfMembers rest)

end

theorem depthOfItems_le_iff {d : Nat} : ∀ {items : List Value},
    depthOfItems items ≤ d ↔ ∀ v ∈ items, v.depth ≤ d
  | [] => by simp [depthOfItems]
  | v :: rest => by
    rw [depthOfItems, max_le_iff, depthOfItems_le_iff, List.forall_mem_cons]

theorem depthOfMembers_le_iff {d : Nat} : ∀ {members : List (String × Value)},
    depthOfMembers members ≤ d ↔ ∀ e ∈ members, e.2.depth ≤ d
  | [] => by simp [depthOfMembers]
  | (_, v) :: rest => by
    rw [depthOfMembers, max_le_iff, depthOfMembers_le_iff, List.forall_mem_cons]

/-- All numbers of the value are integers of 64 bits. -/
abbrev Value.Exact : Value → Prop :=
  Value.All IsExact fun _ => True

theorem comp_write_array {d : Nat} {items : List Value}
    (h : ∀ v ∈ items, Relation.Comp Spells (Tree.Held d) v.write v.sorted) :
    Relation.Comp Spells (Tree.Held (d + 1)) (Value.array items).write
      (Value.array items).sorted := by
  obtain ⟨trees, htrees, hheld⟩ := elements_comp_iff.mp (elements_writeItems h)
  refine ⟨.array trees, .array htrees, ?_⟩
  rw [Value.sorted_array]
  exact held_array_iff.mpr ⟨_, hheld, rfl⟩

theorem comp_write_object {d : Nat} {members : Object}
    (h : ∀ e ∈ members, Relation.Comp Spells (Tree.Held d) e.2.write e.2.sorted) :
    Relation.Comp Spells (Tree.Held (d + 1)) (Value.object members).write
      (Value.object members).sorted := by
  have helements := elements_writeMembers h
  rw [member_comp] at helements
  obtain ⟨trees, htrees, hheld⟩ := elements_comp_iff.mp helements
  refine ⟨.object trees, .object htrees, ?_⟩
  rw [Value.sorted_object]
  exact held_object_iff.mpr ⟨_, hheld, rfl⟩

/-- What is written for a value with no other numbers than integers of 64 bits means
the value with its keys in order, if no more lists and objects are open at once than
may be. -/
theorem Value.comp_write {d : Nat} {v : Value} (hexact : v.Exact) (hdepth : v.depth ≤ d) :
    Relation.Comp Spells (Tree.Held d) v.write v.sorted := by
  induction hexact generalizing d with
  | null => exact ⟨.null, .null, .of_scalar rfl .null .null⟩
  | @boolean b =>
    cases b with
    | false => exact ⟨.boolean false, .boolean_false, .of_scalar rfl .boolean .boolean⟩
    | true => exact ⟨.boolean true, .boolean_true, .of_scalar rfl .boolean .boolean⟩
  | @number n hn =>
    cases n with
    | integer n =>
      have hexact : (Numeral.ofInt n).Exact := Numeral.exact_ofInt hn.1 hn.2
      have hmeans : (Tree.number (.ofInt n)).Means (.number (.integer n)) :=
        .number (Numeral.number?_ofInt hexact)
      exact ⟨_, .number (spellsNumber_toString n), .of_scalar rfl (.number hexact.finite) hmeans⟩
    | double x => exact hn.elim
  | @text s => exact ⟨.text s, .text (spellsText_writeText s), .of_scalar rfl .text .text⟩
  | @array items _ ih =>
    obtain ⟨d, rfl⟩ := Nat.exists_eq_add_one.mpr (Nat.lt_of_lt_of_le (Nat.succ_pos _) hdepth)
    have hitems := depthOfItems_le_iff.mp (Nat.le_of_succ_le_succ hdepth)
    exact comp_write_array fun v hv => ih v hv (hitems v hv)
  | @object members _ _ ih =>
    obtain ⟨d, rfl⟩ := Nat.exists_eq_add_one.mpr (Nat.lt_of_lt_of_le (Nat.succ_pos _) hdepth)
    have hmembers := depthOfMembers_le_iff.mp (Nat.le_of_succ_le_succ hdepth)
    exact comp_write_object fun e he => ih e he (hmembers e he)

end Json

open Json (Tree Document Value)

/-! ### Events -/

namespace Event

/-- An event as a delivery can say it: its keys are in order on every level, its
numbers are integers of 64 bits, and no more than 127 lists and objects are open at
once. -/
structure Plain (e : Event) : Prop where
  /-- The keys are in order. -/
  ordered : (Value.object e.members).Sorted
  /-- The numbers are integers of 64 bits. -/
  exact : (Value.object e.members).Exact
  /-- At most 127 lists and objects are open at once. -/
  depth_le : (Value.object e.members).depth ≤ 127

/-- Every event that is read has its keys in order. -/
theorem ordered_of_read {text : String} {e : Event} (h : read text = .ok e) :
    (Value.object e.members).Sorted := by
  obtain ⟨members, _, hmeans⟩ := read_eq_ok_iff.mp h
  exact hmeans.sorted

/-- The text of an event says the event. -/
theorem read_render {e : Event} (h : e.Plain) : read e.render = .ok e := by
  obtain ⟨t, ht, hdepth, hfinite, hmeans⟩ := Value.comp_write h.exact h.depth_le
  rw [h.ordered.sorted_eq] at hmeans
  have htext : e.render.toList = (Value.object e.members).write := String.toList_ofList
  cases hmeans with
  | @object members ms _ hms hlast =>
    have hdocument : Document e.render.toList (.object members) := by
      have hbare := Document.mk Json.Blanks.nil ht Json.Blanks.nil
      rwa [List.nil_append, List.append_nil, ← htext] at hbare
    exact read_eq_ok_iff.mpr ⟨members, ⟨hdocument, hdepth, hfinite⟩, .object hms hlast⟩

end Event

namespace Verifier

/-- **Serialized events.** The text of an event with no other numbers than integers of
64 bits, in which no more than 127 lists and objects are open at once, is an event
again once it comes with the signature of a signer that has the secret of the
verifier, signed near enough to its clock: it is the event that was serialized, so it
is serialized to the same text. -/
theorem event_of_rendered {e : Event} {s : Signer} {millis : Int} {h : SignedHeaders}
    {eventType callId : Option String} {c : Call} (he : e.Plain)
    (hsigned : s.Signed e.render millis h) (hsecret : c.secret = s.secret)
    (hbody : c.body.raw = Utf8.encode e.render)
    (hcarried : (h.label eventType callId).Carried c.headers)
    (hnear : Near c.tolerance c.now.millis millis) :
    c.event = .ok e ∧ ∀ e', c.event = .ok e' → e'.render = e.render := by
  have hok : c.verify = .ok () := by
    rw [(verify_signed hsigned hsecret hbody hcarried).1, if_pos hnear]
  have hevent : c.event = .ok e := by
    rw [Call.event_of_verify hok (Body.decode_eq_ok_iff.mpr hbody), Event.read_render he]
    rfl
  refine ⟨hevent, fun e' he' => ?_⟩
  cases hevent.symm.trans he'
  rfl

/-- An event with an empty key, a key that is escaped, the least and the greatest
integer, a character outside the first plane, and a list and an object that are
empty. -/
def nestedEvent : Event :=
  ⟨[("", .object []), ("a\"\\\x01", .array [.number (.integer (-9223372036854775808)),
    .number (.integer 18446744073709551615), .text "\n\t𝄞/", .array [], .null, .boolean true])]⟩

theorem plain_nestedEvent : nestedEvent.Plain where
  ordered := by
    have hkeys : Json.Object.Sorted nestedEvent.members := by decide
    exact .object hkeys (by simp [nestedEvent])
  exact := by
    simp [nestedEvent, Json.IsExact]
  depth_le := by decide

/-- The event, signed and delivered at the epoch. -/
theorem event_of_rendered_nestedEvent : (Call.mk (ofSecret "whsec") ⟨false, 0, 0⟩
    (.text nestedEvent.render) (((Signer.mk "whsec").signAt 0 nestedEvent.render).label
      (some "test") none).toHeaders .none).event = .ok nestedEvent :=
  (event_of_rendered plain_nestedEvent (.given (by decide)) rfl rfl .pairs
    (.inr (by decide))).1

end Verifier
end SignedHooks
