/-
# Values with their keys in order

An object holds its members in the order of their keys, on every level of a value
(`Json.Value.Sorted`). Members that are put together in another order are brought
into this one by `Json.Value.sorted`, which puts every object of a value in order.
This changes nothing of a value that is in order (`Json.Value.Sorted.sorted_eq`),
and of members whose keys are distinct it keeps every one
(`Json.Object.mem_ofMembers`).

What is read is in order, for of the members that a text says an object is made
(`Json.Tree.Means.sorted`).

Key definitions: `Json.Object.Distinct`, `Json.Value.All`, `Json.Value.Sorted`,
`Json.Value.Distinct`, `Json.Value.sorted`.
Key theorems: `Json.Object.get?_eq_some_iff`, `Json.Object.mem_ofMembers`,
`Json.Object.Sorted.ofMembers_eq`, `Json.Value.Sorted.sorted_eq`,
`Json.Tree.Means.sorted`.
-/
import SignedHooks.Proofs.JsonGrammar

namespace SignedHooks
namespace Json

/-! ### Keys that stand once -/

namespace Object

/-- No key stands twice. -/
def Distinct (m : Object) : Prop :=
  (m.map Prod.fst).Nodup

theorem distinct_cons_iff {e : String × Value} {m : Object} :
    Distinct (e :: m) ↔ (∀ f ∈ m, f.1 ≠ e.1) ∧ Distinct m := by
  unfold Distinct
  rw [List.map_cons, List.nodup_cons, List.mem_map]
  simp only [not_exists, not_and, ne_eq]

theorem Sorted.distinct : ∀ {m : Object}, Sorted m → Distinct m
  | [], _ => List.nodup_nil
  | e :: m, h => by
    obtain ⟨he, hm⟩ := List.pairwise_cons.mp h
    exact distinct_cons_iff.mpr ⟨fun f hf => (he f hf).ne', Sorted.distinct hm⟩

theorem Distinct.sublist {m m' : Object} (h : Distinct m) (hsub : m'.Sublist m) : Distinct m' :=
  List.Nodup.sublist (hsub.map Prod.fst) h

/-- Members behind others, with no key of theirs. -/
theorem distinct_append {m m' : Object} (h : Distinct m) (h' : Distinct m')
    (hne : ∀ e ∈ m, ∀ f ∈ m', e.1 ≠ f.1) : Distinct (m ++ m') := by
  unfold Distinct
  rw [List.map_append, List.nodup_append]
  refine ⟨h, h', fun a ha b hb => ?_⟩
  obtain ⟨e, he, rfl⟩ := List.mem_map.mp ha
  obtain ⟨f, hf, rfl⟩ := List.mem_map.mp hb
  exact hne e he f hf

theorem mem_of_get? {key : String} {value : Value} : ∀ {m : Object},
    get? m key = some value → (key, value) ∈ m
  | [], h => by cases h
  | e :: m, h => by
    rw [get?_cons] at h
    split_ifs at h with hkey
    · cases h
      rw [← hkey]
      exact List.mem_cons_self
    · exact List.mem_cons_of_mem _ (mem_of_get? h)

/-- Where no key stands twice the value of a key is that of its member. -/
theorem get?_eq_some_iff {m : Object} (h : Distinct m) {key : String} {value : Value} :
    get? m key = some value ↔ (key, value) ∈ m := by
  refine ⟨mem_of_get?, ?_⟩
  induction m with
  | nil => exact nofun
  | cons e m ih =>
    obtain ⟨he, hm⟩ := distinct_cons_iff.mp h
    intro hmem
    rw [get?_cons]
    rcases List.mem_cons.mp hmem with rfl | hmem
    · exact if_pos rfl
    · rw [if_neg (he _ hmem).symm]
      exact ih hm hmem

/-- Objects with the same members, of which none stands twice, have the same values. -/
theorem get?_congr {m m' : Object} (h : Distinct m) (h' : Distinct m')
    (hmem : ∀ e, e ∈ m ↔ e ∈ m') (key : String) : get? m key = get? m' key := by
  refine Option.ext fun value => ?_
  rw [get?_eq_some_iff h, get?_eq_some_iff h', hmem]

/-! ### Members in order -/

theorem sorted_ofMembers (members : List (String × Value)) : Sorted (ofMembers members) :=
  (lastWins_ofMembers members).sorted

theorem Distinct.reverse {m : Object} (h : Distinct m) : Distinct m.reverse := by
  unfold Distinct
  rw [List.map_reverse, List.nodup_reverse]
  exact h

/-- Where no key stands twice the order does not change the value of a key. -/
theorem get?_ofMembers {m : Object} (h : Distinct m) (key : String) :
    get? (ofMembers m) key = get? m key := by
  rw [(lastWins_ofMembers m).get?_eq]
  exact get?_congr h.reverse h (fun _ => List.mem_reverse) key

/-- Where no key stands twice every member is kept, and there is no other. -/
theorem mem_ofMembers {m : Object} (h : Distinct m) {e : String × Value} :
    e ∈ ofMembers m ↔ e ∈ m := by
  rw [← get?_eq_some_iff h, ← get?_ofMembers h]
  exact (get?_eq_some_iff (sorted_ofMembers m).distinct).symm

/-- What is in order stays as it is. -/
theorem Sorted.ofMembers_eq {m : Object} (h : Sorted m) : ofMembers m = m :=
  (sorted_ofMembers m).ext h (get?_ofMembers h.distinct)

/-- Two objects in order with the same members are the same. -/
theorem Sorted.eq_of_mem_iff {m m' : Object} (h : Sorted m) (h' : Sorted m')
    (hmem : ∀ e, e ∈ m ↔ e ∈ m') : m = m' :=
  h.ext h' (get?_congr h.distinct h'.distinct hmem)

end Object

/-- Each member that is kept is one of those that were there. -/
theorem LastWins.mem {members : List (String × Value)} {m : Object} (h : LastWins members m)
    {e : String × Value} (he : e ∈ m) : e ∈ members := by
  have hget : m.get? e.1 = some e.2 :=
    (Object.get?_eq_some_iff (Object.Sorted.distinct h.sorted)).mpr he
  rw [h.get?_eq] at hget
  exact List.mem_reverse.mp (Object.mem_of_get? hget)

/-! ### All numbers and all objects of a value -/

/-- All numbers of the value are `N` and all its objects are `O`. -/
inductive Value.All (N : Number → Prop) (O : Object → Prop) : Value → Prop where
  /-- There is no number and no object. -/
  | null : Value.All N O .null
  /-- There is no number and no object. -/
  | boolean {b : Bool} : Value.All N O (.boolean b)
  /-- The number is `N`. -/
  | number {n : Number} : N n → Value.All N O (.number n)
  /-- There is no number and no object. -/
  | text {s : String} : Value.All N O (.text s)
  /-- It is so of all items. -/
  | array {items : List Value} : (∀ v ∈ items, v.All N O) → Value.All N O (.array items)
  /-- The object is `O`, and it is so of all its values. -/
  | object {members : Object} : O members → (∀ e ∈ members, e.2.All N O) →
      Value.All N O (.object members)

/-- The keys stand in order on every level. -/
abbrev Value.Sorted : Value → Prop :=
  Value.All (fun _ => True) Object.Sorted

/-- No key stands twice in an object of any level. -/
abbrev Value.Distinct : Value → Prop :=
  Value.All (fun _ => True) Object.Distinct

namespace Value

variable {N N' : Number → Prop} {O O' : Object → Prop}

theorem All.mono (hN : ∀ n, N n → N' n) (hO : ∀ m, O m → O' m) {v : Value} (h : v.All N O) :
    v.All N' O' := by
  induction h with
  | null => exact .null
  | boolean => exact .boolean
  | number hn => exact .number (hN _ hn)
  | text => exact .text
  | array _ ih => exact .array ih
  | object hm _ ih => exact .object (hO _ hm) ih

theorem Sorted.distinct {v : Value} (h : v.Sorted) : v.Distinct :=
  h.mono (fun _ _ => trivial) fun _ hm => hm.distinct

@[simp] theorem all_null : Value.null.All N O :=
  .null

@[simp] theorem all_boolean {b : Bool} : (Value.boolean b).All N O :=
  .boolean

@[simp] theorem all_text {s : String} : (Value.text s).All N O :=
  .text

@[simp] theorem all_number_iff {n : Number} : (Value.number n).All N O ↔ N n := by
  constructor
  · intro h
    cases h with
    | number h => exact h
  · exact .number

@[simp] theorem all_array_iff {items : List Value} :
    (Value.array items).All N O ↔ ∀ v ∈ items, v.All N O := by
  constructor
  · intro h
    cases h with
    | array h => exact h
  · exact .array

@[simp] theorem all_object_iff {members : Object} :
    (Value.object members).All N O ↔ O members ∧ ∀ e ∈ members, e.2.All N O := by
  constructor
  · intro h
    cases h with
    | object hm h => exact ⟨hm, h⟩
  · intro h
    exact .object h.1 h.2

end Value

/-! ### Putting a value in order -/

mutual

/-- The value with the keys of every object in order. -/
def Value.sorted : Value → Value
  | .null => .null
  | .boolean b => .boolean b
  | .number n => .number n
  | .text s => .text s
  | .array items => .array (sortedItems items)
  | .object members => .object (Object.ofMembers (sortedMembers members))

/-- The items of a list, each in order. -/
def sortedItems : List Value → List Value
  | [] => []
  | v :: rest => v.sorted :: sortedItems rest

/-- The members of an object, with each value in order. -/
def sortedMembers : List (String × Value) → List (String × Value)
  | [] => []
  | (k, v) :: rest => (k, v.sorted) :: sortedMembers rest

end

theorem sortedItems_eq_map : ∀ items : List Value, sortedItems items = items.map Value.sorted
  | [] => rfl
  | v :: rest => by rw [sortedItems, sortedItems_eq_map rest, List.map_cons]

theorem sortedMembers_eq_map : ∀ members : List (String × Value),
    sortedMembers members = members.map fun e => (e.1, e.2.sorted)
  | [] => rfl
  | (k, v) :: rest => by rw [sortedMembers, sortedMembers_eq_map rest, List.map_cons]

theorem Value.sorted_array (items : List Value) :
    (Value.array items).sorted = .array (items.map Value.sorted) := by
  rw [Value.sorted, sortedItems_eq_map]

theorem Value.sorted_object (members : Object) : (Value.object members).sorted =
    .object (Object.ofMembers (members.map fun e => (e.1, e.2.sorted))) := by
  rw [Value.sorted, sortedMembers_eq_map]

/-- Members whose values stay as they are stay as they are. -/
theorem map_sorted_eq_self {members : List (String × Value)}
    (h : ∀ e ∈ members, e.2.sorted = e.2) :
    (members.map fun e => (e.1, e.2.sorted)) = members :=
  (List.map_congr_left fun e he => congrArg (Prod.mk e.1) (h e he)).trans members.map_id

/-- A value whose keys are in order stays as it is. -/
theorem Value.Sorted.sorted_eq {v : Value} (h : v.Sorted) : v.sorted = v := by
  induction h with
  | null => rfl
  | boolean => rfl
  | number => rfl
  | text => rfl
  | @array items _ ih =>
    have hitems : items.map Value.sorted = items :=
      (List.map_congr_left ih).trans items.map_id
    rw [sorted_array, hitems]
  | @object members hm _ ih => rw [sorted_object, map_sorted_eq_self ih, hm.ofMembers_eq]

/-- Of members whose values are in order only the keys are put in order. -/
theorem Value.sorted_object_of_forall {members : Object} (h : ∀ e ∈ members, e.2.Sorted) :
    (Value.object members).sorted = .object (Object.ofMembers members) := by
  rw [sorted_object, map_sorted_eq_self fun e he => (h e he).sorted_eq]

mutual

/-- What a tree means has its keys in order. -/
theorem Tree.Means.sorted : ∀ {t : Tree} {v : Value}, t.Means v → v.Sorted
  | _, _, .null => .null
  | _, _, .boolean => .boolean
  | _, _, .number _ => .number trivial
  | _, _, .text => .text
  | _, _, .array hvalues => .array (sorted_of_means hvalues)
  | _, _, .object hms hlast => .object hlast.sorted fun e he =>
      sorted_of_keyed hms e (hlast.mem he)

theorem sorted_of_means : ∀ {items : List Tree} {values : List Value},
    List.Forall₂ Tree.Means items values → ∀ v ∈ values, v.Sorted
  | _, _, .nil => nofun
  | _, _, .cons h hs => List.forall_mem_cons.mpr ⟨h.sorted, sorted_of_means hs⟩

theorem sorted_of_keyed : ∀ {members : List (String × Tree)} {ms : List (String × Value)},
    List.Forall₂ (Keyed Tree.Means) members ms → ∀ e ∈ ms, e.2.Sorted
  | _, _, .nil => nofun
  | _, _, .cons (.mk h) hs => List.forall_mem_cons.mpr ⟨h.sorted, sorted_of_keyed hs⟩

end

end Json
end SignedHooks
