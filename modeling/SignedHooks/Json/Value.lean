/-
# JSON values

A JSON value as it is held: integers of 64 bits, signed or unsigned, are
exact, and all other numbers are doubles; an object holds its members in the
order of their keys, each key once.

Key definitions: `Json.Number`, `Json.Value`, `Json.Object`, `Json.Object.get?`,
`Json.Object.insert`, `Json.Object.ofMembers`.
Key theorems: `Json.Object.get?_insert`.
-/
import SignedHooks.Decimal.Binary64

namespace SignedHooks
namespace Json

/-- A number. -/
inductive Number where
  /-- An integer between -2^63 and 2^64 - 1. -/
  | integer (n : Int)
  /-- Any other number. -/
  | double (x : Binary64)
  deriving DecidableEq, Repr

/-- A value. -/
inductive Value where
  /-- Nothing. -/
  | null
  /-- A truth value. -/
  | boolean (b : Bool)
  /-- A number. -/
  | number (n : Number)
  /-- A text. -/
  | text (s : String)
  /-- A list. -/
  | array (items : List Value)
  /-- Members, each a key with its value. -/
  | object (members : List (String × Value))
  deriving Repr

instance : Inhabited Value := ⟨.null⟩

/-- The text, if the value is one. -/
def Value.text? : Value → Option String
  | .text s => some s
  | _ => none

/-- The members of an object. -/
abbrev Object := List (String × Value)

namespace Object

/-- The value of a key. -/
def get? (m : Object) (key : String) : Option Value :=
  (m.find? fun e => e.1 == key).map (·.2)

/-- The members with the value of `key` set, at the place of its key. -/
def insert (key : String) (value : Value) : Object → Object
  | [] => [(key, value)]
  | e :: rest =>
    if key = e.1 then (key, value) :: rest
    else if key < e.1 then (key, value) :: e :: rest
    else e :: insert key value rest

/-- The object that some members say: of several with one key the last counts. -/
def ofMembers (members : List (String × Value)) : Object :=
  members.foldl (fun m e => insert e.1 e.2 m) []

/-- The members without that of `key`. -/
def without (m : Object) (key : String) : Object :=
  m.filter fun e => e.1 != key

/-- What a key has after a value was set is that value, if it is the key that
was set, and else what it had before. -/
theorem get?_insert (key other : String) (value : Value) : ∀ m : Object,
    get? (insert key value m) other = if other = key then some value else get? m other
  | [] => by
    by_cases h : other = key
    · simp [insert, get?, h]
    · simp [insert, get?, h, Ne.symm h]
  | e :: rest => by
    have ih := get?_insert key other value rest
    unfold insert
    by_cases hk : key = e.1
    · by_cases h : other = key
      · simp [get?, hk, h]
      · have : e.1 ≠ other := fun he => h (by rw [hk, he])
        simp [get?, hk, this, this.symm]
    · by_cases hlt : key < e.1
      · by_cases h : other = key
        · simp [get?, hk, hlt, h]
        · simp [get?, hk, hlt, h, Ne.symm h]
      · simp only [hk, hlt, if_false]
        by_cases he : e.1 = other
        · have : other ≠ key := fun h => hk (by rw [← h, ← he])
          simp [get?, he, this]
        · have hb : (e.1 == other) = false := by simp [he]
          simp only [get?, List.find?_cons, hb] at ih ⊢
          exact ih

end Object
end Json
end SignedHooks
