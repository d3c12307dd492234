/-
# The grammar of JSON

What a text in JSON is, said as productions and not as a reader: blanks, texts
with their escapes, numbers, and lists and objects whose parts are separated by
commas, with blanks around each. A production relates the characters to what
they spell, a tree that still holds its numbers as they were written and the
members of an object in their order, with keys that are repeated
(`Json.Spells`, `Json.Document`).

On trees is said what a reader may refuse, how many lists and objects are open
at once (`Json.Tree.depth`) and that every number has a finite double
(`Json.Tree.Finite`), and which value a tree means (`Json.Tree.Means`): of the
members with one key the last counts, on every level (`Json.LastWins`).

Key definitions: `Json.Quoted`, `Json.Numeral`, `Json.SpellsNumber`, `Json.Elements`,
`Json.Member`, `Json.Tree`, `Json.Spells`, `Json.Document`, `Json.Tree.depth`,
`Json.Tree.Finite`, `Json.LastWins`, `Json.Tree.Means`.
Key theorems: `Json.elements_comp_iff`, `Json.Spells.head`, `Json.lastWins_ofMembers`,
`Json.LastWins.unique`.
-/
import Mathlib.Data.List.Forall2
import Mathlib.Data.String.Basic
import Mathlib.Logic.Relation
import SignedHooks.Json.Reader
import SignedHooks.Proofs.Decimal
import SignedHooks.Proofs.RoundedDouble

namespace SignedHooks
namespace Json

/-- Nothing but blanks: spaces, tabs and the two characters that end a line. -/
def Blanks (cs : List Char) : Prop :=
  ∀ c ∈ cs, c = ' ' ∨ c = '\t' ∨ c = '\n' ∨ c = '\r'

/-! ### Texts -/

/-- The letters that may stand behind a backslash, and the characters that they
stand for. -/
def escapes : List (Char × Char) :=
  [('"', '"'), ('\\', '\\'), ('/', '/'), ('b', '\x08'), ('f', '\x0c'), ('n', '\n'), ('r', '\r'),
    ('t', '\t')]

/-- `c` is the hexadecimal digit of `n`, lowercase or uppercase. -/
def IsHexDigit (c : Char) (n : Nat) : Prop :=
  n < 16 ∧ (c = Nat.digitChar n ∨ c = (Nat.digitChar n).toUpper)

/-- Four hexadecimal digits spell a UTF-16 unit. -/
inductive SpellsUnit : List Char → Nat → Prop where
  /-- The first digit is the most significant one. -/
  | mk {a b c d : Char} {i j k l : Nat} : IsHexDigit a i → IsHexDigit b j → IsHexDigit c k →
      IsHexDigit d l → SpellsUnit [a, b, c, d] (((i * 16 + j) * 16 + k) * 16 + l)

/-- The characters that stand between two quotes, and those that they mean. -/
inductive Quoted : List Char → List Char → Prop where
  /-- Nothing. -/
  | nil : Quoted [] []
  /-- A character that means itself. Control characters do not, nor do the quote
  and the backslash. -/
  | plain {c : Char} {cs s : List Char} : ' ' ≤ c → c ≠ '"' → c ≠ '\\' → Quoted cs s →
      Quoted (c :: cs) (c :: s)
  /-- A letter behind a backslash. -/
  | letter {l c : Char} {cs s : List Char} : (l, c) ∈ escapes → Quoted cs s →
      Quoted ('\\' :: l :: cs) (c :: s)
  /-- A unit that is the number of a character, so no half of a pair. -/
  | unit {c : Char} {ds cs s : List Char} : SpellsUnit ds c.toNat → Quoted cs s →
      Quoted ('\\' :: 'u' :: ds ++ cs) (c :: s)
  /-- The two halves of a pair. -/
  | pair {c : Char} {i j : Nat} {hs ls cs s : List Char} : i < 0x400 → j < 0x400 →
      SpellsUnit hs (0xD800 + i) → SpellsUnit ls (0xDC00 + j) →
      c.toNat = 0x10000 + (i * 0x400 + j) → Quoted cs s →
      Quoted ('\\' :: 'u' :: hs ++ ('\\' :: 'u' :: ls ++ cs)) (c :: s)

/-- A text between two quotes. -/
inductive SpellsText : List Char → String → Prop where
  /-- What stands between the quotes means the characters of the text. -/
  | mk {cs : List Char} {s : String} : Quoted cs s.toList → SpellsText ('"' :: cs ++ ['"']) s

/-! ### Numbers -/

/-- A number as it is written. -/
structure Numeral where
  /-- There is a minus in front. -/
  negative : Bool
  /-- The digits before the point. -/
  whole : List Char
  /-- The digits behind the point, if there is one. -/
  fraction : Option (List Char)
  /-- The power of ten, if there is one. -/
  exponent : Option Int

/-- The digits before the point: no zero stands in front of another digit. -/
def IsWhole (ds : List Char) : Prop :=
  Decimal.Digits ds ∧ (ds.head? = some '0' → ds = ['0'])

/-- A point and at least one digit, or nothing. -/
inductive SpellsFraction : List Char → Option (List Char) → Prop where
  /-- There is no point. -/
  | none : SpellsFraction [] none
  /-- The digits stand behind the point. -/
  | some {ds : List Char} : Decimal.Digits ds → SpellsFraction ('.' :: ds) (some ds)

/-- The letter `e` and an integer, or nothing. -/
inductive SpellsExponent : List Char → Option Int → Prop where
  /-- There is no power. -/
  | none : SpellsExponent [] none
  /-- The power stands behind the letter. -/
  | some {e : Char} {cs : List Char} {n : Int} : e = 'e' ∨ e = 'E' → Decimal.Spells cs n →
      SpellsExponent (e :: cs) (some n)

/-- The minus, if there is one. -/
def sign (negative : Bool) : List Char :=
  if negative then ['-'] else []

/-- The characters of a number. -/
inductive SpellsNumber : List Char → Numeral → Prop where
  /-- The parts stand one behind another. -/
  | mk {negative : Bool} {whole f e : List Char} {fraction : Option (List Char)}
      {exponent : Option Int} : IsWhole whole → SpellsFraction f fraction →
      SpellsExponent e exponent →
      SpellsNumber (sign negative ++ (whole ++ (f ++ e))) ⟨negative, whole, fraction, exponent⟩

/-- How many digits a number can go on with before it has more than 64 bits. -/
def kept (n : Nat) (ds : List Char) : Nat :=
  Nat.findGreatest (fun k => Nat.ofDigitChars 10 (ds.take k) n < 2 ^ 64) ds.length

/-- The number that goes on with these digits. -/
def lead (n : Nat) (ds : List Char) : Nat :=
  Nat.ofDigitChars 10 (ds.take (kept n ds)) n

/-- The greatest power of ten that is read to its end. -/
def powerLimit : Int := 2147483647

/-- What a significand is held as whose last digit has the power of ten `places`, behind
which stands the power `exponent`, if it has a finite double. A power of more than 31
bits is not read: with a minus the number is zero. -/
def scaled? (negative : Bool) (significand : Nat) (places exponent : Int) : Option Number :=
  if exponent < -powerLimit then some (.double (.zero negative))
  else if powerLimit < exponent then
    if significand = 0 then some (.double (.zero negative)) else none
  else (Binary64.ofParts significand (places + exponent)).map (signed negative)

namespace Numeral

/-- All digits, as one integer. -/
def digits (n : Numeral) : Nat :=
  Decimal.ofDigits (n.whole ++ n.fraction.getD [])

/-- The power of ten of the last digit. -/
def power (n : Numeral) : Int :=
  n.exponent.getD 0 - (n.fraction.getD []).length

/-- The rational number without its sign. -/
def magnitude (n : Numeral) : ℚ :=
  n.digits * 10 ^ n.power

/-- The leading digits that have 64 bits, as one integer: those before the point, and those
behind the point with which it can go on. -/
def leading (n : Numeral) : Nat :=
  lead (lead 0 n.whole) (n.fraction.getD [])

/-- The power of ten that the place of the last leading digit has. -/
def places (n : Numeral) : Int :=
  (n.whole.length - kept 0 n.whole : Nat) - kept (lead 0 n.whole) (n.fraction.getD [])

/-- The power of ten of the last leading digit. -/
def scale (n : Numeral) : Int :=
  n.places + n.exponent.getD 0

/-- The number has a finite double if its leading digits and its power of ten are rounded
first, and then their product: the power is no greater than 308, and the product of the
rounded numbers is below half a step above the greatest double. It is zero, and so finite,
if its leading digits are, or if the written power has a minus and more than 31 bits; with
more than 31 bits and no minus it is not read. -/
def Finite (n : Numeral) : Prop :=
  n.leading = 0 ∨ n.exponent.getD 0 < -powerLimit ∨
    n.exponent.getD 0 ≤ powerLimit ∧ n.scale ≤ 308 ∧
      (0 ≤ n.scale → Binary64.rounded n.leading * Binary64.rounded (10 ^ n.scale) <
        Binary64.overflow)

/-- The integer that the digits before the point are. -/
def integer (n : Numeral) : Int :=
  if n.negative then -Decimal.ofDigits n.whole else Decimal.ofDigits n.whole

/-- The number is written as an integer that has 64 bits, signed or unsigned, and
is not minus zero. -/
def Exact (n : Numeral) : Prop :=
  n.fraction = none ∧ n.exponent = none ∧ -2 ^ 63 ≤ n.integer ∧ n.integer < 2 ^ 64 ∧
    ¬ (n.negative = true ∧ n.integer = 0)

instance (n : Numeral) : Decidable n.Exact :=
  inferInstanceAs (Decidable (_ ∧ _))

/-- What the number is held as, if it has a finite double. An integer whose digits have 64
bits is rounded once. -/
def number? (n : Numeral) : Option Number :=
  if n.Exact then some (.integer n.integer)
  else if n.fraction = none ∧ n.exponent = none ∧ n.places = 0 then
    some (signed n.negative (.nearest false n.leading 1))
  else scaled? n.negative n.leading n.places (n.exponent.getD 0)

end Numeral

/-! ### Lists and objects -/

/-- Parts with commas between them, and blanks around each. -/
inductive Listed {α : Type} (R : List Char → α → Prop) : List Char → List α → Prop where
  /-- One part. -/
  | one {b cs b' : List Char} {a : α} : Blanks b → R cs a → Blanks b' →
      Listed R (b ++ (cs ++ b')) [a]
  /-- A part in front of others. -/
  | cons {b cs b' rest : List Char} {a : α} {as : List α} : Blanks b → R cs a → Blanks b' →
      Listed R rest as → Listed R (b ++ (cs ++ (b' ++ ',' :: rest))) (a :: as)

/-- The inside of a list or an object, which may be empty. -/
inductive Elements {α : Type} (R : List Char → α → Prop) : List Char → List α → Prop where
  /-- There is no part. -/
  | nil {b : List Char} : Blanks b → Elements R b []
  /-- There are parts. -/
  | listed {as : List α} {cs : List Char} : Listed R cs as → Elements R cs as

/-- A key, a colon and a value. -/
inductive Member {α : Type} (R : List Char → α → Prop) : List Char → String × α → Prop where
  /-- There may be blanks on both sides of the colon. -/
  | mk {ks b b' cs : List Char} {key : String} {a : α} : SpellsText ks key → Blanks b → Blanks b' →
      R cs a → Member R (ks ++ (b ++ ':' :: (b' ++ cs))) (key, a)

/-- A value as it is written. -/
inductive Tree where
  /-- Nothing. -/
  | null
  /-- A truth value. -/
  | boolean (b : Bool)
  /-- A number. -/
  | number (n : Numeral)
  /-- A text. -/
  | text (s : String)
  /-- A list. -/
  | array (items : List Tree)
  /-- Members, in the order in which they are written. -/
  | object (members : List (String × Tree))

/-- The characters of a value. -/
inductive Spells : List Char → Tree → Prop where
  /-- The word for nothing. -/
  | null : Spells ['n', 'u', 'l', 'l'] .null
  /-- The word for what holds. -/
  | boolean_true : Spells ['t', 'r', 'u', 'e'] (.boolean true)
  /-- The word for what does not hold. -/
  | boolean_false : Spells ['f', 'a', 'l', 's', 'e'] (.boolean false)
  /-- A number. -/
  | number {cs : List Char} {n : Numeral} : SpellsNumber cs n → Spells cs (.number n)
  /-- A text. -/
  | text {cs : List Char} {s : String} : SpellsText cs s → Spells cs (.text s)
  /-- A list stands in brackets. -/
  | array {cs : List Char} {items : List Tree} : Elements Spells cs items →
      Spells ('[' :: cs ++ [']']) (.array items)
  /-- An object stands in braces. -/
  | object {cs : List Char} {members : List (String × Tree)} :
      Elements (Member Spells) cs members → Spells ('\x7b' :: cs ++ ['\x7d']) (.object members)

/-- A text is one value with blanks around it. -/
inductive Document : List Char → Tree → Prop where
  /-- Blanks may stand in front of the value and behind it, and nothing else. -/
  | mk {b cs b' : List Char} {t : Tree} : Blanks b → Spells cs t → Blanks b' →
      Document (b ++ (cs ++ b')) t

/-! ### Depth, finite numbers and meaning -/

mutual

/-- How many lists and objects are open at once. -/
def Tree.depth : Tree → Nat
  | .array items => itemsDepth items + 1
  | .object members => membersDepth members + 1
  | _ => 0

/-- How many are open at once within the items of a list. -/
def itemsDepth : List Tree → Nat
  | [] => 0
  | t :: rest => max t.depth (itemsDepth rest)

/-- How many are open at once within the members of an object. -/
def membersDepth : List (String × Tree) → Nat
  | [] => 0
  | (_, t) :: rest => max t.depth (membersDepth rest)

end

/-- Every number in the tree has a finite double. -/
inductive Tree.Finite : Tree → Prop where
  /-- There is no number. -/
  | null : Tree.Finite .null
  /-- There is no number. -/
  | boolean {b : Bool} : Tree.Finite (.boolean b)
  /-- The number has a finite double. -/
  | number {n : Numeral} : n.Finite → Tree.Finite (.number n)
  /-- There is no number. -/
  | text {s : String} : Tree.Finite (.text s)
  /-- It is so of all items. -/
  | array {items : List Tree} : (∀ t ∈ items, t.Finite) → Tree.Finite (.array items)
  /-- It is so of all members. -/
  | object {members : List (String × Tree)} : (∀ m ∈ members, m.2.Finite) →
      Tree.Finite (.object members)

/-- `m` holds the keys of `members` and no other, each once and in their order,
with the value of the last member of the key. -/
structure LastWins (members : List (String × Value)) (m : Object) : Prop where
  /-- The keys stand in their order. -/
  sorted : m.Pairwise fun a b => a.1 < b.1
  /-- The value of a key is that of its last member. -/
  get?_eq : ∀ key, m.get? key = Object.get? members.reverse key

/-- Two members have one key and related values. -/
inductive Keyed {α β : Type} (M : α → β → Prop) : String × α → String × β → Prop where
  /-- The key is the same. -/
  | mk {key : String} {a : α} {b : β} : M a b → Keyed M (key, a) (key, b)

/-- The value that a tree means. -/
inductive Tree.Means : Tree → Value → Prop where
  /-- Nothing. -/
  | null : Tree.Means .null .null
  /-- A truth value. -/
  | boolean {b : Bool} : Tree.Means (.boolean b) (.boolean b)
  /-- A number is an exact integer or a double. -/
  | number {n : Numeral} {x : Number} : n.number? = some x → Tree.Means (.number n) (.number x)
  /-- A text. -/
  | text {s : String} : Tree.Means (.text s) (.text s)
  /-- A list means the list of what its items mean. -/
  | array {items : List Tree} {values : List Value} : List.Forall₂ Tree.Means items values →
      Tree.Means (.array items) (.array values)
  /-- Of the members with one key the last counts. -/
  | object {members : List (String × Tree)} {ms : List (String × Value)} {m : Object} :
      List.Forall₂ (Keyed Tree.Means) members ms → LastWins ms m →
      Tree.Means (.object members) (.object m)

/-! ### Composition with a meaning -/

section

variable {α β : Type} {R : List Char → α → Prop} {M : α → β → Prop}

/-- Parts that are related by way of something else are a list of that and a list
of what it is related to. -/
theorem listed_comp_iff {cs : List Char} {bs : List β} :
    Listed (Relation.Comp R M) cs bs ↔ ∃ as, Listed R cs as ∧ List.Forall₂ M as bs := by
  constructor
  · intro h
    induction h with
    | one hb hr hb' =>
      obtain ⟨a, hr, hm⟩ := hr
      exact ⟨[a], .one hb hr hb', .cons hm .nil⟩
    | cons hb hr hb' _ ih =>
      obtain ⟨a, hr, hm⟩ := hr
      obtain ⟨as, has, hms⟩ := ih
      exact ⟨a :: as, .cons hb hr hb' has, .cons hm hms⟩
  · rintro ⟨as, h, hm⟩
    induction h generalizing bs with
    | one hb hr hb' =>
      obtain _ | ⟨hm, hnil⟩ := hm
      obtain _ | _ := hnil
      exact .one hb ⟨_, hr, hm⟩ hb'
    | cons hb hr hb' _ ih =>
      obtain _ | ⟨hm, hms⟩ := hm
      exact .cons hb ⟨_, hr, hm⟩ hb' (ih hms)

theorem elements_comp_iff {cs : List Char} {bs : List β} :
    Elements (Relation.Comp R M) cs bs ↔ ∃ as, Elements R cs as ∧ List.Forall₂ M as bs := by
  constructor
  · rintro (hb | h)
    · exact ⟨[], .nil hb, .nil⟩
    · obtain ⟨as, has, hm⟩ := listed_comp_iff.mp h
      exact ⟨as, .listed has, hm⟩
  · rintro ⟨as, hb | h, hm⟩
    · obtain _ | _ := hm
      exact .nil hb
    · exact .listed (listed_comp_iff.mpr ⟨as, h, hm⟩)

theorem member_comp : Member (Relation.Comp R M) = Relation.Comp (Member R) (Keyed M) := by
  funext cs m
  refine propext ⟨?_, ?_⟩
  · rintro ⟨hk, hb, hb', a, hr, hm⟩
    exact ⟨_, .mk hk hb hb' hr, .mk hm⟩
  · rintro ⟨_, ⟨hk, hb, hb', hr⟩, ⟨hm⟩⟩
    exact .mk hk hb hb' ⟨_, hr, hm⟩

end

/-! ### Depth -/

theorem itemsDepth_le_iff {d : Nat} : ∀ {items : List Tree},
    itemsDepth items ≤ d ↔ ∀ t ∈ items, t.depth ≤ d
  | [] => by simp [itemsDepth]
  | t :: rest => by
    rw [itemsDepth, max_le_iff, itemsDepth_le_iff, List.forall_mem_cons]

theorem membersDepth_le_iff {d : Nat} : ∀ {members : List (String × Tree)},
    membersDepth members ≤ d ↔ ∀ m ∈ members, m.2.depth ≤ d
  | [] => by simp [membersDepth]
  | (_, t) :: rest => by
    rw [membersDepth, max_le_iff, membersDepth_le_iff, List.forall_mem_cons]

/-! ### Objects -/

/-- The keys of an object stand in their order. -/
abbrev Object.Sorted (m : Object) : Prop :=
  m.Pairwise fun a b => a.1 < b.1

theorem Object.mem_insert {key : String} {value : Value} {e : String × Value} :
    ∀ {m : Object}, e ∈ insert key value m → e = (key, value) ∨ e ∈ m
  | [], h => by simpa [insert] using h
  | f :: rest, h => by
    unfold insert at h
    split_ifs at h
    · exact (List.mem_cons.mp h).imp_right (List.mem_cons_of_mem _)
    · exact List.mem_cons.mp h
    · rcases List.mem_cons.mp h with rfl | h
      · exact .inr (List.mem_cons_self ..)
      · exact (mem_insert h).imp_right (List.mem_cons_of_mem _)

theorem Object.Sorted.insert {key : String} {value : Value} : ∀ {m : Object}, Sorted m →
    Sorted (Object.insert key value m)
  | [], _ => List.pairwise_singleton _ _
  | f :: rest, h => by
    obtain ⟨hf, hrest⟩ := List.pairwise_cons.mp h
    unfold Object.insert
    split_ifs with heq hlt
    · exact List.pairwise_cons.mpr ⟨fun e he => heq ▸ hf e he, hrest⟩
    · refine List.pairwise_cons.mpr ⟨fun e he => ?_, h⟩
      rcases List.mem_cons.mp he with rfl | he
      · exact hlt
      · exact lt_trans hlt (hf e he)
    · refine List.pairwise_cons.mpr ⟨fun e he => ?_, Sorted.insert hrest⟩
      rcases mem_insert he with rfl | he
      · exact lt_of_le_of_ne (not_lt.mp hlt) (Ne.symm heq)
      · exact hf e he

theorem Object.get?_cons (e : String × Value) (m : Object) (key : String) :
    get? (e :: m) key = if e.1 = key then some e.2 else get? m key := by
  by_cases h : e.1 = key <;> simp [get?, h]

theorem Object.get?_eq_none {m : Object} {key : String} (h : ∀ e ∈ m, key < e.1) :
    get? m key = none := by
  have hne : ∀ e ∈ m, ¬ (e.1 == key) = true := fun e he heq =>
    absurd (eq_of_beq heq) (h e he).ne'
  rw [get?, List.find?_eq_none.mpr hne, Option.map_none]

/-- What is before the first key of a sorted object is before all its keys. -/
theorem Object.Sorted.lt_of_lt_head {e : String × Value} {m : Object} (h : Sorted (e :: m))
    {key : String} (hlt : key < e.1) : ∀ f ∈ e :: m, key < f.1 :=
  List.forall_mem_cons.mpr ⟨hlt, fun f hf => hlt.trans ((List.pairwise_cons.mp h).1 f hf)⟩

/-- Two sorted objects in which every key has the same value are the same. -/
theorem Object.Sorted.ext : ∀ {m m' : Object}, Sorted m → Sorted m' →
    (∀ key, get? m key = get? m' key) → m = m'
  | [], [], _, _, _ => rfl
  | [], e :: rest, _, _, h => by
    have := h e.1
    rw [get?_cons, if_pos rfl] at this
    cases this
  | e :: rest, [], _, _, h => by
    have := h e.1
    rw [get?_cons, if_pos rfl] at this
    cases this
  | e :: rest, f :: rest', hm, hm', h => by
    obtain ⟨he, hrest⟩ := List.pairwise_cons.mp hm
    obtain ⟨hf, hrest'⟩ := List.pairwise_cons.mp hm'
    have hkey : e.1 = f.1 := by
      rcases lt_trichotomy e.1 f.1 with hlt | heq | hgt
      · have := h e.1
        rw [get?_eq_none (hm'.lt_of_lt_head hlt), get?_cons, if_pos rfl] at this
        cases this
      · exact heq
      · have := h f.1
        rw [get?_eq_none (hm.lt_of_lt_head hgt), get?_cons, if_pos rfl] at this
        cases this
    have hvalue : e.2 = f.2 := by
      have := h e.1
      rwa [get?_cons, get?_cons, if_pos rfl, if_pos hkey.symm, Option.some.injEq] at this
    have htail : ∀ key, get? rest key = get? rest' key := by
      intro key
      by_cases hk : e.1 = key
      · rw [get?_eq_none (hk ▸ he), get?_eq_none (hk ▸ hkey ▸ hf)]
      · have := h key
        rwa [get?_cons, get?_cons, if_neg hk, if_neg (hkey ▸ hk)] at this
    rw [Prod.ext hkey hvalue, Sorted.ext hrest hrest' htail]

/-- Of several members with one key the last counts. -/
theorem lastWins_ofMembers (members : List (String × Value)) :
    LastWins members (Object.ofMembers members) := by
  induction members using List.reverseRecOn with
  | nil => exact ⟨List.Pairwise.nil, fun _ => rfl⟩
  | append_singleton members e ih =>
    have hinsert : Object.ofMembers (members ++ [e]) =
        Object.insert e.1 e.2 (Object.ofMembers members) := List.foldl_concat ..
    rw [hinsert]
    refine ⟨Object.Sorted.insert ih.sorted, fun key => ?_⟩
    rw [Object.get?_insert, ih.get?_eq, List.reverse_concat, Object.get?_cons]
    simp only [eq_comm]

theorem LastWins.unique {members : List (String × Value)} {m m' : Object} (h : LastWins members m)
    (h' : LastWins members m') : m = m' :=
  Object.Sorted.ext h.sorted h'.sorted fun key => (h.get?_eq key).trans (h'.get?_eq key).symm

end Json
end SignedHooks
