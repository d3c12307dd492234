/-
# What the reader of JSON values takes

By induction on the depth a value is read exactly if it is one by the grammar,
opens no more lists and objects at once than may be open, and has only numbers
with a finite double; and what is read is what its tree means
(`Json.reads_readValue`). At the bottom no bracket is read
(`Json.readsBehind_refuseBracket`), and on each level above the lists and objects
are those of the level below. For whole texts, whose root must be an object, this
is `Json.readRoot_eq_ok_iff`.

Key definitions: `Json.Tree.Held`, `Json.ReadsBehind`.
Key theorems: `Json.Spells.head`, `Json.reads_readValueWith`, `Json.reads_readValue`,
`Json.readRoot_eq_ok_iff`.
-/
import SignedHooks.Proofs.JsonParts

namespace SignedHooks
namespace Json

/-! ### Values -/

/-- The tree opens at most `d` lists and objects at once, all its numbers have a finite
double, and it means `v`. -/
def Tree.Held (d : Nat) (t : Tree) (v : Value) : Prop :=
  t.depth ≤ d ∧ t.Finite ∧ t.Means v

variable {d : Nat}

theorem forall₂_held_iff {items : List Tree} {vs : List Value} :
    List.Forall₂ (Tree.Held d) items vs ↔
      itemsDepth items ≤ d ∧ (∀ t ∈ items, t.Finite) ∧ List.Forall₂ Tree.Means items vs := by
  rw [itemsDepth_le_iff, ← List.forall₂_and_left, ← List.forall₂_and_left]
  rfl

theorem forall₂_keyed_held_iff {members : List (String × Tree)}
    {ms : List (String × Value)} : List.Forall₂ (Keyed (Tree.Held d)) members ms ↔
      membersDepth members ≤ d ∧ (∀ m ∈ members, m.2.Finite) ∧
        List.Forall₂ (Keyed Tree.Means) members ms := by
  have hkeyed : Keyed (Tree.Held d) = fun m w => m.2.depth ≤ d ∧ m.2.Finite ∧ Keyed Tree.Means m w := by
    funext m w
    refine propext ⟨?_, ?_⟩
    · rintro ⟨hdepth, hfinite, hmeans⟩
      exact ⟨hdepth, hfinite, .mk hmeans⟩
    · rintro ⟨hdepth, hfinite, ⟨hmeans⟩⟩
      exact .mk ⟨hdepth, hfinite, hmeans⟩
  rw [hkeyed, membersDepth_le_iff, ← List.forall₂_and_left, ← List.forall₂_and_left]

theorem held_array_iff {items : List Tree} {v : Value} : Tree.Held (d + 1) (.array items) v ↔
    ∃ vs, List.Forall₂ (Tree.Held d) items vs ∧ v = .array vs := by
  constructor
  · rintro ⟨hdepth, hfinite, hmeans⟩
    have hdepth := Nat.le_of_succ_le_succ hdepth
    cases hfinite with
    | array hfinite =>
      cases hmeans with
      | array hmeans => exact ⟨_, forall₂_held_iff.mpr ⟨hdepth, hfinite, hmeans⟩, rfl⟩
  · rintro ⟨vs, h, rfl⟩
    obtain ⟨hdepth, hfinite, hmeans⟩ := forall₂_held_iff.mp h
    exact ⟨Nat.succ_le_succ hdepth, .array hfinite, .array hmeans⟩

theorem held_object_iff {members : List (String × Tree)} {v : Value} :
    Tree.Held (d + 1) (.object members) v ↔
      ∃ ms, List.Forall₂ (Keyed (Tree.Held d)) members ms ∧ v = .object (Object.ofMembers ms) := by
  constructor
  · rintro ⟨hdepth, hfinite, hmeans⟩
    have hdepth := Nat.le_of_succ_le_succ hdepth
    cases hfinite with
    | object hfinite =>
      cases hmeans with
      | object hmeans hlast =>
        refine ⟨_, forall₂_keyed_held_iff.mpr ⟨hdepth, hfinite, hmeans⟩, ?_⟩
        rw [hlast.unique (lastWins_ofMembers _)]
  · rintro ⟨ms, h, rfl⟩
    obtain ⟨hdepth, hfinite, hmeans⟩ := forall₂_keyed_held_iff.mp h
    exact ⟨Nat.succ_le_succ hdepth, .object hfinite, .object hmeans (lastWins_ofMembers ms)⟩

/-- Where nothing may be open there are no lists and no objects. -/
theorem Tree.Held.not_array {items : List Tree} {v : Value} : ¬ Tree.Held 0 (.array items) v :=
  fun h => Nat.not_succ_le_zero _ h.1

theorem Tree.Held.not_object {members : List (String × Tree)} {v : Value} :
    ¬ Tree.Held 0 (.object members) v :=
  fun h => Nat.not_succ_le_zero _ h.1

/-- What is no list and no object opens none. -/
theorem Tree.Held.of_scalar {t : Tree} {v : Value} (hdepth : t.depth = 0) (hfinite : t.Finite)
    (hmeans : t.Means v) : t.Held d v :=
  ⟨hdepth ▸ Nat.zero_le d, hfinite, hmeans⟩

/-- Behind its sign a number begins with a digit. -/
theorem SpellsNumber.exists_digit {cs : List Char} {n : Numeral} (h : SpellsNumber cs n) :
    ∃ c tail, cs = sign n.negative ++ c :: tail ∧ c.isDigit = true := by
  obtain ⟨⟨hd, -⟩, -, -⟩ := h
  obtain ⟨c, ds, rfl⟩ := List.exists_cons_of_ne_nil hd.1
  exact ⟨c, _, rfl, hd.2 c (List.mem_cons_self ..)⟩

theorem SpellsNumber.head {c : Char} {cs : List Char} {n : Numeral} (h : SpellsNumber (c :: cs) n) :
    c = '-' ∨ c.isDigit = true := by
  obtain ⟨d, tail, heq, hd⟩ := h.exists_digit
  cases hsign : n.negative with
  | true =>
    rw [hsign] at heq
    exact .inl (List.cons.inj heq).1
  | false =>
    rw [hsign] at heq
    exact .inr ((List.cons.inj heq).1 ▸ hd)

theorem isBlank_eq_false_of_isDigit {c : Char} (h : c.isDigit = true) : isBlank c = false := by
  rw [Bool.eq_false_iff]
  intro hb
  rcases isBlank_iff.mp hb with rfl | rfl | rfl | rfl <;> exact absurd h (by decide)

/-- A value begins with neither a blank nor the end of a list. -/
theorem Spells.head {cs : List Char} {t : Tree} (h : Spells cs t) :
    ∃ c tail, cs = c :: tail ∧ isBlank c = false ∧ c ≠ ']' := by
  cases h with
  | @number cs n hn =>
    cases cs with
    | nil =>
      obtain ⟨c, tail, heq, -⟩ := hn.exists_digit
      cases (List.append_eq_nil_iff.mp heq.symm).2
    | cons c cs =>
      refine ⟨c, cs, rfl, ?_⟩
      rcases hn.head with rfl | hc
      · decide
      · exact ⟨isBlank_eq_false_of_isDigit hc, by rintro rfl; cases hc⟩
  | text hs =>
    obtain ⟨_⟩ := hs
    exact ⟨'"', _, rfl, by decide⟩
  | _ => exact ⟨_, _, rfl, by decide⟩

/-- What begins with a bracket is a list. -/
theorem Spells.of_bracket {cs : List Char} {t : Tree} (h : Spells ('[' :: cs) t) :
    ∃ body items, cs = body ++ [']'] ∧ t = .array items ∧ Elements Spells body items := by
  generalize hcs : '[' :: cs = front at h
  cases h with
  | array hitems => exact ⟨_, _, (List.cons.inj hcs).2, rfl, hitems⟩
  | number hn => rcases (hcs ▸ hn).head with h | h <;> exact absurd h (by decide)
  | text hs =>
    cases hs
    cases hcs
  | _ => cases hcs

/-- What begins with a brace is an object. -/
theorem Spells.of_brace {cs : List Char} {t : Tree} (h : Spells ('\x7b' :: cs) t) :
    ∃ body members, cs = body ++ ['\x7d'] ∧ t = .object members ∧
      Elements (Member Spells) body members := by
  generalize hcs : '\x7b' :: cs = front at h
  cases h with
  | object hmembers => exact ⟨_, _, (List.cons.inj hcs).2, rfl, hmembers⟩
  | number hn => rcases (hcs ▸ hn).head with h | h <;> exact absurd h (by decide)
  | text hs =>
    cases hs
    cases hcs
  | _ => cases hcs

theorem readWord_eq_ok_iff {rest : List Char} : ∀ {word cs : List Char},
    readWord word cs = .ok rest ↔ cs = word ++ rest
  | [], cs => by simp [readWord]
  | w :: word, [] => by simp [readWord]
  | w :: word, c :: cs => by
    by_cases h : w = c
    · simp [readWord, h, readWord_eq_ok_iff]
    · simp [readWord, h, Ne.symm h]

/-- What stands behind an opening bracket or brace is read if the part in front of
it is a value by `R`. -/
def ReadsBehind (bracket : Char) (read : ValueReader) (R : List Char → Value → Prop) : Prop :=
  ∀ {cs rest : List Char} {v : Value}, read cs = .ok (v, rest) ↔
    ∃ body, cs = body ++ rest ∧ R (bracket :: body) v

variable {array object : ValueReader}

theorem readValueWith_digit {c : Char} (hc : c.isDigit = true) (cs : List Char) :
    readValueWith array object (c :: cs) =
      (readNumber false (c :: cs)).map fun p => (.number p.1, p.2) := by
  unfold readValueWith
  rw [skipBlank_cons (isBlank_eq_false_of_isDigit hc)]
  -- no other first character is a digit
  split <;> rename_i heq <;> cases heq <;>
    first | exact absurd hc (by decide) | exact if_pos hc

theorem readValueWith_append {b : List Char} (hb : Blanks b) (cs : List Char) :
    readValueWith array object (b ++ cs) = readValueWith array object cs := by
  unfold readValueWith
  rw [skipBlank_append hb]

/-! ### What a reader of words, texts and numbers takes -/

section

variable {cs rest : List Char} {v : Value}

/-- A word that is read is the spelling of what it says. -/
theorem comp_of_readWord {c : Char} {word : List Char} {t : Tree} {w : Value}
    (hspells : Spells (c :: word) t) (hheld : t.Held d w)
    (h : (readWord word cs).map (fun r => (w, r)) = .ok (v, rest)) :
    ∃ front, c :: cs = front ++ rest ∧ Relation.Comp Spells (Tree.Held d) front v := by
  obtain ⟨rest', hread, heq⟩ := map_eq_ok_iff.mp h
  cases heq
  rw [readWord_eq_ok_iff.mp hread]
  exact ⟨c :: word, rfl, t, hspells, hheld⟩

theorem comp_of_readText
    (h : (readText cs).map (fun p => (Value.text (String.ofList p.1), p.2)) = .ok (v, rest)) :
    ∃ front, '"' :: cs = front ++ rest ∧ Relation.Comp Spells (Tree.Held d) front v := by
  obtain ⟨⟨s, rest'⟩, hread, heq⟩ := map_eq_ok_iff.mp h
  cases heq
  obtain ⟨front, rfl, hquoted⟩ := quoted_of_readText hread
  have htext : SpellsText ('"' :: front ++ ['"']) (String.ofList s) :=
    .mk (by rwa [String.toList_ofList])
  refine ⟨_, ?_, _, .text htext, .of_scalar rfl .text .text⟩
  simp only [List.append_assoc, List.cons_append, List.nil_append]

theorem comp_of_readNumber {negative : Bool}
    (h : (readNumber negative cs).map (fun p => (Value.number p.1, p.2)) = .ok (v, rest)) :
    ∃ front, sign negative ++ cs = front ++ rest ∧
      Relation.Comp Spells (Tree.Held d) front v := by
  obtain ⟨⟨x, rest'⟩, hread, heq⟩ := map_eq_ok_iff.mp h
  cases heq
  obtain ⟨n, front, -, hspells, rfl, -, hx⟩ := readNumber_eq_ok_iff.mp hread
  have hfinite : Tree.Finite (.number n) := .number (n.exists_number?_iff.mp ⟨x, hx⟩)
  exact ⟨sign negative ++ front, (List.append_assoc ..).symm, _, .number hspells,
    .of_scalar rfl hfinite (.number hx)⟩

/-- A number that is complete is read. -/
theorem readValueWith_number {n : Numeral} {x : Number} (hspells : SpellsNumber cs n)
    (hx : n.number? = some x) (hends : Ends rest) :
    readValueWith array object (cs ++ rest) = .ok (.number x, rest) := by
  obtain ⟨c, tail, rfl, hc⟩ := hspells.exists_digit
  have hread := readNumber_eq_ok_iff.mpr ⟨n, _, rfl, hspells, rfl, hends.stops n, hx⟩
  cases hsign : n.negative with
  | true =>
    rw [hsign] at hread
    exact map_eq_ok_iff.mpr ⟨_, hread, rfl⟩
  | false =>
    rw [hsign] at hread
    exact (readValueWith_digit hc _).trans (map_eq_ok_iff.mpr ⟨_, hread, rfl⟩)

/-- A text that is complete is read. -/
theorem readValueWith_text {s : String} (hspells : SpellsText cs s) :
    readValueWith array object (cs ++ rest) = .ok (.text s, rest) := by
  obtain ⟨hquoted⟩ := hspells
  rw [List.append_assoc]
  refine (map_eq_ok_iff.mpr ⟨_, readText_of_quoted hquoted rest, ?_⟩ :)
  rw [String.ofList_toList]

/-- What is read is a value, with blanks in front. -/
theorem comp_of_readValueWith
    (harray : ReadsBehind '[' array (Relation.Comp Spells (Tree.Held d)))
    (hobject : ReadsBehind '\x7b' object (Relation.Comp Spells (Tree.Held d)))
    (h : readValueWith array object cs = .ok (v, rest)) :
    ∃ b front, Blanks b ∧ cs = b ++ (front ++ rest) ∧
      Relation.Comp Spells (Tree.Held d) front v := by
  unfold readValueWith at h
  obtain ⟨b, hb, hcs⟩ := exists_blanks cs
  rw [hcs]
  generalize skipBlank cs = next at h
  suffices hnext : ∃ front, next = front ++ rest ∧ Relation.Comp Spells (Tree.Held d) front v by
    obtain ⟨front, rfl, hr⟩ := hnext
    exact ⟨b, front, hb, rfl, hr⟩
  -- by the first character behind the blanks, as the reader tells values apart
  split at h
  · cases h
  · exact comp_of_readText h
  · obtain ⟨body, rfl, hr⟩ := harray.mp h
    exact ⟨'[' :: body, rfl, hr⟩
  · obtain ⟨body, rfl, hr⟩ := hobject.mp h
    exact ⟨'\x7b' :: body, rfl, hr⟩
  · exact comp_of_readWord .null (.of_scalar rfl .null .null) h
  · exact comp_of_readWord .boolean_true (.of_scalar rfl .boolean .boolean) h
  · exact comp_of_readWord .boolean_false (.of_scalar rfl .boolean .boolean) h
  · exact comp_of_readNumber h
  · split at h
    · exact comp_of_readNumber h
    · cases h

/-- A value that is complete is read. -/
theorem readValueWith_of_comp {front : List Char}
    (harray : ReadsBehind '[' array (Relation.Comp Spells (Tree.Held d)))
    (hobject : ReadsBehind '\x7b' object (Relation.Comp Spells (Tree.Held d)))
    (h : Relation.Comp Spells (Tree.Held d) front v) (hends : Ends rest) :
    readValueWith array object (front ++ rest) = .ok (v, rest) := by
  obtain ⟨t, hspells, hheld⟩ := h
  cases hspells with
  | null =>
    obtain ⟨-, -, ⟨⟩⟩ := hheld
    rfl
  | boolean_true =>
    obtain ⟨-, -, ⟨⟩⟩ := hheld
    rfl
  | boolean_false =>
    obtain ⟨-, -, ⟨⟩⟩ := hheld
    rfl
  | number hnumber =>
    obtain ⟨-, -, hmeans⟩ := hheld
    cases hmeans with
    | number hx => exact readValueWith_number hnumber hx hends
  | text htext =>
    obtain ⟨-, -, ⟨⟩⟩ := hheld
    exact readValueWith_text htext
  | array hitems => exact harray.mpr ⟨_, rfl, _, .array hitems, hheld⟩
  | object hmembers => exact hobject.mpr ⟨_, rfl, _, .object hmembers, hheld⟩

end

/-- A reader of values reads what its readers of lists and objects read, and besides the
words, texts and numbers. -/
theorem reads_readValueWith
    (harray : ReadsBehind '[' array (Relation.Comp Spells (Tree.Held d)))
    (hobject : ReadsBehind '\x7b' object (Relation.Comp Spells (Tree.Held d))) :
    Reads (readValueWith array object) (Relation.Comp Spells (Tree.Held d)) where
  sound h := comp_of_readValueWith harray hobject h
  complete hb hcomp hends := by
    rw [readValueWith_append hb]
    exact readValueWith_of_comp harray hobject hcomp hends
  head := by
    rintro front v ⟨t, ht, -⟩
    exact ht.head

/-! ### Level by level -/

theorem readsBehind_readArray
    (h : Reads (readValue d) (Relation.Comp Spells (Tree.Held d))) :
    ReadsBehind '[' (readArray (readValue d)) (Relation.Comp Spells (Tree.Held (d + 1))) := by
  intro cs rest v
  rw [readArray_eq_ok_iff h]
  constructor
  · rintro ⟨body, vs, rfl, helements, rfl⟩
    obtain ⟨items, hitems, hheld⟩ := elements_comp_iff.mp helements
    refine ⟨body ++ [']'], by rw [List.append_assoc]; rfl, _, .array hitems, ?_⟩
    exact held_array_iff.mpr ⟨vs, hheld, rfl⟩
  · rintro ⟨body, rfl, t, ht, hheld⟩
    obtain ⟨body, items, rfl, rfl, hitems⟩ := ht.of_bracket
    obtain ⟨vs, hvs, rfl⟩ := held_array_iff.mp hheld
    exact ⟨body, vs, List.append_assoc .., elements_comp_iff.mpr ⟨_, hitems, hvs⟩, rfl⟩

/-- The members of an object, by their grammar and by what they mean. -/
theorem readObjectBody_readValue_iff (h : Reads (readValue d) (Relation.Comp Spells (Tree.Held d)))
    {cs rest : List Char} {ms : List (String × Value)} :
    readObjectBody (readValue d) cs = .ok (ms, rest) ↔
      ∃ body members, cs = body ++ '\x7d' :: rest ∧ Elements (Member Spells) body members ∧
        List.Forall₂ (Keyed (Tree.Held d)) members ms := by
  simp only [readObjectBody_eq_ok_iff h, member_comp, elements_comp_iff, exists_and_left]

theorem readsBehind_readObjectValue
    (h : Reads (readValue d) (Relation.Comp Spells (Tree.Held d))) :
    ReadsBehind '\x7b' (readObjectValue (readValue d))
      (Relation.Comp Spells (Tree.Held (d + 1))) := by
  intro cs rest v
  constructor
  · intro hread
    obtain ⟨⟨ms, rest'⟩, hmembers, heq⟩ := map_eq_ok_iff.mp hread
    cases heq
    obtain ⟨body, members, rfl, helements, hms⟩ := (readObjectBody_readValue_iff h).mp hmembers
    refine ⟨body ++ ['\x7d'], by rw [List.append_assoc]; rfl, _, .object helements, ?_⟩
    exact held_object_iff.mpr ⟨ms, hms, rfl⟩
  · rintro ⟨body, rfl, t, ht, hheld⟩
    obtain ⟨body, members, rfl, rfl, helements⟩ := ht.of_brace
    obtain ⟨ms, hms, rfl⟩ := held_object_iff.mp hheld
    have hread : readObjectBody (readValue d) (body ++ '\x7d' :: rest) = .ok (ms, rest) :=
      (readObjectBody_readValue_iff h).mpr ⟨body, members, rfl, helements, hms⟩
    rw [List.append_assoc]
    exact map_eq_ok_iff.mpr ⟨_, hread, rfl⟩

/-- Where nothing may be opened any more, nothing is read behind a bracket. -/
theorem readsBehind_refuseBracket {bracket : Char} {R : List Char → Value → Prop}
    (h : ∀ body v, ¬ R (bracket :: body) v) : ReadsBehind bracket (refuseBracket bracket) R := by
  intro cs rest v
  refine iff_of_false (fun hread => by cases hread) ?_
  rintro ⟨body, -, hr⟩
  exact h body v hr

/-- **Reading.** A value is read exactly if it is one by the grammar, opens no more
lists and objects at once than may be open, and has only numbers with a finite
double; and what is read is what its tree means. -/
theorem reads_readValue : ∀ d, Reads (readValue d) (Relation.Comp Spells (Tree.Held d))
  | 0 => by
    refine reads_readValueWith (readsBehind_refuseBracket ?_) (readsBehind_refuseBracket ?_)
    · rintro body v ⟨t, ht, hheld⟩
      obtain ⟨_, items, -, rfl, -⟩ := ht.of_bracket
      exact hheld.not_array
    · rintro body v ⟨t, ht, hheld⟩
      obtain ⟨_, members, -, rfl, -⟩ := ht.of_brace
      exact hheld.not_object
  | d + 1 => reads_readValueWith (readsBehind_readArray (reads_readValue d))
      (readsBehind_readObjectValue (reads_readValue d))

theorem blanks_of_skipBlank_eq_nil {cs : List Char} (h : skipBlank cs = []) : Blanks cs := by
  obtain ⟨b, hb, heq⟩ := exists_blanks cs
  rw [h, List.append_nil] at heq
  exact heq ▸ hb

/-- **Texts.** A text is read exactly if it is that of an object that opens no more
lists and objects at once than may be open, and has only numbers with a finite
double; and what is read is what the object means. -/
theorem readRoot_eq_ok_iff {cs : List Char} {m : Object} : readRoot cs = .ok m ↔
    ∃ members, Document cs (.object members) ∧ Tree.Held deepest (.object members) (.object m) := by
  have hvalues := reads_readValue (deepest - 1)
  constructor
  · intro h
    unfold readRoot at h
    split at h
    · next next hskip =>
      obtain ⟨b, hb, rfl⟩ := skipBlank_eq_cons hskip
      obtain ⟨⟨ms, behind⟩, hread, hbehind⟩ := bind_eq_ok_iff.mp h
      obtain ⟨body, members, rfl, helements, hms⟩ :=
        (readObjectBody_readValue_iff hvalues).mp hread
      dsimp only at hbehind
      split at hbehind
      · next hend =>
        cases hbehind
        refine ⟨members, ?_, held_object_iff.mpr ⟨ms, hms, rfl⟩⟩
        have hdocument := Document.mk hb (.object helements) (blanks_of_skipBlank_eq_nil hend)
        simpa only [List.cons_append, List.append_assoc, List.nil_append] using hdocument
      · cases hbehind
    · cases h
  · rintro ⟨members, @⟨b, _, b', _, hb, ht, hb'⟩, hheld⟩
    cases ht with
    | @object body _ helements =>
      obtain ⟨ms, hms, hm⟩ := held_object_iff.mp hheld
      cases hm
      have hread : readObjectBody (readValue (deepest - 1)) (body ++ '\x7d' :: b') = .ok (ms, b') :=
        (readObjectBody_readValue_iff hvalues).mpr ⟨body, members, rfl, helements, hms⟩
      have hskip : skipBlank (b ++ ('\x7b' :: body ++ ['\x7d'] ++ b')) =
          '\x7b' :: (body ++ '\x7d' :: b') := by
        rw [List.append_assoc, List.cons_append, skipBlank_append_cons hb (by decide)]
        rfl
      have hend : skipBlank b' = [] := by
        rw [← List.append_nil b', skipBlank_append hb']
        rfl
      unfold readRoot
      simp only [hskip]
      exact bind_eq_ok_iff.mpr ⟨_, hread, by simp only [hend]; rfl⟩

end Json
end SignedHooks
