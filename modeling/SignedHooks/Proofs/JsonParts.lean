/-
# Lists and objects in JSON, given their parts

A reader of values takes the blanks in front and one value, and nothing behind it
(`Json.Reads`). If the reader of the parts does so, then a list and an object are
read exactly if their inside is a list of parts by the grammar
(`Json.readArray_eq_ok_iff`, `Json.readObjectBody_eq_ok_iff`). Both inductions go
along the number of parts that may still come; there is always room for them,
for each has at least one character.

Key definitions: `Json.Ends`, `Json.Reads`.
Key theorems: `Json.Listed.exists_head`, `Json.readArray_eq_ok_iff`,
`Json.readObjectBody_eq_ok_iff`.
-/
import SignedHooks.Proofs.JsonNumber
import SignedHooks.Proofs.JsonText

namespace SignedHooks
namespace Json

/-! ### Blanks -/

theorem isBlank_iff {c : Char} : isBlank c = true ↔ c = ' ' ∨ c = '\t' ∨ c = '\n' ∨ c = '\r' := by
  simp [isBlank, or_assoc]

theorem Blanks.nil : Blanks [] := fun _ h => by cases h

theorem Blanks.append {b b' : List Char} (hb : Blanks b) (hb' : Blanks b') : Blanks (b ++ b') :=
  fun c hc => (List.mem_append.mp hc).elim (hb c) (hb' c)

theorem skipBlank_append {b : List Char} (hb : Blanks b) (cs : List Char) :
    skipBlank (b ++ cs) = skipBlank cs :=
  List.dropWhile_append_of_pos fun c hc => isBlank_iff.mpr (hb c hc)

theorem skipBlank_cons {c : Char} (hc : isBlank c = false) (cs : List Char) :
    skipBlank (c :: cs) = c :: cs := by
  simp [skipBlank, hc]

/-- Skipping ends in front of what is no blank. -/
theorem skipBlank_append_cons {b : List Char} {c : Char} (hb : Blanks b) (hc : isBlank c = false)
    (cs : List Char) : skipBlank (b ++ c :: cs) = c :: cs := by
  rw [skipBlank_append hb, skipBlank_cons hc]

theorem skipBlank_append_cons_append {b : List Char} {c : Char} (hb : Blanks b)
    (hc : isBlank c = false) (tail rest : List Char) :
    skipBlank (b ++ c :: tail ++ rest) = c :: tail ++ rest := by
  rw [List.append_assoc, List.cons_append, skipBlank_append_cons hb hc]

/-- What is skipped is nothing but blanks. -/
theorem exists_blanks (cs : List Char) : ∃ b, Blanks b ∧ cs = b ++ skipBlank cs :=
  ⟨cs.takeWhile isBlank, fun _ hc => isBlank_iff.mp (List.mem_takeWhile_imp hc),
    List.takeWhile_append_dropWhile.symm⟩

/-- A character behind blanks is where skipping ends. -/
theorem skipBlank_eq_cons {cs rest : List Char} {c : Char} (h : skipBlank cs = c :: rest) :
    ∃ b, Blanks b ∧ cs = b ++ c :: rest :=
  h ▸ exists_blanks cs

/-! ### Steps of a reader -/

section

variable {ε α β : Type} {x : Except ε α}

theorem bind_eq_ok_iff {f : α → Except ε β} {b : β} :
    x >>= f = .ok b ↔ ∃ a, x = .ok a ∧ f a = .ok b := by
  cases x with
  | error fault => exact iff_of_false (fun h => by cases h) fun ⟨_, h, _⟩ => by cases h
  | ok a => exact ⟨fun h => ⟨a, rfl, h⟩, fun ⟨_, ha, h⟩ => Except.ok.inj ha ▸ h⟩

theorem map_eq_ok_iff {f : α → β} {b : β} : x.map f = .ok b ↔ ∃ a, x = .ok a ∧ f a = b := by
  cases x with
  | error fault => exact iff_of_false (fun h => by cases h) fun ⟨_, h, _⟩ => by cases h
  | ok a =>
    exact ⟨fun h => ⟨a, rfl, Except.ok.inj h⟩, fun ⟨_, ha, h⟩ => Except.ok.inj ha ▸ congrArg _ h⟩

end

/-! ### Readers -/

/-- No number goes on with these characters. -/
def Ends (rest : List Char) : Prop :=
  ∀ c ∈ rest.head?, c.isDigit = false ∧ c ≠ 'e' ∧ c ≠ 'E' ∧ c ≠ '.'

theorem Ends.stops {rest : List Char} (h : Ends rest) (n : Numeral) : n.Stops rest where
  noDigit c hc := (h c hc).1
  noPower _ := ⟨fun hc => (h _ hc).2.1 rfl, fun hc => (h _ hc).2.2.1 rfl⟩
  noPoint _ _ hc := (h _ hc).2.2.2 rfl

/-- In front of blanks and a character that is part of no number a value is
complete. -/
theorem ends_append {b : List Char} {c : Char} (hb : Blanks b)
    (hc : c.isDigit = false ∧ c ≠ 'e' ∧ c ≠ 'E' ∧ c ≠ '.') (rest : List Char) :
    Ends (b ++ c :: rest) := by
  cases b with
  | nil =>
    rintro _ ⟨⟩
    exact hc
  | cons d b =>
    rintro _ ⟨⟩
    rcases hb d (List.mem_cons_self ..) with rfl | rfl | rfl | rfl <;> decide

/-- A value is read if it is one by `R`, with blanks in front. -/
structure Reads (read : ValueReader) (R : List Char → Value → Prop) : Prop where
  /-- What is read is a value. -/
  sound : ∀ {cs rest : List Char} {v : Value}, read cs = .ok (v, rest) →
    ∃ b front, Blanks b ∧ cs = b ++ (front ++ rest) ∧ R front v
  /-- A value is read, if it is complete. -/
  complete : ∀ {b front rest : List Char} {v : Value}, Blanks b → R front v → Ends rest →
    read (b ++ (front ++ rest)) = .ok (v, rest)
  /-- A value begins with something else than a blank or the end of a list. -/
  head : ∀ {front : List Char} {v : Value}, R front v →
    ∃ c tail, front = c :: tail ∧ isBlank c = false ∧ c ≠ ']'

theorem Reads.ne_nil {read : ValueReader} {R : List Char → Value → Prop} (h : Reads read R)
    {cs : List Char} {v : Value} (hr : R cs v) : cs ≠ [] := by
  obtain ⟨c, tail, rfl, -⟩ := h.head hr
  exact List.cons_ne_nil c tail

/-- The blanks in front of a list of parts may be left out. -/
theorem Listed.exists_head {α : Type} {R : List Char → α → Prop} {P : Char → Prop}
    (hhead : ∀ {cs : List Char} {a : α}, R cs a → ∃ c tail, cs = c :: tail ∧ P c) {cs : List Char}
    {as : List α} (h : Listed R cs as) :
    ∃ b c tail, Blanks b ∧ cs = b ++ c :: tail ∧ P c ∧ Listed R (c :: tail) as := by
  cases h with
  | one hb hr hb' =>
    obtain ⟨c, tail, rfl, hc⟩ := hhead hr
    exact ⟨_, c, _, hb, rfl, hc, .one Blanks.nil hr hb'⟩
  | cons hb hr hb' hrest =>
    obtain ⟨c, tail, rfl, hc⟩ := hhead hr
    exact ⟨_, c, _, hb, rfl, hc, .cons Blanks.nil hr hb' hrest⟩

theorem Listed.append_blanks {α : Type} {R : List Char → α → Prop} {b cs : List Char} {as : List α}
    (hb : Blanks b) (h : Listed R cs as) : Listed R (b ++ cs) as := by
  cases h with
  | one hb' hr hb'' =>
    rw [← List.append_assoc]
    exact .one (hb.append hb') hr hb''
  | cons hb' hr hb'' hrest =>
    rw [← List.append_assoc]
    exact .cons (hb.append hb') hr hb'' hrest

/-- Each part has at least one character. -/
theorem Listed.length_le {α : Type} {R : List Char → α → Prop}
    (hne : ∀ {cs : List Char} {a : α}, R cs a → cs ≠ []) {cs : List Char} {as : List α}
    (h : Listed R cs as) : as.length ≤ cs.length := by
  induction h with
  | one _ hr _ =>
    have := List.length_pos_iff.mpr (hne hr)
    simp only [List.length_append, List.length_singleton]
    omega
  | cons _ hr _ _ ih =>
    simp only [List.length_append, List.length_cons]
    omega

/-! ### Lists -/

section

variable {item : ValueReader} {R : List Char → Value → Prop}

theorem readItems_sound (h : Reads item R) : ∀ {n : Nat} {cs rest : List Char} {vs : List Value},
    readItems item n cs = .ok (vs, rest) → ∃ body, cs = body ++ ']' :: rest ∧ Listed R body vs
  | 0, _, _, _, hread => by cases hread
  | n + 1, cs, rest, vs, hread => by
    obtain ⟨⟨v, behind⟩, hitem, hbehind⟩ := bind_eq_ok_iff.mp hread
    obtain ⟨b, front, hb, rfl, hr⟩ := h.sound hitem
    dsimp only at hbehind
    split at hbehind
    · cases hbehind
    · next hskip =>
      obtain ⟨b', hb', rfl⟩ := skipBlank_eq_cons hskip
      cases hbehind
      exact ⟨b ++ (front ++ b'), by simp only [List.append_assoc], .one hb hr hb'⟩
    · next next hskip =>
      obtain ⟨b', hb', rfl⟩ := skipBlank_eq_cons hskip
      split at hbehind
      · cases hbehind
      · cases hbehind
      · obtain ⟨⟨vs', end_⟩, hitems, hvs⟩ := bind_eq_ok_iff.mp hbehind
        cases hvs
        obtain ⟨body, hbody, hlisted⟩ := readItems_sound h hitems
        obtain ⟨b'', hb'', hsplit⟩ := exists_blanks next
        rw [hbody] at hsplit
        refine ⟨_, ?_, .cons hb hr hb' (hlisted.append_blanks hb'')⟩
        rw [hsplit]
        simp only [List.append_assoc, List.cons_append]
    · cases hbehind

/-- A bracket behind an item ends the list. -/
theorem readItems_last {n : Nat} {cs b rest : List Char} {v : Value}
    (hitem : item cs = .ok (v, b ++ ']' :: rest)) (hb : Blanks b) :
    readItems item (n + 1) cs = .ok ([v], rest) := by
  have hskip : skipBlank (b ++ ']' :: rest) = ']' :: rest :=
    skipBlank_append_cons hb (by decide) rest
  refine bind_eq_ok_iff.mpr ⟨_, hitem, ?_⟩
  simp only [hskip]
  rfl

/-- A comma behind an item is in front of more items. -/
theorem readItems_more {n : Nat} {cs b next tail rest : List Char} {c : Char} {v : Value}
    {vs : List Value} (hitem : item cs = .ok (v, b ++ ',' :: next)) (hb : Blanks b)
    (hnext : skipBlank next = c :: tail) (hc : c ≠ ']')
    (hread : readItems item n (c :: tail) = .ok (vs, rest)) :
    readItems item (n + 1) cs = .ok (v :: vs, rest) := by
  have hskip : skipBlank (b ++ ',' :: next) = ',' :: next :=
    skipBlank_append_cons hb (by decide) next
  refine bind_eq_ok_iff.mpr ⟨_, hitem, ?_⟩
  simp only [hskip, hnext]
  split
  · next heq => cases heq
  · next heq =>
    cases heq
    exact absurd rfl hc
  · exact bind_eq_ok_iff.mpr ⟨_, hread, rfl⟩

theorem readItems_complete (h : Reads item R) : ∀ {n : Nat} {body : List Char} {vs : List Value},
    Listed R body vs → vs.length ≤ n → ∀ rest,
    readItems item n (body ++ ']' :: rest) = .ok (vs, rest)
  | 0, _, _, hlisted, hn, _ => by
    cases hlisted <;> cases hn
  | n + 1, _, _, .one hb hr hb', hn, rest => by
    rw [List.append_assoc, List.append_assoc]
    exact readItems_last (h.complete hb hr (ends_append hb' (by decide) rest)) hb'
  | n + 1, _, _, .cons hb hr hb' hrest, hn, rest => by
    obtain ⟨b, c, tail, hblank, rfl, ⟨hc, hclose⟩, hrest⟩ := hrest.exists_head h.head
    have hread := readItems_complete h hrest (Nat.le_of_succ_le_succ hn) rest
    rw [List.append_assoc, List.append_assoc, List.append_assoc]
    exact readItems_more (h.complete hb hr (ends_append hb' (by decide) _)) hb'
      (skipBlank_append_cons_append hblank hc tail _) hclose hread

/-- What is no bracket behind an opening one begins the items. -/
theorem readArray_of_items {cs tail rest : List Char} {c : Char} {vs : List Value}
    (hnext : skipBlank cs = c :: tail) (hc : c ≠ ']')
    (hread : readItems item (c :: tail).length (c :: tail) = .ok (vs, rest)) :
    readArray item cs = .ok (.array vs, rest) := by
  unfold readArray
  rw [hnext]
  split
  · next heq => cases heq
  · next heq =>
    cases heq
    exact absurd rfl hc
  · exact map_eq_ok_iff.mpr ⟨_, hread, rfl⟩

/-- The inside of a list and the bracket behind it are read. -/
theorem readArray_eq_ok_iff (h : Reads item R) {cs rest : List Char} {v : Value} :
    readArray item cs = .ok (v, rest) ↔
      ∃ body vs, cs = body ++ ']' :: rest ∧ Elements R body vs ∧ v = .array vs := by
  constructor
  · intro hread
    unfold readArray at hread
    split at hread
    · cases hread
    · next hskip =>
      obtain ⟨b, hb, rfl⟩ := skipBlank_eq_cons hskip
      cases hread
      exact ⟨b, [], rfl, .nil hb, rfl⟩
    · obtain ⟨⟨vs, rest'⟩, hitems, hv⟩ := map_eq_ok_iff.mp hread
      cases hv
      obtain ⟨body, hbody, hlisted⟩ := readItems_sound h hitems
      obtain ⟨b, hb, hsplit⟩ := exists_blanks cs
      rw [hbody, ← List.append_assoc] at hsplit
      exact ⟨b ++ body, vs, hsplit, .listed (hlisted.append_blanks hb), rfl⟩
  · rintro ⟨body, vs, rfl, hb | hlisted, rfl⟩
    · have hskip : skipBlank (body ++ ']' :: rest) = ']' :: rest :=
        skipBlank_append_cons hb (by decide) rest
      simp only [readArray, hskip]
    · obtain ⟨b, c, tail, hb, rfl, ⟨hc, hclose⟩, hlisted⟩ := hlisted.exists_head h.head
      have hlength : vs.length ≤ (c :: tail ++ ']' :: rest).length := by
        refine (hlisted.length_le h.ne_nil).trans ?_
        rw [List.length_append]
        omega
      exact readArray_of_items (skipBlank_append_cons_append hb hc tail _) hclose
        (readItems_complete h hlisted hlength rest)

/-! ### Objects -/

/-- A member begins with the quote of its key. -/
theorem Member.head {α : Type} {S : List Char → α → Prop} {cs : List Char} {m : String × α}
    (h : Member S cs m) : ∃ c tail, cs = c :: tail ∧ c = '"' := by
  obtain ⟨⟨_⟩, _, _, _⟩ := h
  exact ⟨'"', _, rfl, rfl⟩

theorem readMember_sound (h : Reads item R) {cs rest : List Char} {m : String × Value}
    (hread : readMember item cs = .ok (m, rest)) :
    ∃ front, '"' :: cs = front ++ rest ∧ Member R front m := by
  obtain ⟨⟨key, behind⟩, hkey, hbehind⟩ := bind_eq_ok_iff.mp hread
  obtain ⟨ks, rfl, hq⟩ := quoted_of_readText hkey
  dsimp only at hbehind
  split at hbehind
  · cases hbehind
  · next next hskip =>
    obtain ⟨b, hb, rfl⟩ := skipBlank_eq_cons hskip
    obtain ⟨⟨v, after⟩, hitem, hm⟩ := bind_eq_ok_iff.mp hbehind
    cases hm
    obtain ⟨b', front, hb', rfl, hr⟩ := h.sound hitem
    have htext : SpellsText ('"' :: ks ++ ['"']) (String.ofList key) :=
      .mk (by rwa [String.toList_ofList])
    refine ⟨_, ?_, .mk htext hb hb' hr⟩
    simp only [List.append_assoc, List.cons_append, List.nil_append]
  · cases hbehind

theorem readMember_complete (h : Reads item R) {cs rest : List Char} {m : String × Value}
    (hm : Member R ('"' :: cs) m) (hends : Ends rest) :
    readMember item (cs ++ rest) = .ok (m, rest) := by
  generalize hcs : '"' :: cs = front at hm
  obtain @⟨_, b, b', vs, key, v, @⟨ks, _, hq⟩, hb, hb', hr⟩ := hm
  obtain rfl : cs = ks ++ '"' :: (b ++ ':' :: (b' ++ vs)) := by
    simpa only [List.cons_append, List.append_assoc, List.nil_append, List.cons.injEq,
      true_and] using hcs
  have hkey := readText_of_quoted hq (b ++ ':' :: (b' ++ (vs ++ rest)))
  have hskip : skipBlank (b ++ ':' :: (b' ++ (vs ++ rest))) = ':' :: (b' ++ (vs ++ rest)) :=
    skipBlank_append_cons hb (by decide) _
  simp only [List.append_assoc, List.cons_append]
  refine bind_eq_ok_iff.mpr ⟨_, hkey, ?_⟩
  simp only [hskip]
  refine bind_eq_ok_iff.mpr ⟨_, h.complete hb' hr hends, ?_⟩
  rw [String.ofList_toList]
  rfl

theorem readMembers_sound (h : Reads item R) : ∀ {n : Nat} {cs rest : List Char}
    {ms : List (String × Value)}, readMembers item n cs = .ok (ms, rest) →
    ∃ body, '"' :: cs = body ++ '\x7d' :: rest ∧ Listed (Member R) body ms
  | 0, _, _, _, hread => by cases hread
  | n + 1, cs, rest, ms, hread => by
    obtain ⟨⟨m, behind⟩, hmember, hbehind⟩ := bind_eq_ok_iff.mp hread
    obtain ⟨front, hfront, hm⟩ := readMember_sound h hmember
    dsimp only at hbehind
    split at hbehind
    · cases hbehind
    · next hskip =>
      obtain ⟨b, hb, rfl⟩ := skipBlank_eq_cons hskip
      cases hbehind
      exact ⟨[] ++ (front ++ b), by rw [hfront, List.nil_append, List.append_assoc],
        .one Blanks.nil hm hb⟩
    · next next hskip =>
      obtain ⟨b, hb, rfl⟩ := skipBlank_eq_cons hskip
      split at hbehind
      · cases hbehind
      · next hnext =>
        obtain ⟨b', hb', rfl⟩ := skipBlank_eq_cons hnext
        obtain ⟨⟨ms', end_⟩, hmembers, hms⟩ := bind_eq_ok_iff.mp hbehind
        cases hms
        obtain ⟨body, hbody, hlisted⟩ := readMembers_sound h hmembers
        refine ⟨_, ?_, .cons Blanks.nil hm hb (hlisted.append_blanks hb')⟩
        rw [hfront, hbody]
        simp only [List.append_assoc, List.cons_append, List.nil_append]
      · cases hbehind
      · cases hbehind
    · cases hbehind

/-- A brace behind a member ends the object. -/
theorem readMembers_last {n : Nat} {cs b rest : List Char} {m : String × Value}
    (hmember : readMember item cs = .ok (m, b ++ '\x7d' :: rest)) (hb : Blanks b) :
    readMembers item (n + 1) cs = .ok ([m], rest) := by
  have hskip : skipBlank (b ++ '\x7d' :: rest) = '\x7d' :: rest :=
    skipBlank_append_cons hb (by decide) rest
  refine bind_eq_ok_iff.mpr ⟨_, hmember, ?_⟩
  simp only [hskip]
  rfl

/-- A comma behind a member is in front of more members, and the next one begins with a quote. -/
theorem readMembers_more {n : Nat} {cs b next tail rest : List Char} {m : String × Value}
    {ms : List (String × Value)} (hmember : readMember item cs = .ok (m, b ++ ',' :: next))
    (hb : Blanks b) (hnext : skipBlank next = '"' :: tail)
    (hread : readMembers item n tail = .ok (ms, rest)) :
    readMembers item (n + 1) cs = .ok (m :: ms, rest) := by
  have hskip : skipBlank (b ++ ',' :: next) = ',' :: next :=
    skipBlank_append_cons hb (by decide) next
  refine bind_eq_ok_iff.mpr ⟨_, hmember, ?_⟩
  simp only [hskip, hnext]
  exact bind_eq_ok_iff.mpr ⟨_, hread, rfl⟩

theorem readMembers_complete (h : Reads item R) : ∀ {n : Nat} {body : List Char}
    {ms : List (String × Value)}, Listed (Member R) body ms → ms.length ≤ n → ∀ rest,
    ∃ b cs, Blanks b ∧ body = b ++ '"' :: cs ∧
      readMembers item n (cs ++ '\x7d' :: rest) = .ok (ms, rest)
  | 0, _, _, hlisted, hn, _ => by
    cases hlisted <;> cases hn
  | n + 1, _, _, @Listed.one _ _ b _ b' _ hb hm hb', hn, rest => by
    obtain ⟨_, tail, rfl, rfl⟩ := hm.head
    refine ⟨b, tail ++ b', hb, rfl, ?_⟩
    rw [List.append_assoc]
    exact readMembers_last (readMember_complete h hm (ends_append hb' (by decide) rest)) hb'
  | n + 1, _, _, @Listed.cons _ _ b _ b' _ _ _ hb hm hb' hrest, hn, rest => by
    obtain ⟨_, tail, rfl, rfl⟩ := hm.head
    obtain ⟨b'', next, hb'', rfl, hread⟩ :=
      readMembers_complete h hrest (Nat.le_of_succ_le_succ hn) rest
    refine ⟨b, tail ++ (b' ++ ',' :: (b'' ++ '"' :: next)), hb, rfl, ?_⟩
    rw [List.append_assoc, List.append_assoc, List.cons_append]
    exact readMembers_more (readMember_complete h hm (ends_append hb' (by decide) _)) hb'
      (skipBlank_append_cons_append hb'' (by decide) next _) hread

/-- A quote behind an opening brace begins the members. -/
theorem readObjectBody_of_members {cs tail rest : List Char} {ms : List (String × Value)}
    (hnext : skipBlank cs = '"' :: tail)
    (hread : readMembers item (tail.length + 1) tail = .ok (ms, rest)) :
    readObjectBody item cs = .ok (ms, rest) := by
  simpa only [readObjectBody, hnext] using hread

/-- The inside of an object and the brace behind it are read. -/
theorem readObjectBody_eq_ok_iff (h : Reads item R) {cs rest : List Char}
    {ms : List (String × Value)} : readObjectBody item cs = .ok (ms, rest) ↔
      ∃ body, cs = body ++ '\x7d' :: rest ∧ Elements (Member R) body ms := by
  constructor
  · intro hread
    unfold readObjectBody at hread
    split at hread
    · cases hread
    · next hskip =>
      obtain ⟨b, hb, rfl⟩ := skipBlank_eq_cons hskip
      cases hread
      exact ⟨b, rfl, .nil hb⟩
    · next hskip =>
      obtain ⟨b, hb, rfl⟩ := skipBlank_eq_cons hskip
      obtain ⟨body, hbody, hlisted⟩ := readMembers_sound h hread
      rw [hbody, ← List.append_assoc]
      exact ⟨b ++ body, rfl, .listed (hlisted.append_blanks hb)⟩
    · cases hread
  · rintro ⟨body, rfl, hb | hlisted⟩
    · have hskip : skipBlank (body ++ '\x7d' :: rest) = '\x7d' :: rest :=
        skipBlank_append_cons hb (by decide) rest
      simp only [readObjectBody, hskip]
    · obtain ⟨b, c, tail, hb, rfl, rfl, hlisted⟩ := hlisted.exists_head Member.head
      have hlength : ms.length ≤ (tail ++ '\x7d' :: rest).length + 1 := by
        refine (hlisted.length_le fun hm => ?_).trans ?_
        · obtain ⟨_, _, rfl, -⟩ := hm.head
          exact List.cons_ne_nil _ _
        · rw [List.length_cons, List.length_append]
          omega
      obtain ⟨b', tail', hb', heq, hread⟩ := readMembers_complete h hlisted hlength rest
      have hskip := congrArg skipBlank heq
      rw [skipBlank_append_cons hb' (by decide), skipBlank_cons (by decide)] at hskip
      obtain rfl := (List.cons.inj hskip).2
      exact readObjectBody_of_members (skipBlank_append_cons_append hb (by decide) tail _) hread

end

end Json
end SignedHooks
