/-
# One look-up for all collections of headers

Whatever shape the headers of a delivery have, a name is looked up in them as in
a list of pairs (`Headers.get?_agree`): in a table as in the list of its entries
in the order in which it is scanned (`HeaderTable.get?_eq_pairValue?`), and in
the fields of a message as in the list of the headers that it took, with their
names in lower case (`Fields.get?_eq_pairValue?`). And if no two names are the
same up to case, neither the order of the entries nor the case of a name matters
(`Headers.pairValue?_congr`).

Key definitions: `Header.lowered`, `Header.Distinct`.
Key theorems: `HeaderTable.get?_eq_pairValue?`, `Fields.get?_eq_pairValue?`,
`Fields.visible?_eq_some_iff`, `Headers.pairValue?_congr`, `Headers.get?_agree`.
-/
import Mathlib.Data.List.Nodup
import SignedHooks.Proofs.Headers

namespace SignedHooks

/-! ### Names in lower case -/

namespace Header

theorem toNat_toLower (c : Char) :
    c.toLower.toNat = if 65 ≤ c.toNat ∧ c.toNat ≤ 90 then c.toNat + 32 else c.toNat := by
  have hrange : ('A'.val ≤ c.val ∧ c.val ≤ 'Z'.val) ↔ 65 ≤ c.toNat ∧ c.toNat ≤ 90 := by
    simp only [UInt32.le_iff_toNat_le]
    rfl
  unfold Char.toLower
  by_cases h : 65 ≤ c.toNat ∧ c.toNat ≤ 90
  · rw [dif_pos (hrange.mpr h), if_pos h]
    have hadd : (c.val + 32).toNat = c.toNat + 32 := by
      rw [UInt32.toNat_add]
      change (c.toNat + 32) % 2 ^ 32 = _
      omega
    exact hadd
  · rw [dif_neg (mt hrange.mp h), if_neg h]

theorem toLower_toLower (c : Char) : c.toLower.toLower = c.toLower := by
  rw [← Char.toNat_inj, toNat_toLower c.toLower, if_neg]
  rw [toNat_toLower]
  split <;> omega

@[simp] theorem lower_lower (name : String) : lower (lower name) = lower name := by
  simp only [lower, String.toList_ofList, List.map_map]
  exact congrArg String.ofList (List.map_congr_left fun c _ => toLower_toLower c)

theorem same_iff (a b : String) : same a b = true ↔ lower a = lower b :=
  beq_iff_eq

theorem isAlphanum_iff (c : Char) : c.isAlphanum = true ↔
    (65 ≤ c.toNat ∧ c.toNat ≤ 90) ∨ (97 ≤ c.toNat ∧ c.toNat ≤ 122) ∨
      (48 ≤ c.toNat ∧ c.toNat ≤ 57) := by
  have hupper : c.isUpper = true ↔ 65 ≤ c.toNat ∧ c.toNat ≤ 90 := decide_eq_true_iff
  have hlower : c.isLower = true ↔ 97 ≤ c.toNat ∧ c.toNat ≤ 122 :=
    Bool.and_eq_true_iff.trans (and_congr decide_eq_true_iff decide_eq_true_iff)
  have hdigit : c.isDigit = true ↔ 48 ≤ c.toNat ∧ c.toNat ≤ 57 :=
    Bool.and_eq_true_iff.trans (and_congr decide_eq_true_iff decide_eq_true_iff)
  have halpha : c.isAlphanum = ((c.isUpper || c.isLower) || c.isDigit) := rfl
  rw [halpha, Bool.or_eq_true, Bool.or_eq_true, hupper, hlower, hdigit, or_assoc]

/-- Being a token does not depend on case. -/
theorem isToken_lower (name : String) : isToken (lower name) = isToken name := by
  have hchar : ∀ c : Char, isTokenChar c.toLower = isTokenChar c := by
    intro c
    by_cases h : 65 ≤ c.toNat ∧ c.toNat ≤ 90
    · have hup : c.isAlphanum = true := (isAlphanum_iff c).mpr (.inl h)
      have hlow : c.toLower.isAlphanum = true := by
        rw [isAlphanum_iff, toNat_toLower, if_pos h]
        omega
      rw [isTokenChar, isTokenChar, hup, hlow, Bool.true_or, Bool.true_or]
    · have hsame : c.toLower = c := by rw [← Char.toNat_inj, toNat_toLower, if_neg h]
      rw [hsame]
  have hempty : (lower name).isEmpty = name.isEmpty := by
    rw [Bool.eq_iff_iff, String.isEmpty_iff, String.isEmpty_iff, ← String.toList_inj,
      ← String.toList_inj, lower, String.toList_ofList]
    exact List.map_eq_nil_iff
  rw [isToken, isToken, hempty]
  simp only [lower, String.toList_ofList, List.length_map, List.all_map, Function.comp_def, hchar]

variable {α β : Type}

/-- The entries with their names in lower case. -/
def lowered (entries : List (String × α)) : List (String × α) :=
  entries.map fun e => (lower e.1, e.2)

/-- No two names are the same up to case. -/
def Distinct (entries : List (String × α)) : Prop :=
  entries.Pairwise fun e e' => same e.1 e'.1 = false

theorem mem_lowered {entries : List (String × α)} {name : String} {value : α} :
    (name, value) ∈ lowered entries ↔ ∃ e ∈ entries, lower e.1 = name ∧ e.2 = value := by
  simp only [lowered, List.mem_map, Prod.mk.injEq]

/-- Names that differ in more than case are those that differ in lower case. -/
theorem distinct_iff_nodup (entries : List (String × α)) :
    Distinct entries ↔ ((lowered entries).map (·.1)).Nodup := by
  rw [Distinct, lowered, List.map_map, List.Nodup, List.pairwise_map]
  simp only [← Bool.not_eq_true, same_iff]
  rfl

end Header

/-! ### Pairs -/

namespace Headers

open Header

variable {α β : Type}

/-- What is found under a name stands under a name that is the same up to case. -/
theorem exists_of_pairValue? {entries : List (String × α)} {name : String} {value : α}
    (h : pairValue? entries name = some value) : (lower name, value) ∈ lowered entries := by
  obtain ⟨e, hfound, rfl⟩ := Option.map_eq_some_iff.mp h
  rcases Option.or_eq_some_iff.mp hfound with hexact | ⟨-, hcase⟩
  · have hname := List.find?_some hexact
    exact mem_lowered.mpr ⟨e, List.mem_of_find?_eq_some hexact, by rw [beq_iff_eq.mp hname], rfl⟩
  · have hname := List.find?_some hcase
    exact mem_lowered.mpr ⟨e, List.mem_of_find?_eq_some hcase, (same_iff _ _).mp hname, rfl⟩

/-- Where a name stands, be it in another case, something is found. -/
theorem pairValue?_ne_none {entries : List (String × α)} {name : String} {value : α}
    (h : (lower name, value) ∈ lowered entries) : pairValue? entries name ≠ none := by
  obtain ⟨e, he, hname, -⟩ := mem_lowered.mp h
  intro hnone
  have hcase := (Option.or_eq_none_iff.mp (Option.map_eq_none_iff.mp hnone)).2
  exact List.find?_eq_none.mp hcase e he ((same_iff _ _).mpr hname)

/-- If no two names are the same up to case, the value of a name is the one that
stands under it in lower case. -/
theorem pairValue?_eq_some_iff {entries : List (String × α)} (hd : Distinct entries)
    {name : String} {value : α} :
    pairValue? entries name = some value ↔ (lower name, value) ∈ lowered entries := by
  refine ⟨exists_of_pairValue?, fun hmem => ?_⟩
  obtain ⟨found, hfound⟩ := Option.ne_none_iff_exists'.mp (pairValue?_ne_none hmem)
  have hsame := List.inj_on_of_nodup_map ((distinct_iff_nodup entries).mp hd)
    (exists_of_pairValue? hfound) hmem rfl
  rw [hfound, (Prod.mk.inj hsame).2]

/-- Then neither the order of the entries nor the case of any name matters. -/
theorem pairValue?_congr {entries entries' : List (String × α)} (hd : Distinct entries)
    (hperm : (lowered entries).Perm (lowered entries')) {name name' : String}
    (hname : same name name' = true) : pairValue? entries name = pairValue? entries' name' := by
  have hd' : Distinct entries' :=
    (distinct_iff_nodup entries').mpr
      ((hperm.map (·.1)).nodup_iff.mp ((distinct_iff_nodup entries).mp hd))
  refine Option.ext fun value => ?_
  rw [pairValue?_eq_some_iff hd, pairValue?_eq_some_iff hd', (same_iff _ _).mp hname,
    hperm.mem_iff]

/-- In lower case a name is spelt exactly so or not at all. -/
theorem pairValue?_lowered (entries : List (String × α)) (name : String) :
    pairValue? (lowered entries) (lower name) =
      ((lowered entries).find? fun e => e.1 == lower name).map (·.2) := by
  have hsame : (lowered entries).find? (fun e => same e.1 (lower name)) =
      (lowered entries).find? fun e => e.1 == lower name := by
    simp only [lowered, List.find?_map, Function.comp_def, same, lower_lower]
  rw [pairValue?, hsame, Option.or_self]

/-- What is looked up does not depend on the values. -/
theorem pairValue?_map (f : α → β) (entries : List (String × α)) (name : String) :
    pairValue? (entries.map fun e => (e.1, f e.2)) name = (pairValue? entries name).map f := by
  simp only [pairValue?, List.find?_map, Function.comp_def, ← Option.map_or, Option.map_map]

/-- In a list of plain texts the value of a name is what is found. -/
theorem get?_ofTexts (entries : List (String × String)) (name : String) :
    (ofTexts entries).get? name = pairValue? entries name := by
  rw [ofTexts, get?, pairValue?_map]
  cases pairValue? entries name <;> rfl

end Headers

/-! ### Tables -/

/-- A table is looked up as the list of its entries. -/
theorem HeaderTable.get?_eq_pairValue? (t : HeaderTable) (name : String) :
    t.get? name = (Headers.pairValue? t.entries name).bind HeaderValue.first := by
  unfold get? find? Headers.pairValue?
  cases t.entries.find? fun e => e.1 == name with
  | some e => rfl
  | none => cases t.entries.find? fun e => Header.same e.1 name <;> rfl

/-! ### Fields -/

namespace Fields

open Header

theorem isVisible_iff (b : UInt8) : isVisible b = true ↔ b = 9 ∨ (0x20 ≤ b ∧ b ≤ 0x7e) := by
  have h127 : (127 : UInt8).toNat = 127 := rfl
  have h126 : (126 : UInt8).toNat = 126 := rfl
  simp only [isVisible, Bool.or_eq_true, beq_iff_eq, Bool.and_eq_true, decide_eq_true_eq,
    UInt8.le_iff_toNat_le, UInt8.lt_iff_toNat_lt, h126, h127, Nat.lt_succ_iff]

/-- A value of which all bytes can be seen is the bytes of the text that is
handed out. -/
theorem visible?_eq_some_iff {value : List UInt8} {s : String} : visible? value = some s ↔
    (∀ b ∈ value, b = 9 ∨ (0x20 ≤ b ∧ b ≤ 0x7e)) ∧ Utf8.encode s = value := by
  have hseen : value.all isVisible = true ↔ ∀ b ∈ value, b = 9 ∨ (0x20 ≤ b ∧ b ≤ 0x7e) := by
    simp only [List.all_eq_true, isVisible_iff]
  by_cases hall : value.all isVisible = true
  · have hbyte : ∀ b ∈ value, String.utf8EncodeChar (Char.ofNat b.toNat) = [b] := by
      intro b hb
      refine Utf8.encodeChar_ofNat_one ?_
      rcases hseen.mp hall b hb with rfl | ⟨-, hle⟩
      · decide
      · exact Nat.lt_of_le_of_lt (UInt8.le_iff_toNat_le.mp hle) (by decide)
    have hbytes : Utf8.encode (String.ofList (value.map fun b => Char.ofNat b.toNat)) = value := by
      rw [Utf8.encode, String.toList_ofList, Utf8.encodeList, List.flatMap_map,
        List.flatMap_congr hbyte, List.flatMap_singleton']
    rw [visible?, if_pos hall, Option.some_inj]
    refine ⟨fun h => ⟨hseen.mp hall, by rw [← h, hbytes]⟩, fun h => ?_⟩
    exact Utf8.encode_injective (hbytes.trans h.2.symm)
  · rw [visible?, if_neg hall]
    exact iff_of_false (by simp) fun h => hall (hseen.mpr h.1)

/-- The bytes of a text are handed out as this text, or not at all. -/
theorem visible?_encode (s : String) : visible? (Utf8.encode s) =
    (some s).filter fun s => (Utf8.encode s).all isVisible := by
  by_cases hall : (Utf8.encode s).all isVisible = true
  · have hkept : (some s).filter (fun s => (Utf8.encode s).all isVisible) = some s :=
      Option.filter_some_pos hall
    rw [hkept, visible?_eq_some_iff]
    exact ⟨fun b hb => (isVisible_iff b).mp (List.all_eq_true.mp hall b hb), rfl⟩
  · have hdropped : (some s).filter (fun s => (Utf8.encode s).all isVisible) = none :=
      Option.filter_some_neg (Bool.eq_false_iff.mpr hall)
    rw [hdropped, visible?, if_neg hall]

/-- The fields of a message are looked up as the list of the headers that it
took, all names in lower case. -/
theorem get?_eq_pairValue? {entries : List (String × List UInt8)} {m : Fields}
    (hm : Fields.empty.appendAll entries = .ok m) (name : String) :
    m.get? name = (Headers.pairValue? (lowered entries) (lower name)).bind visible? := by
  obtain ⟨hlegal, rfl⟩ := appendAll_ok_iff.mp hm
  have hentries : empty.entries ++ entries.map (fun e => (lower e.1, e.2)) = lowered entries :=
    List.nil_append _
  rw [hentries, get?, Headers.pairValue?_lowered]
  by_cases htoken : isToken name = true
  · rw [if_pos htoken, Option.bind_map]
    rfl
  · -- no name of a message is that of a token only up to case
    have hnone : (lowered entries).find? (fun e => e.1 == lower name) = none := by
      rw [List.find?_eq_none]
      intro e he hname
      obtain ⟨e', he', hlow, -⟩ := mem_lowered.mp (show (e.1, e.2) ∈ lowered entries from he)
      apply htoken
      rw [← isToken_lower, ← beq_iff_eq.mp hname, ← hlow, isToken_lower]
      exact (hlegal e' he').1
    rw [if_neg htoken, hnone]
    rfl

/-- Where texts were taken, it is the text found in the list, if it can be seen. -/
theorem get?_of_texts {entries : List (String × String)} {m : Fields}
    (hm : Fields.empty.appendAll (entries.map fun e => (e.1, Utf8.encode e.2)) = .ok m)
    (name : String) : m.get? name =
      ((Headers.ofTexts (lowered entries)).get? (lower name)).filter fun s =>
        (Utf8.encode s).all isVisible := by
  have hlow : lowered (entries.map fun e => (e.1, Utf8.encode e.2)) =
      (lowered entries).map fun e => (e.1, Utf8.encode e.2) := by
    simp only [lowered, List.map_map, Function.comp_def]
  rw [get?_eq_pairValue? hm, hlow, Headers.pairValue?_map, Headers.get?_ofTexts]
  cases Headers.pairValue? (lowered entries) (lower name) with
  | none => rfl
  | some s => exact visible?_encode s

end Fields

/-! ### All collections -/

namespace Headers

open Header

/-- **One look-up.** Tables in any order, arrays, and headers that are lent are
looked up as the list of their pairs. The fields of a message are looked up as
the list of the headers that it took, with all names in lower case, where a value
counts only if all its bytes can be seen. And if no two names are the same up to
case, then neither the order of the entries of a list or a table nor the case of
any name changes what is found. -/
theorem get?_agree :
    (∀ (t : HeaderTable) (name : String), (table t).get? name = (pairs t.entries).get? name) ∧
    (∀ (n : Nat) (entries : Vector (String × HeaderValue) n) (name : String),
      (array n entries).get? name = (pairs entries.toList).get? name) ∧
    (∀ (lender : Headers) (name : String), (lent lender).get? name = lender.get? name) ∧
    (∀ (entries : List (String × List UInt8)) (m : Fields), Fields.empty.appendAll entries = .ok m →
      ∀ name s : String, (fields m).get? name = some s ↔
        ∃ value, pairValue? (lowered entries) (lower name) = some value ∧
          (∀ b ∈ value, b = 9 ∨ (0x20 ≤ b ∧ b ≤ 0x7e)) ∧ Utf8.encode s = value) ∧
    (∀ (entries : List (String × String)) (m : Fields),
      Fields.empty.appendAll (entries.map fun e => (e.1, Utf8.encode e.2)) = .ok m →
      ∀ name : String, (fields m).get? name = ((ofTexts (lowered entries)).get? (lower name)).filter
        fun s => (Utf8.encode s).all Fields.isVisible) ∧
    (∀ (entries entries' : List (String × HeaderValue)) (name name' : String), Distinct entries →
      (lowered entries).Perm (lowered entries') → same name name' = true →
      (pairs entries).get? name = (pairs entries').get? name') ∧
    (∀ (t t' : HeaderTable) (name name' : String), Distinct t.entries →
      (lowered t.entries).Perm (lowered t'.entries) → same name name' = true →
      (table t).get? name = (table t').get? name') := by
  refine ⟨HeaderTable.get?_eq_pairValue?, fun _ _ _ => rfl, fun _ _ => rfl, ?_, ?_, ?_, ?_⟩
  · intro entries m hm name s
    rw [get?, Fields.get?_eq_pairValue? hm, Option.bind_eq_some_iff]
    simp only [Fields.visible?_eq_some_iff]
  · intro entries m hm name
    exact Fields.get?_of_texts hm name
  · intro entries entries' name name' hd hperm hname
    rw [get?, get?, pairValue?_congr hd hperm hname]
  · intro t t' name name' hd hperm hname
    rw [get?, get?, HeaderTable.get?_eq_pairValue?, HeaderTable.get?_eq_pairValue?,
      pairValue?_congr hd hperm hname]

/-- A field that was sent twice, and two headers in the other order and another
case, one of them without a value. -/
theorem get?_agree_recased :
    (fields ⟨[("x-tag", [0x61, 0x09, 0x62]), ("x-tag", [0xfa])]⟩).get? "X-TAG" = some "a\tb" ∧
    (pairs [("x-tag", .absent), ("X-Id", .list [.text "1"])]).get? "X-TAG" =
      (pairs [("x-id", .list [.text "1"]), ("X-Tag", .absent)]).get? "x-tag" ∧
    (table ⟨[("x-tag", .absent), ("X-Id", .text "1")], by decide⟩).get? "X-ID" =
      (table ⟨[("x-id", .text "1"), ("X-Tag", .absent)], by decide⟩).get? "x-id" := by
  refine ⟨?_, ?_, ?_⟩
  · refine (get?_agree.2.2.2.1 [("X-Tag", [0x61, 0x09, 0x62]), ("x-tag", [0xfa])] _ rfl _ _).mpr ?_
    have hall : [0x61, 0x09, 0x62].all Fields.isVisible = true := by decide
    exact ⟨_, rfl, fun b hb => (Fields.isVisible_iff b).mp (List.all_eq_true.mp hall b hb), rfl⟩
  · exact get?_agree.2.2.2.2.2.1 _ _ _ _ (by simp only [Distinct]; decide) (.swap _ _ _) (by decide)
  · exact get?_agree.2.2.2.2.2.2 _ _ _ _ (by simp only [Distinct]; decide) (.swap _ _ _) (by decide)

end Headers
end SignedHooks
