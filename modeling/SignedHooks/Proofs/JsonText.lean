/-
# What the reader of JSON texts takes

Behind an opening quote the reader goes to the closing one, and what it takes on
the way are the productions of texts, each with the character that it means
(`Json.readText_of_quoted`, `Json.quoted_of_readText`). Half a pair of
surrogates is no number of a character (`Json.toNat_ofNat_unit`), so where a unit
stands for a character the reader and the grammar ask the same.

Key theorems: `Json.digitValue?_eq_some_iff`, `Json.unit?_eq_some_iff`,
`Json.letterEscape?_eq_some_iff`, `Json.readText_of_quoted`, `Json.quoted_of_readText`.
-/
import SignedHooks.Proofs.JsonGrammar
import SignedHooks.Proofs.Utf8

namespace SignedHooks
namespace Json

/-! ### Escapes -/

theorem letterEscape?_eq_some_iff {l c : Char} : letterEscape? l = some c ↔ (l, c) ∈ escapes := by
  constructor
  · intro h
    unfold letterEscape? at h
    split_ifs at h <;> cases h <;> subst l <;> decide
  · intro h
    simp only [escapes, List.mem_cons, Prod.mk.injEq, List.not_mem_nil, or_false] at h
    rcases h with ⟨rfl, rfl⟩ | ⟨rfl, rfl⟩ | ⟨rfl, rfl⟩ | ⟨rfl, rfl⟩ | ⟨rfl, rfl⟩ | ⟨rfl, rfl⟩ |
      ⟨rfl, rfl⟩ | ⟨rfl, rfl⟩ <;> rfl

theorem isHexDigit_of_value : ∀ k : Fin 128, ∀ n ∈ Hex.digitValue? (Char.ofNat k), n < 16 ∧
    (Char.ofNat k = Nat.digitChar n ∨ Char.ofNat k = (Nat.digitChar n).toUpper) := by
  decide +kernel

theorem value_of_isHexDigit : ∀ n : Fin 16, Hex.digitValue? (Nat.digitChar n) = some n.val ∧
    Hex.digitValue? (Nat.digitChar n).toUpper = some n.val := by
  decide

theorem digitValue?_eq_some_iff {c : Char} {n : Nat} :
    Hex.digitValue? c = some n ↔ IsHexDigit c n := by
  constructor
  · intro h
    have hc : c.toNat < 128 := by
      unfold Hex.digitValue? at h
      simp only [Bool.and_eq_true, decide_eq_true_eq, Char.le_def, UInt32.le_iff_toNat_le,
        Char.toNat_val, Char.reduceToNat] at h
      split_ifs at h <;> omega
    have := isHexDigit_of_value ⟨c.toNat, hc⟩ n
    rw [Char.ofNat_toNat] at this
    exact this h
  · rintro ⟨hn, rfl | rfl⟩
    · exact (value_of_isHexDigit ⟨n, hn⟩).1
    · exact (value_of_isHexDigit ⟨n, hn⟩).2

theorem unit?_eq_some_iff {a b c d : Char} {n : Nat} :
    unit? a b c d = some n ↔ SpellsUnit [a, b, c, d] n := by
  constructor
  · intro h
    simp only [unit?, Option.bind_eq_bind, Option.bind_eq_some_iff, Option.pure_def,
      Option.some.injEq] at h
    obtain ⟨i, hi, j, hj, k, hk, l, hl, rfl⟩ := h
    exact .mk (digitValue?_eq_some_iff.mp hi) (digitValue?_eq_some_iff.mp hj)
      (digitValue?_eq_some_iff.mp hk) (digitValue?_eq_some_iff.mp hl)
  · rintro ⟨hi, hj, hk, hl⟩
    simp only [unit?, digitValue?_eq_some_iff.mpr hi, digitValue?_eq_some_iff.mpr hj,
      digitValue?_eq_some_iff.mpr hk, digitValue?_eq_some_iff.mpr hl, Option.bind_eq_bind,
      Option.bind_some, Option.pure_def]

theorem SpellsUnit.lt {ds : List Char} {n : Nat} (h : SpellsUnit ds n) : n < 0x10000 := by
  obtain ⟨⟨hi, -⟩, ⟨hj, -⟩, ⟨hk, -⟩, ⟨hl, -⟩⟩ := h
  omega

/-- A unit that is no half of a pair is the number of a character. -/
theorem toNat_ofNat_unit {ds : List Char} {n : Nat} (h : SpellsUnit ds n)
    (hlow : ¬ isLowHalf n = true) (hhigh : ¬ isHighHalf n = true) : (Char.ofNat n).toNat = n := by
  have hlt := h.lt
  simp only [isLowHalf, isHighHalf, Bool.and_eq_true, decide_eq_true_eq] at hlow hhigh
  exact Utf8.toNat_ofNat (by omega)

/-- The number of a character is no half of a pair. -/
theorem not_half_toNat (c : Char) : isLowHalf c.toNat = false ∧ isHighHalf c.toNat = false := by
  have hvalid : c.toNat.isValidChar := c.valid
  unfold Nat.isValidChar at hvalid
  simp only [isLowHalf, isHighHalf, Bool.and_eq_false_iff, decide_eq_false_iff_not]
  omega

/-- The halves of a pair, as what they add to the first of their kind. -/
theorem toNat_pairChar {i j : Nat} (hi : i < 0x400) (hj : j < 0x400) :
    (pairChar (0xD800 + i) (0xDC00 + j)).toNat = 0x10000 + (i * 0x400 + j) := by
  have hsum : (0xD800 + i - 0xD800) * 0x400 + (0xDC00 + j - 0xDC00) + 0x10000 =
      0x10000 + (i * 0x400 + j) := by omega
  rw [pairChar, hsum, Utf8.toNat_ofNat (by omega)]

/-! ### Texts -/

theorem consText_eq_ok_iff {c : Char} {read : Except Fault (List Char × List Char)}
    {s rest : List Char} : consText c read = .ok (s, rest) ↔
      ∃ tail, s = c :: tail ∧ read = .ok (tail, rest) := by
  cases read with
  | error fault => simp [consText, Except.map]
  | ok p =>
    obtain ⟨tail, r⟩ := p
    simp only [consText, Except.map, Except.ok.injEq, Prod.mk.injEq]
    constructor
    · rintro ⟨rfl, rfl⟩
      exact ⟨tail, rfl, rfl, rfl⟩
    · rintro ⟨_, rfl, rfl, rfl⟩
      exact ⟨rfl, rfl⟩

theorem readText_plain {c : Char} (hspace : ' ' ≤ c) (hquote : c ≠ '"') (hslash : c ≠ '\\')
    (rest : List Char) : readText (c :: rest) = consText c (readText rest) := by
  rw [readText]
  · rw [if_neg (not_lt.mpr hspace)]
  all_goals simp [hquote, hslash]

theorem readText_letter {l c : Char} (h : (l, c) ∈ escapes) (rest : List Char) :
    readText ('\\' :: l :: rest) = consText c (readText rest) := by
  have hl : l ≠ 'u' := by
    rintro rfl
    exact absurd (letterEscape?_eq_some_iff.mpr h) (by simp [letterEscape?])
  rw [readText, letterEscape?_eq_some_iff.mpr h]
  simp [hl]

theorem readText_unit {c : Char} {ds : List Char} (h : SpellsUnit ds c.toNat) (rest : List Char) :
    readText ('\\' :: 'u' :: ds ++ rest) = consText c (readText rest) := by
  obtain ⟨hlow, hhigh⟩ := not_half_toNat c
  generalize hn : c.toNat = n at h hlow hhigh
  obtain ⟨hi, hj, hk, hl⟩ := h
  have hunit := unit?_eq_some_iff.mpr (SpellsUnit.mk hi hj hk hl)
  simp only [List.cons_append, List.nil_append, readText, hunit, hlow, hhigh, Bool.false_eq_true,
    if_false]
  rw [← hn, Char.ofNat_toNat]

theorem readText_pair {c : Char} {i j : Nat} {hs ls : List Char} (hi : i < 0x400) (hj : j < 0x400)
    (hhs : SpellsUnit hs (0xD800 + i)) (hls : SpellsUnit ls (0xDC00 + j))
    (hc : c.toNat = 0x10000 + (i * 0x400 + j)) (rest : List Char) :
    readText ('\\' :: 'u' :: hs ++ ('\\' :: 'u' :: ls ++ rest)) = consText c (readText rest) := by
  have hchar : pairChar (0xD800 + i) (0xDC00 + j) = c := by
    rw [← Char.ofNat_toNat c, hc, ← toNat_pairChar hi hj, Char.ofNat_toNat]
  have hnotlow : isLowHalf (0xD800 + i) = false := by
    simp only [isLowHalf, Bool.and_eq_false_iff, decide_eq_false_iff_not]
    omega
  have hhigh : isHighHalf (0xD800 + i) = true := by
    simp only [isHighHalf, Bool.and_eq_true, decide_eq_true_eq]
    omega
  have hlow : isLowHalf (0xDC00 + j) = true := by
    simp only [isLowHalf, Bool.and_eq_true, decide_eq_true_eq]
    omega
  generalize 0xD800 + i = n at *
  generalize 0xDC00 + j = m at *
  obtain ⟨hi, hj, hk, hl⟩ := hhs
  obtain ⟨hi', hj', hk', hl'⟩ := hls
  have hfirst := unit?_eq_some_iff.mpr (SpellsUnit.mk hi hj hk hl)
  have hsecond := unit?_eq_some_iff.mpr (SpellsUnit.mk hi' hj' hk' hl')
  simp only [List.cons_append, List.nil_append, readText, hfirst, hnotlow, hhigh, hsecond, hlow,
    Bool.false_eq_true, if_false, if_true, hchar]

/-- What the grammar calls a text is read, up to the quote behind it. -/
theorem readText_of_quoted {cs s : List Char} (h : Quoted cs s) (rest : List Char) :
    readText (cs ++ '"' :: rest) = .ok (s, rest) := by
  induction h with
  | nil => exact readText_quote rest
  | plain hspace hquote hslash _ ih =>
    rw [List.cons_append, readText_plain hspace hquote hslash, ih]
    rfl
  | letter hl _ ih =>
    rw [List.cons_append, List.cons_append, readText_letter hl, ih]
    rfl
  | unit hds _ ih =>
    rw [List.append_assoc, readText_unit hds, ih]
    rfl
  | pair hi hj hhs hls hc _ ih =>
    rw [List.append_assoc, List.append_assoc, readText_pair hi hj hhs hls hc, ih]
    rfl

/-- What is read is a text of the grammar, with the quote behind it. -/
theorem quoted_of_readText {cs s rest : List Char} (h : readText cs = .ok (s, rest)) :
    ∃ front, cs = front ++ '"' :: rest ∧ Quoted front s := by
  fun_induction readText cs generalizing s
  case case2 =>
    cases h
    exact ⟨[], rfl, .nil⟩
  case case9 e f g h' n hfirst _ hhigh e' f' g' h'' behind m hsecond hlow ih =>
    -- the halves of a pair
    obtain ⟨tail, rfl, htail⟩ := consText_eq_ok_iff.mp h
    obtain ⟨front, rfl, hq⟩ := ih htail
    simp only [isHighHalf, isLowHalf, Bool.and_eq_true, decide_eq_true_eq] at hhigh hlow
    obtain ⟨i, rfl⟩ := Nat.exists_eq_add_of_le hhigh.1
    obtain ⟨j, rfl⟩ := Nat.exists_eq_add_of_le hlow.1
    have hi : i < 0x400 := by omega
    have hj : j < 0x400 := by omega
    exact ⟨_, rfl, .pair hi hj (unit?_eq_some_iff.mp hfirst) (unit?_eq_some_iff.mp hsecond)
      (toNat_pairChar hi hj) hq⟩
  case case14 e f g h' behind n hunit hlow hhigh ih =>
    -- a unit that is a character
    obtain ⟨tail, rfl, htail⟩ := consText_eq_ok_iff.mp h
    obtain ⟨front, rfl, hq⟩ := ih htail
    have hspells := unit?_eq_some_iff.mp hunit
    have hn := toNat_ofNat_unit hspells hlow hhigh
    exact ⟨_, rfl, .unit (hn.symm ▸ hspells) hq⟩
  case case16 l behind _ c hl ih =>
    obtain ⟨tail, rfl, htail⟩ := consText_eq_ok_iff.mp h
    obtain ⟨front, rfl, hq⟩ := ih htail
    exact ⟨_, rfl, .letter (letterEscape?_eq_some_iff.mp hl) hq⟩
  case case19 c behind hquote hend _ hslash hspace ih =>
    obtain ⟨tail, rfl, htail⟩ := consText_eq_ok_iff.mp h
    obtain ⟨front, rfl, hq⟩ := ih htail
    have hne : c ≠ '\\' := fun heq => by
      cases front with
      | nil => exact hslash _ _ heq rfl
      | cons d front => exact hslash _ _ heq rfl
    exact ⟨c :: front, rfl, .plain (not_lt.mp hspace) hquote hne hq⟩
  -- all other answers are faults
  all_goals cases h

end Json
end SignedHooks
