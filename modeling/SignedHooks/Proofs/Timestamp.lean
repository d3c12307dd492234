/-
# What a timestamp header says

A header whose text, trimmed, spells an integer says that integer, brought
into the range of 64 bits (`Timestamp.read_of_spells`). So does one that only
begins with the spelling of an integer out of the range, whatever comes
behind (`Timestamp.read_of_runsOver`); every other header says nothing
(`Timestamp.read_of_not_numeral`). What is written for a millisecond is read
back (`Timestamp.read_write`), and no text that goes on behind it with a dot is
read at all (`Timestamp.read_write_dot`): this is what keeps the timestamp and
the body of a signed message apart.

Key theorems: `Timestamp.read_of_spells`, `Timestamp.read_of_runsOver`,
`Timestamp.read_of_not_numeral`, `Timestamp.fits_of_read`, `Timestamp.read_write`,
`Timestamp.read_write_dot`.
-/
import SignedHooks.Proofs.Decimal
import SignedHooks.Proofs.Trim
import SignedHooks.Timestamp

namespace SignedHooks

namespace Signed64

theorem clamp_of_neg {n : Int} (h : ¬ Fits n) (hn : n < 0) : clamp n = least := by
  unfold Fits least greatest at h
  unfold clamp least
  rw [if_pos (by omega)]

theorem clamp_of_nonneg {n : Int} (h : ¬ Fits n) (hn : ¬ n < 0) : clamp n = greatest := by
  unfold Fits least greatest at h
  unfold clamp least greatest
  rw [if_neg (by omega), if_pos (by omega)]

end Signed64

namespace Timestamp

open Decimal Signed64 Text

/-! ### Reading -/

/-- A header that runs over says the integer of the range that is nearest. -/
theorem read_of_runsOver {header : String} {n : Int} (h : RunsOver (trimList header.toList) n) :
    read header = .ok (clamp n) := by
  obtain ⟨_, _, _, _, hfit⟩ := id h
  rw [read, Signed64.read_of_runsOver h]
  by_cases hn : n < 0
  · simp only [if_pos hn, clamp_of_neg hfit hn]
  · simp only [if_neg hn, clamp_of_nonneg hfit hn]

/-- A header that spells an integer says it, as far as the range goes. -/
theorem read_of_spells {header : String} {n : Int} (h : Spells (trimList header.toList) n) :
    read header = .ok (clamp n) := by
  by_cases hn : Fits n
  · rw [read, Signed64.read_of_spells h hn, clamp_of_fits hn]
  · exact read_of_runsOver ⟨_, [], (List.append_nil _).symm, h, hn⟩

/-- Every other header says nothing. -/
theorem read_of_not_numeral {header : String} (hbad : ¬ IsNumeral (trimList header.toList))
    (hover : ∀ n, ¬ RunsOver (trimList header.toList) n) :
    read header = .error (if trimList header.toList = [] then .empty else .notDecimal) := by
  rw [read, Signed64.read_of_not_numeral hbad hover]
  by_cases hnil : trimList header.toList = []
  · simp only [if_pos hnil]
  · simp only [if_neg hnil]

/-- What a header says is in the range. -/
theorem fits_of_read {header : String} {n : Int} (h : read header = .ok n) : Fits n := by
  by_cases hover : ∃ m, RunsOver (trimList header.toList) m
  · obtain ⟨m, hm⟩ := hover
    rw [read_of_runsOver hm] at h
    cases h
    exact fits_clamp m
  by_cases hnum : IsNumeral (trimList header.toList)
  · obtain ⟨m, hm⟩ := hnum
    rw [read_of_spells hm] at h
    cases h
    exact fits_clamp m
  · rw [read_of_not_numeral hnum (not_exists.mp hover)] at h
    cases h

/-! ### Writing -/

theorem isBlank_of_isDigit {c : Char} (h : c.isDigit = true) : isBlank c = false := by
  simp only [Char.isDigit, Bool.and_eq_true, decide_eq_true_eq, ge_iff_le] at h
  have h0 : 48 ≤ c.toNat := h.1
  have h9 : c.toNat ≤ 57 := h.2
  simp only [isBlank, Bool.or_eq_false_iff, Bool.and_eq_false_iff, decide_eq_false_iff_not,
    beq_eq_false_iff_ne]
  omega

theorem toList_write (millis : Int) : (write millis).toList =
    if millis < 0 then '-' :: digitsOf millis.natAbs else digitsOf millis.natAbs := by
  simp [write]

/-- What is written for an integer spells it. -/
theorem spells_write (millis : Int) : Spells (write millis).toList millis := by
  have hds := digits_digitsOf millis.natAbs
  rw [toList_write]
  by_cases h : millis < 0
  · have hs := Spells.minus hds
    rw [ofDigits_digitsOf, show -(millis.natAbs : Int) = millis by omega] at hs
    rwa [if_pos h]
  · have hs := Spells.plain hds
    rw [ofDigits_digitsOf, show (millis.natAbs : Int) = millis by omega] at hs
    rwa [if_neg h]

/-- What spells an integer holds no blank character. -/
theorem isBlank_of_spells {cs : List Char} {n : Int} (h : Spells cs n) {c : Char} (hc : c ∈ cs) :
    isBlank c = false := by
  rcases h.digit_or_sign hc with hc | rfl | rfl
  · exact isBlank_of_isDigit hc
  · decide
  · decide

/-- No timestamp that is written holds a blank character. -/
theorem isBlank_of_mem_write {millis : Int} {c : Char} (h : c ∈ (write millis).toList) :
    isBlank c = false :=
  isBlank_of_spells (spells_write millis) h

theorem dot_not_mem_of_spells {cs : List Char} {n : Int} (h : Spells cs n) : '.' ∉ cs := by
  intro hc
  rcases h.digit_or_sign hc with h | h | h
  · exact absurd h (by decide)
  · exact absurd h (by decide)
  · exact absurd h (by decide)

theorem trimList_write (millis : Int) :
    trimList (write millis).toList = (write millis).toList :=
  trimList_of_no_blank fun _ => isBlank_of_mem_write

/-- What is written for a millisecond of the range is read back. -/
theorem read_write {millis : Int} (h : Fits millis) : read (write millis) = .ok millis := by
  have hs := spells_write millis
  rw [← trimList_write] at hs
  rw [read_of_spells hs, clamp_of_fits h]

/-- A text that goes on with a dot behind a written timestamp is none: the dot is
met before anything can run over. -/
theorem read_write_dot {millis : Int} (h : Fits millis) {header : String} {rest : List Char}
    (heq : header.toList = (write millis).toList ++ '.' :: rest) :
    read header = .error .notDecimal := by
  obtain ⟨behind, htrim⟩ : ∃ behind,
      trimList header.toList = (write millis).toList ++ '.' :: behind := by
    rw [heq]
    cases hw : (write millis).toList with
    | nil => exact absurd hw (spells_write millis).ne_nil
    | cons c cs =>
      have hc : isBlank c = false := isBlank_of_mem_write (hw ▸ List.mem_cons_self ..)
      exact ⟨_, trimList_cons_append_cons hc (by decide) cs rest⟩
  have hnum : ¬ IsNumeral (trimList header.toList) := by
    rintro ⟨n, hn⟩
    rw [htrim] at hn
    exact dot_not_mem_of_spells hn (List.mem_append_right _ (List.mem_cons_self ..))
  have hover : ∀ n, ¬ RunsOver (trimList header.toList) n := by
    rintro n ⟨front, tail, hsplit, hs, hn⟩
    rw [htrim] at hsplit
    rcases List.append_eq_append_iff.mp hsplit with ⟨more, hfront, hmore⟩ | ⟨more, hwrite, _⟩
    · cases more with
      | nil =>
        rw [List.append_nil] at hfront
        exact hn (spells_unique (hfront ▸ spells_write millis) hs ▸ h)
      | cons d more =>
        obtain ⟨rfl, -⟩ := List.cons.inj hmore
        exact dot_not_mem_of_spells hs
          (hfront ▸ List.mem_append_right _ (List.mem_cons_self ..))
    · exact not_runsOver_append (hwrite ▸ spells_write millis) h
        ⟨front, [], (List.append_nil _).symm, hs, hn⟩
  have hne : trimList header.toList ≠ [] := by
    rw [htrim]
    simp
  rw [read_of_not_numeral hnum hover, if_neg hne]

end Timestamp
end SignedHooks
