/-
# Every way to write a timestamp

An integer is written in decimal as a sign, zeros in front, and its digits; a
sign may be missing if it is a plus, and so may the zeros (`Decimal.Written`).
This is what it takes to spell an integer, and there is no other spelling
(`Decimal.spells_iff_written`): digits without the zeros in front are the digits
of their number (`Decimal.exists_zeros_append`).

A header states an integer if it is the integer in decimal with blank space around
it, or none (`Timestamp.States`). However it is written, it is read as this integer
brought into the range of 64 bits, so in the order of the integers
(`Timestamp.read_states`).

Key definitions: `Decimal.Sign`, `Decimal.Written`, `Timestamp.States`.
Key theorems: `Decimal.spells_iff_written`, `Timestamp.states_iff_spells`,
`Timestamp.read_states`.
-/
import SignedHooks.Proofs.Timestamp

namespace SignedHooks

namespace Decimal

/-- What may stand in front of the digits of `n`. -/
inductive Sign (n : Int) : List Char → Prop where
  /-- Nothing, if it is not negative. -/
  | none : 0 ≤ n → Sign n []
  /-- A plus, if it is not negative. -/
  | plus : 0 ≤ n → Sign n ['+']
  /-- A minus, if it is not positive. -/
  | minus : n ≤ 0 → Sign n ['-']

/-- `cs` is `n` in decimal: a sign, any number of zeros, and the digits. -/
def Written (n : Int) (cs : List Char) : Prop :=
  ∃ sign zeros, Sign n sign ∧ cs = sign ++ (List.replicate zeros '0' ++ digitsOf n.natAbs)

/-! ### Zeros in front -/

theorem ofDigits_zero_cons (ds : List Char) : ofDigits ('0' :: ds) = ofDigits ds := rfl

/-- Zeros in front do not count. -/
theorem ofDigits_zeros_append (zeros : Nat) (ds : List Char) :
    ofDigits (List.replicate zeros '0' ++ ds) = ofDigits ds := by
  induction zeros with
  | zero => rfl
  | succ zeros ih => rw [List.replicate_succ, List.cons_append, ofDigits_zero_cons, ih]

theorem Digits.zeros_append {ds : List Char} (h : Digits ds) (zeros : Nat) :
    Digits (List.replicate zeros '0' ++ ds) := by
  refine ⟨List.append_ne_nil_of_right_ne_nil _ h.1, fun c hc => ?_⟩
  rcases List.mem_append.mp hc with hc | hc
  · rw [List.eq_of_mem_replicate hc]
    decide
  · exact h.2 c hc

/-- A digit is the one of its number. -/
theorem digitsOf_digitValue {c : Char} (h : c.isDigit = true) : digitsOf (digitValue c) = [c] := by
  have hlt := digitValue_lt h
  have hchar : Nat.digitChar (digitValue c) = c := by
    have h48 : 48 ≤ c.toNat := by
      simp only [Char.isDigit, Bool.and_eq_true, decide_eq_true_eq] at h
      exact h.1
    apply Char.toNat_inj.mp
    rw [Nat.toNat_digitChar_of_lt_ten hlt, digitValue]
    omega
  rw [digitsOf, Nat.toDigits_of_lt_base hlt, hchar]

/-- A digit more behind the digits of a number. -/
theorem digitsOf_append {n : Nat} (hn : 0 < n) {c : Char} (h : c.isDigit = true) :
    digitsOf n ++ [c] = digitsOf (10 * n + digitValue c) := by
  rw [← digitsOf_digitValue h]
  exact Nat.toDigits_append_toDigits (by decide) hn (digitValue_lt h)

/-- Digits are the digits of their number, with zeros in front. -/
theorem exists_zeros_append {ds : List Char} (h : Digits ds) :
    ∃ zeros, ds = List.replicate zeros '0' ++ digitsOf (ofDigits ds) := by
  -- From the right, so that a digit more is the last one of the number.
  induction ds using List.reverseRecOn with
  | nil => exact absurd rfl h.1
  | append_singleton ds c ih =>
    have hc : c.isDigit = true := h.2 c (List.mem_append_right ds List.mem_cons_self)
    rw [ofDigits_append]
    by_cases hnil : ds = []
    · subst hnil
      exact ⟨0, by simp [digitsOf_digitValue hc]⟩
    obtain ⟨zeros, hds⟩ := ih ⟨hnil, fun d hd => h.2 d (List.mem_append_left [c] hd)⟩
    rcases Nat.eq_zero_or_pos (ofDigits ds) with hzero | hpos
    · -- All digits so far are zeros, the last of them the digit of nought.
      rw [hzero] at hds ⊢
      refine ⟨zeros + 1, ?_⟩
      rw [Nat.mul_zero, Nat.zero_add, digitsOf_digitValue hc, hds, List.replicate_succ']
      rfl
    · refine ⟨zeros, ?_⟩
      rw [← digitsOf_append hpos hc, ← List.append_assoc, ← hds]

/-! ### Spelling -/

theorem digits_written (zeros n : Nat) : Digits (List.replicate zeros '0' ++ digitsOf n) :=
  (digits_digitsOf n).zeros_append zeros

theorem ofDigits_written (zeros n : Nat) :
    ofDigits (List.replicate zeros '0' ++ digitsOf n) = n := by
  rw [ofDigits_zeros_append, ofDigits_digitsOf]

theorem Written.spells {n : Int} {cs : List Char} (h : Written n cs) : Spells cs n := by
  obtain ⟨sign, zeros, hsign, rfl⟩ := h
  have hdigits := digits_written zeros n.natAbs
  have hvalue := ofDigits_written zeros n.natAbs
  cases hsign with
  | none hn =>
    have hspells := Spells.plain hdigits
    rwa [hvalue, Int.natAbs_of_nonneg hn] at hspells
  | plus hn =>
    have hspells := Spells.plus hdigits
    rwa [hvalue, Int.natAbs_of_nonneg hn] at hspells
  | minus hn =>
    have hspells := Spells.minus hdigits
    rwa [hvalue, show -(n.natAbs : Int) = n by omega] at hspells

theorem Spells.written {n : Int} {cs : List Char} (h : Spells cs n) : Written n cs := by
  cases h with
  | plain hdigits =>
    obtain ⟨zeros, hzeros⟩ := exists_zeros_append hdigits
    exact ⟨[], zeros, .none (by omega), hzeros⟩
  | @plus ds hdigits =>
    obtain ⟨zeros, hzeros⟩ := exists_zeros_append hdigits
    exact ⟨['+'], zeros, .plus (by omega), congrArg ('+' :: ·) hzeros⟩
  | @minus ds hdigits =>
    obtain ⟨zeros, hzeros⟩ := exists_zeros_append hdigits
    refine ⟨['-'], zeros, .minus (by omega), ?_⟩
    rw [Int.natAbs_neg, Int.natAbs_natCast]
    exact congrArg ('-' :: ·) hzeros

/-- To spell an integer is to write it in decimal. -/
theorem spells_iff_written {n : Int} {cs : List Char} : Spells cs n ↔ Written n cs :=
  ⟨Spells.written, Written.spells⟩

end Decimal

namespace Timestamp

open Decimal Signed64 Text

/-- The header is `n` in decimal, with blank space around it or none. -/
def States (header : String) (n : Int) : Prop :=
  ∃ cs, Written n cs ∧ Padded cs header.toList

/-- A header states what it spells when it is trimmed. -/
theorem states_iff_spells {header : String} {n : Int} :
    States header n ↔ Spells (trimList header.toList) n := by
  constructor
  · intro h
    obtain ⟨cs, hwritten, hpadded⟩ := h
    have hspells := spells_iff_written.mpr hwritten
    have htrim : trimList header.toList = cs :=
      trimList_eq_iff.mpr ⟨trimmed_of_no_blank fun _ => isBlank_of_spells hspells, hpadded⟩
    rwa [htrim]
  · intro h
    exact ⟨trimList header.toList, spells_iff_written.mp h, padded_trimList header.toList⟩

theorem read_of_states {header : String} {n : Int} (h : States header n) :
    read header = .ok (clamp n) :=
  read_of_spells (states_iff_spells.mp h)

theorem states_write (n : Int) : States (write n) n := by
  rw [states_iff_spells, trimList_write]
  exact spells_write n

/-- **Timestamps of any size.** However an integer is written, it is read as itself
brought into the range of 64 bits. So what is written for an integer of the range is
read back, and of two headers the one that states the greater integer, or the same, is
not read as less than the other. -/
theorem read_states :
    (∀ header n, States header n → read header = .ok (clamp n)) ∧
    (∀ n, Fits n → States (write n) n ∧ read (write n) = .ok n) ∧
    ∀ header header' m n, States header m → States header' n → m ≤ n →
      ∃ s t, read header = .ok s ∧ read header' = .ok t ∧ s ≤ t := by
  refine ⟨fun header n h => read_of_states h, fun n hn => ⟨states_write n, read_write hn⟩, ?_⟩
  intro header header' m n hm hn hle
  exact ⟨clamp m, clamp n, read_of_states hm, read_of_states hn, clamp_mono hle⟩

/-- The first integer above the range, with a plus, zeros in front and blank space. -/
def paddedEdge : String := "\u3000\t+0009223372036854775808\u0085\n"

theorem states_paddedEdge : States paddedEdge 9223372036854775808 :=
  ⟨"+0009223372036854775808".toList, ⟨['+'], 3, .plus (by decide), by decide⟩,
    ['\u3000', '\t'], ['\u0085', '\n'], by simp [Blank]; decide, by simp [Blank]; decide, by decide⟩

/-- It is read as the greatest integer of the range, and not as less than the least. -/
theorem read_paddedEdge : States paddedEdge 9223372036854775808 ∧
    read paddedEdge = .ok greatest ∧ Fits least ∧ read (write least) = .ok least ∧
    ∃ s t, read (write least) = .ok s ∧ read paddedEdge = .ok t ∧ s ≤ t := by
  have hfits : Fits least := by decide
  obtain ⟨hread, hwrite, hmono⟩ := read_states
  refine ⟨states_paddedEdge, hread _ _ states_paddedEdge, hfits, (hwrite least hfits).2, ?_⟩
  exact hmono _ _ least 9223372036854775808 (hwrite least hfits).1 states_paddedEdge (by decide)

end Timestamp
end SignedHooks
