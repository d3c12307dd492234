/-
# What a reader of decimal integers answers

A text spells an integer if it is an optional sign and at least one digit
(`Decimal.Spells`). The reader of integers of 64 bits goes from left to right
and looks at nothing behind the digit that takes it out of the range, so it
has three answers: the integer, if the text spells one of the range
(`Signed64.read_of_spells`); a fault of size, if the text begins with the
spelling of an integer that is out of the range, whatever comes behind
(`Signed64.read_of_runsOver`); and otherwise that the text is no integer
(`Signed64.read_of_not_numeral`).

Key definitions: `Decimal.Spells`, `Decimal.IsNumeral`, `Signed64.RunsOver`.
Key theorems: `Signed64.read_of_spells`, `Signed64.read_of_runsOver`,
`Signed64.read_of_not_numeral`, `Decimal.spells_unique`.
-/
import Mathlib.Data.List.TakeWhile
import SignedHooks.Decimal.Signed64

namespace SignedHooks

namespace Decimal

/-- At least one character, and only digits. -/
def Digits (cs : List Char) : Prop :=
  cs ≠ [] ∧ ∀ c ∈ cs, c.isDigit = true

/-- `cs` spells the integer in decimal: at least one digit, with a sign in
front or none. -/
inductive Spells : List Char → Int → Prop where
  /-- Digits alone. -/
  | plain {ds : List Char} : Digits ds → Spells ds (ofDigits ds)
  /-- Digits behind a plus. -/
  | plus {ds : List Char} : Digits ds → Spells ('+' :: ds) (ofDigits ds)
  /-- Digits behind a minus. -/
  | minus {ds : List Char} : Digits ds → Spells ('-' :: ds) (-ofDigits ds)

/-- `cs` is an optional sign and at least one digit. -/
def IsNumeral (cs : List Char) : Prop :=
  ∃ n, Spells cs n

theorem digits_digitsOf (n : Nat) : Digits (digitsOf n) :=
  ⟨Nat.toDigits_ne_nil, fun _ hc => Nat.isDigit_of_mem_toDigits (by decide) (by decide) hc⟩

theorem ofDigits_digitsOf (n : Nat) : ofDigits (digitsOf n) = n :=
  Nat.ofDigitChars_toDigits (by decide) (by decide)

/-- Digits more never make a number less. -/
theorem le_ofDigitChars : ∀ (ds : List Char) (n : Nat), n ≤ Nat.ofDigitChars 10 ds n
  | [], n => by simp
  | c :: ds, n => by
    rw [Nat.ofDigitChars_cons]
    have := le_ofDigitChars ds (10 * n + (c.toNat - '0'.toNat))
    omega

/-- A text begins with digits, and what comes behind them does not. -/
theorem exists_digits_append (cs : List Char) : ∃ ds rest, cs = ds ++ rest ∧
    (∀ c ∈ ds, c.isDigit = true) ∧ ∀ c tail, rest = c :: tail → c.isDigit = false := by
  refine ⟨cs.takeWhile Char.isDigit, cs.dropWhile Char.isDigit,
    List.takeWhile_append_dropWhile.symm, fun c hc => List.mem_takeWhile_imp hc, ?_⟩
  intro c tail h
  have hhead : (cs.dropWhile Char.isDigit).head? = some c := by rw [h]; rfl
  have := List.head?_dropWhile_not Char.isDigit cs
  rw [hhead] at this
  simpa using this

/-- No sign is a digit. -/
theorem Digits.head_ne {c : Char} {ds : List Char} (h : Digits (c :: ds)) :
    c ≠ '+' ∧ c ≠ '-' := by
  have hc := h.2 c (List.mem_cons_self ..)
  constructor
  · rintro rfl; exact absurd hc (by decide)
  · rintro rfl; exact absurd hc (by decide)

theorem Spells.ne_nil {cs : List Char} {n : Int} (h : Spells cs n) : cs ≠ [] := by
  cases h with
  | plain hd => exact hd.1
  | plus _ => exact List.cons_ne_nil _ _
  | minus _ => exact List.cons_ne_nil _ _

/-- What spells an integer holds nothing but digits and signs. -/
theorem Spells.digit_or_sign {cs : List Char} {n : Int} (h : Spells cs n) {c : Char} (hc : c ∈ cs) :
    c.isDigit = true ∨ c = '+' ∨ c = '-' := by
  cases h with
  | plain hd => exact .inl (hd.2 c hc)
  | plus hd =>
    rcases List.mem_cons.mp hc with rfl | hc
    · exact .inr (.inl rfl)
    · exact .inl (hd.2 c hc)
  | minus hd =>
    rcases List.mem_cons.mp hc with rfl | hc
    · exact .inr (.inr rfl)
    · exact .inl (hd.2 c hc)

/-- A text spells one integer at most. -/
theorem spells_unique {cs : List Char} {m n : Int} (hm : Spells cs m) (hn : Spells cs n) :
    m = n := by
  cases hm with
  | plain hd =>
    cases hn with
    | plain _ => rfl
    | plus _ => exact absurd rfl hd.head_ne.1
    | minus _ => exact absurd rfl hd.head_ne.2
  | plus hd =>
    cases hn with
    | plain hd' => exact absurd rfl hd'.head_ne.1
    | plus _ => rfl
  | minus hd =>
    cases hn with
    | plain hd' => exact absurd rfl hd'.head_ne.2
    | minus _ => rfl

end Decimal

namespace Signed64

open Decimal

/-- `cs` begins with the spelling of `n`, which is out of the range. -/
def RunsOver (cs : List Char) (n : Int) : Prop :=
  ∃ front rest, cs = front ++ rest ∧ Spells front n ∧ ¬ Fits n

/-! ### The count -/

variable {limit : Nat} {beyond : Fault}

theorem count_cons_digit {c : Char} (hc : c.isDigit = true) (n : Nat) (cs : List Char) :
    count limit beyond n (c :: cs) =
      if limit < 10 * n + digitValue c then .error beyond
      else count limit beyond (10 * n + digitValue c) cs := by
  simp [count, hc]

/-- Digits that stay within the limit are counted in. -/
theorem count_append : ∀ (ds : List Char) (n : Nat) (rest : List Char),
    (∀ c ∈ ds, c.isDigit = true) → Nat.ofDigitChars 10 ds n ≤ limit →
    count limit beyond n (ds ++ rest) = count limit beyond (Nat.ofDigitChars 10 ds n) rest
  | [], n, rest, _, _ => by simp
  | c :: ds, n, rest, hd, hle => by
    have hc := hd c (List.mem_cons_self ..)
    have hds : ∀ d ∈ ds, d.isDigit = true := fun d h => hd d (List.mem_cons_of_mem _ h)
    rw [Nat.ofDigitChars_cons] at hle ⊢
    have hstep := le_ofDigitChars ds (10 * n + (c.toNat - '0'.toNat))
    have hnot : ¬ limit < 10 * n + digitValue c := by
      have : digitValue c = c.toNat - '0'.toNat := rfl
      omega
    rw [List.cons_append, count_cons_digit hc, if_neg hnot]
    exact count_append ds _ rest hds hle

/-- Behind the digits that go beyond the limit nothing is read. -/
theorem count_over : ∀ (ds : List Char) (n : Nat) (rest : List Char),
    (∀ c ∈ ds, c.isDigit = true) → n ≤ limit → limit < Nat.ofDigitChars 10 ds n →
    count limit beyond n (ds ++ rest) = .error beyond
  | [], n, rest, _, hn, hlt => by
    rw [Nat.ofDigitChars_nil] at hlt
    omega
  | c :: ds, n, rest, hd, hn, hlt => by
    have hc := hd c (List.mem_cons_self ..)
    have hds : ∀ d ∈ ds, d.isDigit = true := fun d h => hd d (List.mem_cons_of_mem _ h)
    rw [Nat.ofDigitChars_cons] at hlt
    rw [List.cons_append, count_cons_digit hc]
    by_cases h : limit < 10 * n + digitValue c
    · rw [if_pos h]
    · rw [if_neg h]
      exact count_over ds _ rest hds (by omega) hlt

/-- Digits within the limit are the number that they spell. -/
theorem count_of_le {ds : List Char} (hd : ∀ c ∈ ds, c.isDigit = true) (hle : ofDigits ds ≤ limit) :
    count limit beyond 0 ds = .ok (ofDigits ds) := by
  have h : count limit beyond 0 (ds ++ []) = _ := count_append ds 0 [] hd hle
  rw [List.append_nil] at h
  rw [h]
  rfl

/-- A text that is not all digits, and of which no digits at the beginning go
beyond the limit, is found out at the character that is no digit. -/
theorem count_notADigit {cs : List Char} (hne : cs ≠ []) (hbad : ¬ Digits cs)
    (hle : ∀ ds rest, cs = ds ++ rest → Digits ds → ofDigits ds ≤ limit) :
    count limit beyond 0 cs = .error .notADigit := by
  obtain ⟨ds, rest, rfl, hds, hrest⟩ := exists_digits_append cs
  cases rest with
  | nil => exact absurd ⟨hne, by simpa using hds⟩ hbad
  | cons c tail =>
    have hval : Nat.ofDigitChars 10 ds 0 ≤ limit := by
      cases ds with
      | nil => exact Nat.zero_le _
      | cons d ds => exact hle (d :: ds) (c :: tail) rfl ⟨List.cons_ne_nil d ds, hds⟩
    rw [count_append ds 0 _ hds hval]
    simp [count, hrest c tail rfl]

/-- The limit of what is read upwards. -/
theorem fits_natCast (n : Nat) : Fits n ↔ n ≤ greatest.natAbs := by
  unfold Fits least greatest
  omega

/-- The limit of what is read downwards. -/
theorem fits_neg_natCast (n : Nat) : Fits (-n) ↔ n ≤ least.natAbs := by
  unfold Fits least greatest
  omega

/-! ### The sign -/

theorem read_plus {cs : List Char} (h : cs ≠ []) : read ('+' :: cs) = countUp cs := by
  cases cs with
  | nil => exact absurd rfl h
  | cons c cs => simp [read]

theorem read_minus {cs : List Char} (h : cs ≠ []) : read ('-' :: cs) = countDown cs := by
  cases cs with
  | nil => exact absurd rfl h
  | cons c cs => simp [read]

theorem read_unsigned {c : Char} (hp : c ≠ '+') (hm : c ≠ '-') (cs : List Char) :
    read (c :: cs) = countUp (c :: cs) := by
  rw [read]
  · simp
  · simpa using fun h => absurd h hp
  · simpa using fun h => absurd h hm
  · simpa using fun h => absurd h hp
  · simpa using fun h => absurd h hm

/-! ### The three answers -/

/-- The spelling of an integer of the range is read as that integer. -/
theorem read_of_spells {cs : List Char} {n : Int} (h : Spells cs n) (hn : Fits n) :
    read cs = .ok n := by
  cases h with
  | plain hd =>
    cases cs with
    | nil => exact absurd rfl hd.1
    | cons c cs =>
      rw [read_unsigned hd.head_ne.1 hd.head_ne.2, countUp,
        count_of_le hd.2 ((fits_natCast _).mp hn)]
      rfl
  | plus hd =>
    rw [read_plus hd.1, countUp, count_of_le hd.2 ((fits_natCast _).mp hn)]
    rfl
  | minus hd =>
    rw [read_minus hd.1, countDown, count_of_le hd.2 ((fits_neg_natCast _).mp hn)]
    rfl

/-- Once the integer is out of the range, the rest of the text does not count. -/
theorem read_of_runsOver {cs : List Char} {n : Int} (h : RunsOver cs n) :
    read cs = .error (if n < 0 then .tooSmall else .tooLarge) := by
  obtain ⟨front, rest, rfl, hs, hn⟩ := h
  cases hs with
  | plain hd =>
    have hlt := Nat.lt_of_not_le fun h => hn ((fits_natCast _).mpr h)
    rw [if_neg (by omega)]
    cases front with
    | nil => exact absurd rfl hd.1
    | cons c ds =>
      rw [List.cons_append, read_unsigned hd.head_ne.1 hd.head_ne.2, countUp, ← List.cons_append,
        count_over _ 0 rest hd.2 (Nat.zero_le _) hlt]
      rfl
  | plus hd =>
    have hlt := Nat.lt_of_not_le fun h => hn ((fits_natCast _).mpr h)
    rw [if_neg (by omega), List.cons_append, read_plus (List.append_ne_nil_of_left_ne_nil hd.1 rest),
      countUp, count_over _ 0 rest hd.2 (Nat.zero_le _) hlt]
    rfl
  | minus hd =>
    have hlt := Nat.lt_of_not_le fun h => hn ((fits_neg_natCast _).mpr h)
    rw [if_pos (by omega), List.cons_append, read_minus (List.append_ne_nil_of_left_ne_nil hd.1 rest),
      countDown, count_over _ 0 rest hd.2 (Nat.zero_le _) hlt]
    rfl

/-- No beginning of the spelling of an integer of the range runs over. -/
theorem not_runsOver_append {front rest : List Char} {m n : Int} (h : Spells (front ++ rest) n)
    (hn : Fits n) : ¬ RunsOver front m := by
  rintro ⟨start, behind, rfl, hs, hm⟩
  have hrun : RunsOver (start ++ behind ++ rest) m :=
    ⟨start, behind ++ rest, List.append_assoc .., hs, hm⟩
  have hread := read_of_spells h hn
  rw [read_of_runsOver hrun] at hread
  cases hread

/-- A text that spells no integer, and does not run over before that shows, is
no integer. -/
theorem read_of_not_numeral {cs : List Char} (hbad : ¬ IsNumeral cs)
    (hover : ∀ n, ¬ RunsOver cs n) :
    read cs = .error (if cs = [] then .empty else .notADigit) := by
  cases cs with
  | nil => rfl
  | cons c ds =>
    rw [if_neg (List.cons_ne_nil c ds)]
    by_cases hnil : ds = [] ∧ (c = '+' ∨ c = '-')
    · obtain ⟨rfl, rfl | rfl⟩ := hnil <;> rfl
    by_cases hp : c = '+'
    · have hne : ds ≠ [] := fun h => hnil ⟨h, .inl hp⟩
      subst hp
      rw [read_plus hne, countUp, count_notADigit hne fun hd => hbad ⟨_, .plus hd⟩]
      · rfl
      intro front rest heq hd
      rw [← fits_natCast]
      by_contra hn
      exact hover _ ⟨'+' :: front, rest, by rw [heq, List.cons_append], .plus hd, hn⟩
    by_cases hm : c = '-'
    · have hne : ds ≠ [] := fun h => hnil ⟨h, .inr hm⟩
      subst hm
      rw [read_minus hne, countDown, count_notADigit hne fun hd => hbad ⟨_, .minus hd⟩]
      · rfl
      intro front rest heq hd
      rw [← fits_neg_natCast]
      by_contra hn
      exact hover _ ⟨'-' :: front, rest, by rw [heq, List.cons_append], .minus hd, hn⟩
    rw [read_unsigned hp hm, countUp,
      count_notADigit (List.cons_ne_nil c ds) fun hd => hbad ⟨_, .plain hd⟩]
    · rfl
    intro front rest heq hd
    rw [← fits_natCast]
    by_contra hn
    exact hover _ ⟨front, rest, heq, .plain hd, hn⟩

end Signed64
end SignedHooks
